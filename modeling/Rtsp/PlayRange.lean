import Rtsp.Duration
import Rtsp.Instant
import Rtsp.Text.Case

/-!
Where playing starts: at an instant, or at an offset from the beginning of the stream, given in
seconds or as a time code. Each is sent as a range without an end.
-/
namespace Rtsp

namespace PlayRange

inductive Kind
  | none
  | clock
  | npt
  | smpte
  deriving DecidableEq, Repr

def Kind.name : Kind → Text
  | .none => "none".toList
  | .clock => "clock".toList
  | .npt => "npt".toList
  | .smpte => "smpte".toList

/-- Letter case does not count, and nothing means none. -/
def Kind.parse (t : Text) : Except Fault Kind :=
  let name := Text.lower t
  if name = [] then .ok .none
  else
    match [Kind.none, .clock, .npt, .smpte].find? fun k => k.name == name with
    | some k => .ok k
    | Option.none =>
      .error (.setting ("unknown range type '".toList ++ name ++
        "': expected none, clock, npt or smpte".toList))

end PlayRange

inductive PlayRange
  | clock (start : Instant)
  | npt (start : Duration)
  | smpte (start : Duration)
  deriving DecidableEq, Repr

namespace PlayRange

def clockFault (start : Text) : Fault :=
  .setting ("invalid clock range start '".toList ++ start ++
    "': expected YYYYMMDDTHHMMSSZ".toList)

def parse (kind : Kind) (start : Text) : Except Fault (Option PlayRange) :=
  let start := Text.trim start
  match kind with
  | .none => .ok none
  | .clock =>
    match Instant.parse? start with
    | some i => .ok (some (.clock i))
    | none => .error (clockFault start)
  | .npt => (Duration.parse start).map fun d => some (.npt d)
  | .smpte => (Duration.parse start).map fun d => some (.smpte d)

/-- Hundredths as a decimal fraction without zeros at its end; nothing for zero. -/
def fraction (hundredths : Nat) : Text :=
  if hundredths = 0 then []
  else if hundredths % 10 = 0 then '.' :: Text.decimal (hundredths / 10)
  else '.' :: Text.padded 2 (Text.decimal hundredths)

/-- Seconds, rounded to hundredths with a half going up. -/
def nptText (d : Duration) : Text :=
  let hundredths := (d.nanos + 5000000) / 10000000
  Text.decimal (hundredths / 100) ++ fraction (hundredths % 100)

def sixty (n : Nat) : Text := Text.padded 2 (Text.decimal (n % 60))

/-- Hours, minutes and whole seconds. -/
def smpteText (d : Duration) : Text :=
  let seconds := d.seconds
  Text.decimal (seconds / 3600) ++ ':' :: sixty (seconds / 60) ++ ':' :: sixty seconds

/-- The value of a Range header. -/
def text : PlayRange → Text
  | .clock i => "clock=".toList ++ i.text ++ ['-']
  | .npt d => "npt=".toList ++ nptText d ++ ['-']
  | .smpte d => "smpte=".toList ++ smpteText d ++ ['-']

theorem text_clock (i : Instant) : (clock i).text = "clock=".toList ++ i.text ++ ['-'] := rfl

theorem text_npt (d : Duration) : (npt d).text = "npt=".toList ++ nptText d ++ ['-'] := rfl

theorem text_smpte (d : Duration) : (smpte d).text = "smpte=".toList ++ smpteText d ++ ['-'] := rfl

/-- The header value for a start as it is configured; none if no range is wanted. -/
def build (kind : Kind) (start : Text) : Except Fault (Option Text) :=
  (parse kind start).map fun r => r.map text

end PlayRange

end Rtsp
