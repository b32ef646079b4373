import Rtsp.Fingerprint
import Rtsp.Locator
import Rtsp.PlayRange
import Rtsp.Session

/-!
What a source is told before it starts. A draft is what was said, and settings are a draft that
makes sense: every fault that lies in them is found here, and none later.
-/
namespace Rtsp

namespace Settings

/-- The lower transport that is wished for. Without a wish UDP is tried first. -/
inductive Preference
  | auto
  | udp
  | tcp
  deriving DecidableEq, Repr

namespace Preference

def name : Preference → Text
  | .auto => "auto".toList
  | .udp => "udp".toList
  | .tcp => "tcp".toList

/-- Letter case does not count, and nothing means no wish. -/
def parse (t : Text) : Except Fault Preference :=
  let name := Text.lower t
  if name = [] then .ok .auto
  else
    match [Preference.auto, .udp, .tcp].find? fun p => p.name == name with
    | some p => .ok p
    | none =>
      .error (.setting ("unknown transport '".toList ++ name ++
        "': expected udp, tcp or auto".toList))

/-- The mode of the next attempt. A secure connection carries the media itself, and so does one
after UDP has proved useless, unless UDP was asked for. -/
def mode (p : Preference) (secure useless : Bool) : Session.Mode :=
  if secure then .tcp
  else
    match p with
    | .tcp => .tcp
    | .udp => .udp
    | .auto => if useless then .tcp else .udp

end Preference

structure Draft where
  url : Text
  readTimeout : Duration
  writeTimeout : Duration
  queueSize : Nat
  transport : Preference
  rangeKind : PlayRange.Kind
  rangeStart : Text
  pin : Option Text
  retryPause : Duration
  deriving DecidableEq, Repr

/-- A draft that leaves everything but the address as it usually is. -/
def Draft.ofUrl (url : Text) : Draft :=
  { url := url
    readTimeout := .ofSeconds 10
    writeTimeout := .ofSeconds 10
    queueSize := 512
    transport := .auto
    rangeKind := .none
    rangeStart := []
    pin := none
    retryPause := .ofSeconds 5 }

end Settings

structure Settings where
  locator : Locator
  readTimeout : Duration
  writeTimeout : Duration
  queueSize : Nat
  transport : Settings.Preference
  rangeKind : PlayRange.Kind
  range : Option PlayRange
  pin : Option Text
  retryPause : Duration
  deriving DecidableEq, Repr

namespace Settings

def parsePin : Option Text → Except Fault (Option Text)
  | none => .ok none
  | some t =>
    match Fingerprint.parse? t with
    | some pin => .ok (some pin)
    | none => .error (.setting "fingerprint must be 64 hex digits (SHA-256)".toList)

/-- What the fields of a draft must satisfy together. -/
def check (d : Draft) (l : Locator) : Except Fault Unit :=
  if d.readTimeout = ⟨0⟩ ∨ d.writeTimeout = ⟨0⟩ then
    .error (.setting "read and write timeouts must be positive".toList)
  else if d.queueSize = 0 then
    .error (.setting "outgoing queue size must be at least 1".toList)
  else if l.isSecure ∧ d.transport = .udp then
    .error (.setting "rtsps sources only support TCP transport".toList)
  else .ok ()

def Draft.build (d : Draft) : Except Fault Settings := do
  let locator ← Locator.parse d.url
  check d locator
  let range ← PlayRange.parse d.rangeKind d.rangeStart
  let pin ← parsePin d.pin
  pure
    { locator := locator
      readTimeout := d.readTimeout
      writeTimeout := d.writeTimeout
      queueSize := d.queueSize
      transport := d.transport
      rangeKind := d.rangeKind
      range := range
      pin := pin
      retryPause := d.retryPause }

/-- The Range header of the request to play, if one is sent. -/
def rangeText (s : Settings) : Option Text := s.range.map PlayRange.text

/-- The mode of the next attempt. -/
def mode (s : Settings) (useless : Bool) : Session.Mode :=
  s.transport.mode s.locator.isSecure useless

end Settings

end Rtsp
