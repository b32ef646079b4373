import Rtsp.Description.Section
import Rtsp.Halt
import Rtsp.Media.Medium

/-!
What a server offers: the media of a description that can be played. A medium can be played if it
is video, audio or application data over RTP and at least one of its payload types has a format: a
mapping of its own or, below 96, a fixed meaning.
-/
namespace Rtsp

structure Description where
  name : Text
  control : Text
  media : List Media.Medium
  deriving DecidableEq, Repr

namespace Description

/-- The parameters that a value assigns to a payload type. -/
def parametersOf? (payloadType : UInt8) (value : Text) : Option Text :=
  match Text.cut? ' ' (Text.trim value) with
  | some (p, parameters) =>
    if Text.uint8? p = some payloadType then some (Text.trim parameters) else none
  | none => none

/-- The first mapping of a payload type, or else its fixed meaning. -/
def mapping? (s : Section) (payloadType : UInt8) : Option Media.Format :=
  (((s.values "rtpmap").filterMap Media.Format.ofMapping?).find?
    fun f => f.payloadType == payloadType).or
    (if payloadType < Media.Format.firstDynamic then Media.Format.ofPayloadType? payloadType
      else none)

def format? (s : Section) (payloadType : UInt8) : Option Media.Format :=
  (mapping? s payloadType).map fun f =>
    { f with parameters := (s.values "fmtp").findSome? (parametersOf? payloadType) }

/-- The payload types of a heading; what is no number below 256 is passed over. -/
def payloadTypes (h : Heading) : List UInt8 := (Text.words h.formats).filterMap Text.uint8?

/-- The medium of a section, if it can be played. -/
def medium? (s : Section) : Option Media.Medium := do
  let h ← s.heading
  let kind ← Media.Kind.ofName? h.kind
  if "RTP/".toList.isPrefixOf h.profile then
    match (payloadTypes h).filterMap (format? s) with
    | [] => none
    | formats => some ⟨kind, s.control, formats⟩
  else none

def ofReading (r : Reading) : Except Defect Description :=
  match r.sections with
  | session :: media@(_ :: _) =>
    match media.filterMap medium? with
    | [] => .error .noPlayable
    | media => .ok ⟨r.name, session.control, media⟩
  | _ => .error .noSections

def read (t : Text) : Except Stop Description :=
  match Reading.ofText t with
  | .ok r => (ofReading r).mapError .defect
  | .error stop => .error stop

def Stop.halt : Stop → Halt
  | .defect d => .fault (.description d.message)
  | .stray => .stray

def parse (t : Text) : Except Halt Description := (read t).mapError Stop.halt

theorem media_ne_nil {r : Reading} {d : Description} (h : ofReading r = .ok d) : d.media ≠ [] := by
  unfold ofReading at h
  split at h
  · split at h
    · simp at h
    · rename_i hne
      simp only [Except.ok.injEq] at h
      subst h
      exact hne
  · simp at h

/-- The media are those of the sections behind the session's that can be played. -/
theorem media_of_reading {r : Reading} {d : Description} (h : ofReading r = .ok d) :
    d.media = r.sections.tail.filterMap medium? := by
  unfold ofReading at h
  split at h
  · rename_i heq
    split at h
    · simp at h
    · simp only [Except.ok.injEq] at h
      rw [heq, ← h, List.tail_cons]
  · simp at h

theorem exists_reading {t : Text} {d : Description} (h : parse t = .ok d) :
    ∃ r, Reading.ofText t = .ok r ∧ ofReading r = .ok d := by
  unfold parse read at h
  cases hreading : Reading.ofText t with
  | error stop =>
    rw [hreading] at h
    cases h
  | ok r =>
    refine ⟨r, rfl, ?_⟩
    rw [hreading] at h
    cases hd : ofReading r with
    | error defect =>
      simp only [hd] at h
      cases h
    | ok d' =>
      simp only [hd] at h
      exact congrArg Except.ok (Except.ok.inj h)

end Description

end Rtsp
