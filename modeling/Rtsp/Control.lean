import Rtsp.Text.Blank

/-!
Where a control attribute points. An asterisk or nothing stands for the base itself, an absolute
address for itself, a path from the root keeps the base's scheme and authority, and all else is
appended to the base.
-/
namespace Rtsp.Control

/-- The base up to the first slash behind its authority; the whole base if it has none. -/
def root (base : Text) : Text :=
  match base with
  | [] => []
  | c :: rest =>
    match Text.after? "://".toList base with
    | some authority => "://".toList ++ authority.takeWhile (· != '/')
    | none => c :: root rest

def isAbsolute (control : Text) : Bool :=
  "rtsp://".toList.isPrefixOf control || "rtsps://".toList.isPrefixOf control

/-- The address of `control` under `base`. -/
def resolve (base control : Text) : Text :=
  let control := Text.trim control
  if control = [] ∨ control = ['*'] then base
  else if isAbsolute control then control
  else if control.head? = some '/' then root base ++ control
  else if base.getLast? = some '/' then base ++ control
  else base ++ '/' :: control

end Rtsp.Control
