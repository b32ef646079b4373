import Rtsp.Text.Basic

/-!
The life of a source: it connects, shakes hands and plays; when an attempt fails it closes, and
then connects again or ends. A stop ends it from anywhere, and nothing follows the end.
-/
namespace Rtsp.Lifecycle

inductive State
  | connecting
  | handshaking
  | playing
  | closing
  | terminated
  deriving DecidableEq, Repr

def State.name : State → Text
  | .connecting => "connecting".toList
  | .handshaking => "handshaking".toList
  | .playing => "playing".toList
  | .closing => "closing".toList
  | .terminated => "terminated".toList

def State.all : List State := [.connecting, .handshaking, .playing, .closing, .terminated]

def State.ofName? (name : Text) : Option State := all.find? fun s => s.name == name

inductive Event
  | connected
  | played
  | failed
  | released (retry : Bool)
  | stop
  deriving DecidableEq, Repr

/-- The state after an event; none if the event does not fit the state. -/
def next? : State → Event → Option State
  | .terminated, _ => none
  | _, .stop => some .terminated
  | .connecting, .connected => some .handshaking
  | .handshaking, .played => some .playing
  | .connecting, .failed | .handshaking, .failed | .playing, .failed => some .closing
  | .closing, .released true => some .connecting
  | .closing, .released false => some .terminated
  | _, _ => none

end Rtsp.Lifecycle
