import Rtsp.Clock
import Rtsp.Halt
import Rtsp.Lifecycle

/-!
The supervisor moves a source through its life, publishes every state it enters, and keeps the
record of failures by which the source decides how to go on.
-/
namespace Rtsp

/-- What is remembered from attempt to attempt. The pause is there while the next attempt is
waited for, and the fallback to TCP is never taken back. -/
structure Reconnect where
  /-- The failures since a session last played. They are counted without a bound here; a count that
  is kept in 32 bits is the same as long as there are fewer than `2 ^ 32`. -/
  failures : Nat
  lastFault : Option Fault.Kind
  pause : Option Duration
  forceTcp : Bool
  deriving DecidableEq, Repr

namespace Reconnect

def fresh : Reconnect := ⟨0, none, none, false⟩

def fail (r : Reconnect) (f : Fault) : Reconnect :=
  { r with
    failures := r.failures + 1
    lastFault := some f.kind
    forceTcp := r.forceTcp || f.kind == .fallback }

def play (r : Reconnect) : Reconnect := { r with failures := 0, pause := none }

end Reconnect

/-- How the owner of a source answers the question when to try again: not at all, or after a
pause. The usual one is offered. -/
abbrev Policy := Reconnect → Duration → Option Duration

structure Supervisor where
  state : Lifecycle.State
  shared : Lifecycle.State
  published : List Lifecycle.State
  reconnect : Reconnect
  deriving DecidableEq, Repr

namespace Supervisor

def publish (s : Supervisor) : Supervisor :=
  { s with shared := s.state, published := s.published ++ [s.state] }

/-- A life begins by connecting. -/
def start (r : Reconnect) : Supervisor :=
  publish ⟨.connecting, .terminated, [], r⟩

/-- An event that does not fit changes nothing. -/
def fire (s : Supervisor) (e : Lifecycle.Event) : Supervisor :=
  match Lifecycle.next? s.state e with
  | some next => publish { s with state := next }
  | none => s

def recordFailure (s : Supervisor) (f : Fault) : Supervisor :=
  { s with reconnect := s.reconnect.fail f }

def recordPlay (s : Supervisor) : Supervisor := { s with reconnect := s.reconnect.play }

/-- The pause before the next attempt, which is remembered; the clock has to tell when it is over. -/
def pause (s : Supervisor) (policy : Policy) (usual : Duration) (now : Clock) :
    Except Halt (Option Duration × Supervisor) :=
  match policy s.reconnect usual with
  | none => .ok (none, s)
  | some d =>
    match now.after? d with
    | some _ => .ok (some d, { s with reconnect := { s.reconnect with pause := some d } })
    | none => .error .overflow

end Supervisor

end Rtsp
