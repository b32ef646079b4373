import Rtsp.Fault

/-!
A request to stop, made once and for all. After it every fault counts as its consequence.
-/
namespace Rtsp

structure Cancellation where
  requested : Bool
  deriving DecidableEq, Repr

namespace Cancellation

def none : Cancellation := ⟨false⟩

def cancel (_ : Cancellation) : Cancellation := ⟨true⟩

def check (c : Cancellation) : Except Fault Unit :=
  if c.requested then .error .cancelled else .ok ()

def filter (c : Cancellation) (f : Fault) : Fault := if c.requested then .cancelled else f

end Cancellation

end Rtsp
