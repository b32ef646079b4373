import Rtsp.Duration

/-!
A clock that goes on from its beginning and counts seconds in 63 bits. It cannot tell a moment that
is further off, so that there is no waiting for it.
-/
namespace Rtsp

structure Clock where
  shows : Duration
  deriving DecidableEq, Repr

namespace Clock

/-- The clock at its beginning. -/
def zero : Clock := ⟨⟨0⟩⟩

/-- How many nanoseconds the clock can tell. -/
def limit : Nat := Text.bound 63 * 1000000000

/-- The clock after some time, if it can tell that moment. -/
def after? (c : Clock) (span : Duration) : Option Clock :=
  let moment := c.shows.nanos + span.nanos
  if moment < limit then some ⟨⟨moment⟩⟩ else none

end Clock

end Rtsp
