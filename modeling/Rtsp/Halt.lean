import Rtsp.Fault

/-!
What a server sends, and what the owner asks for, can do worse than cause a fault. A fault is told to
the owner, and the next attempt may succeed; a halt that is no fault ends all work without a word.
-/
namespace Rtsp

/-- Why work breaks off: for a fault, because a sum does not fit, or at a stray line of a description.
There are two such sums: the length of a message and that of its head add up to more than a word can
hold, or a span of time leads to a moment that the clock cannot tell. -/
inductive Halt
  | fault (f : Fault)
  | overflow
  | stray
  deriving DecidableEq, Repr

end Rtsp
