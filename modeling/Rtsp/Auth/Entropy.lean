import Rtsp.Text.Number

/-!
A source of numbers that nobody can foresee, as the sequence of those it will give.
-/
namespace Rtsp.Auth

structure Entropy where
  word : Nat → UInt64
  drawn : Nat

namespace Entropy

/-- The sequence that counts up from `first`. -/
def counting (first : UInt64) : Entropy := ⟨fun n => first + n.toUInt64, 0⟩

/-- The next number, as sixteen hexadecimal digits. -/
def draw (e : Entropy) : Text × Entropy :=
  (Text.padded 16 (Text.hexadecimal (e.word e.drawn).toNat), { e with drawn := e.drawn + 1 })

end Entropy

end Rtsp.Auth
