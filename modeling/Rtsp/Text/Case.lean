import Rtsp.Text.Basic

/-!
Letter case counts for nothing in names of the protocol, and only the ASCII letters have case
there: every other character stands for itself.
-/
namespace Rtsp.Text

def lower (t : Text) : Text := t.map Char.toLower

def upper (t : Text) : Text := t.map Char.toUpper

/-- Two names that differ at most in the case of ASCII letters. -/
def sameName (a b : Text) : Bool := lower a == lower b

theorem sameName_refl (a : Text) : sameName a a = true := by simp [sameName]

theorem sameName_comm (a b : Text) : sameName a b = sameName b a := by
  rw [sameName, sameName, Bool.beq_comm]

theorem sameName_trans {a b c : Text} (h : sameName a b = true) (h' : sameName b c = true) :
    sameName a c = true := by
  simp_all [sameName]

end Rtsp.Text
