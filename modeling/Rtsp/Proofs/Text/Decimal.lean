import Mathlib.Algebra.Group.Nat.Defs
import Mathlib.Data.List.Basic
import Mathlib.Data.List.TakeWhile
import Rtsp.Proofs.Text.Line

/-!
Decimal numbers as they are written. A number has a zero in front only if it is zero, its last digit
tells its rest by ten, and zeros in front up to a width change nothing of its value. What is made of
digits is taken from the beginning of a text as far as it goes.
-/
namespace Rtsp.Text

section Scan

variable {p : Char → Bool} {a b : Text}

/-- A scan stops where the first character comes that is none of its own. -/
theorem takeWhile_append_stop (ha : ∀ c ∈ a, p c = true) (hb : ∀ c ∈ b.head?, p c = false) :
    (a ++ b).takeWhile p = a := by
  rw [List.takeWhile_append_of_pos ha]
  cases b with
  | nil => rw [List.takeWhile_nil, List.append_nil]
  | cons c b => rw [List.takeWhile_cons_of_neg (by simp [hb c rfl]), List.append_nil]

theorem dropWhile_append_stop (ha : ∀ c ∈ a, p c = true) (hb : ∀ c ∈ b.head?, p c = false) :
    (a ++ b).dropWhile p = b := by
  rw [List.dropWhile_append_of_pos ha]
  cases b with
  | nil => rfl
  | cons c b => rw [List.dropWhile_cons_of_neg (by simp [hb c rfl])]

end Scan

theorem not_mem_of_isDigit {t : Text} {c : Char} (h : ∀ c ∈ t, c.isDigit = true)
    (hc : c.isDigit = false) : c ∉ t := fun hmem => by
  rw [h c hmem] at hc
  cases hc

/-- A whole number as it is written shortest: a zero in front is all of it. -/
structure Whole (t : Text) : Prop where
  ne_nil : t ≠ []
  isDigit : ∀ c ∈ t, c.isDigit = true
  eq_zero : t.head? = some '0' → t = ['0']

theorem digitChar_ne_zero {n : Nat} (hpos : 0 < n) (hlt : n < 10) : n.digitChar ≠ '0' := by
  have hall : ∀ n < 10, 0 < n → n.digitChar ≠ '0' := by decide
  exact hall n hlt hpos

theorem head?_decimal {n : Nat} (hpos : 0 < n) : (decimal n).head? ≠ some '0' := by
  unfold decimal
  induction n using Nat.strongRecOn with
  | ind n ih =>
    rw [Nat.toDigits_eq_if (by decide)]
    split
    · rename_i hlt
      simpa using digitChar_ne_zero hpos hlt
    · rw [List.head?_append_of_ne_nil _ Nat.toDigits_ne_nil]
      exact ih (n / 10) (by omega) (by omega)

theorem getLast?_decimal (n : Nat) : (decimal n).getLast? = some (n % 10).digitChar := by
  rw [decimal, Nat.toDigits_eq_if (by decide)]
  split
  · rename_i hlt
    rw [Nat.mod_eq_of_lt hlt]
    rfl
  · rw [List.getLast?_append, List.getLast?_singleton, Option.some_or]

theorem ofDigitChars_decimal (n : Nat) : Nat.ofDigitChars 10 (decimal n) 0 = n :=
  Nat.ofDigitChars_ten_toDigits

theorem whole_decimal (n : Nat) : Whole (decimal n) where
  ne_nil := decimal_ne_nil n
  isDigit _ hc := isDigit_of_mem_decimal hc
  eq_zero h := by
    rcases Nat.eq_zero_or_pos n with rfl | hpos
    · rfl
    · exact absurd h (head?_decimal hpos)

section Padded

variable {width n : Nat}

theorem isDigit_of_mem_padded {c : Char} (h : c ∈ padded width (decimal n)) : c.isDigit = true := by
  rcases List.mem_append.mp h with h | h
  · obtain rfl := List.eq_of_mem_replicate h
    rfl
  · exact isDigit_of_mem_decimal h

theorem ofDigitChars_padded (width n : Nat) :
    Nat.ofDigitChars 10 (padded width (decimal n)) 0 = n := by
  rw [padded, Nat.ofDigitChars_append, Nat.ofDigitChars_replicate_zero, Nat.mul_zero,
    ofDigitChars_decimal]

theorem length_padded (hwidth : 0 < width) (h : n < 10 ^ width) :
    (padded width (decimal n)).length = width := by
  have hle : (decimal n).length ≤ width := (Nat.length_toDigits_le_iff (by decide) hwidth).mpr h
  rw [padded, List.length_append, List.length_replicate, Nat.sub_add_cancel hle]

theorem getLast?_padded (width n : Nat) :
    (padded width (decimal n)).getLast? = some (n % 10).digitChar := by
  rw [padded, List.getLast?_append, getLast?_decimal, Option.some_or]

end Padded

end Rtsp.Text
