import Mathlib.Algebra.Group.Nat.Defs
import Rtsp.Proofs.Text.Blankless
import Rtsp.Proofs.Text.Case

/-!
Hexadecimal numbers. Reading one that was written gives the number back, and as many digits as a
number has, so large it can be at most. Letter case and zeros in front change nothing.
-/
namespace Rtsp.Text

theorem hexValue?_append (sum : Nat) (a b : Text) :
    hexValue? sum (a ++ b) = (hexValue? sum a).bind fun n => hexValue? n b := by
  induction a generalizing sum with
  | nil => rfl
  | cons c a ih =>
    cases hc : hexDigit? c with
    | none => simp only [List.cons_append, hexValue?, hc, Option.bind_none]
    | some d => simp only [List.cons_append, hexValue?, hc, ih]

theorem hexValue?_zeros (n : Nat) : hexValue? 0 (List.replicate n '0') = some 0 := by
  induction n with
  | zero => rfl
  | succ n ih => exact ih

theorem hexDigit?_digitChar {n : Nat} (h : n < 16) : hexDigit? n.digitChar = some n := by
  have hall : ∀ i : Fin 16, hexDigit? i.val.digitChar = some i.val := by decide
  exact hall ⟨n, h⟩

/-- Reading undoes writing. -/
theorem hexValue?_hexadecimal (n : Nat) : hexValue? 0 (hexadecimal n) = some n := by
  unfold hexadecimal
  induction n using Nat.strongRecOn with
  | ind n ih =>
    rw [Nat.toDigits_eq_if (by decide)]
    split
    · rename_i hlt
      simp only [hexValue?, hexDigit?_digitChar hlt, Nat.mul_zero, Nat.zero_add]
    · have hdigit : n % 16 < 16 := Nat.mod_lt n (by decide)
      rw [hexValue?_append, ih (n / 16) (by omega), Option.bind_some]
      simp only [hexValue?, hexDigit?_digitChar hdigit, Nat.div_add_mod]

theorem hexDigit?_lt {c : Char} {n : Nat} (h : hexDigit? c = some n) : n < 16 := by
  have hle : ∀ {a b : Char}, a ≤ b → a.toNat ≤ b.toNat := fun hab => hab
  unfold hexDigit? at h
  split at h
  · rename_i hc
    simp only [Char.isDigit, Bool.and_eq_true, decide_eq_true_eq] at hc
    have hc' : c.toNat ≤ '9'.toNat := hc.2
    have h9 : '9'.toNat - '0'.toNat = 9 := rfl
    have := Option.some.inj h
    omega
  split at h
  · rename_i hc
    have hc' := hle hc.2
    have hf : 'f'.toNat - 'a'.toNat = 5 := rfl
    have := Option.some.inj h
    omega
  split at h
  · rename_i hc
    have hc' := hle hc.2
    have hf : 'F'.toNat - 'A'.toNat = 5 := rfl
    have := Option.some.inj h
    omega
  · cases h

/-- Each digit makes room for sixteen times as much. -/
theorem hexValue?_lt {t : Text} {sum n : Nat} (h : hexValue? sum t = some n) :
    n < (sum + 1) * 16 ^ t.length := by
  induction t generalizing sum with
  | nil =>
    have := Option.some.inj h
    rw [List.length_nil, Nat.pow_zero]
    omega
  | cons c t ih =>
    unfold hexValue? at h
    split at h
    · cases h
    · rename_i d hd
      have hlt := hexDigit?_lt hd
      calc n < (16 * sum + d + 1) * 16 ^ t.length := ih h
        _ ≤ ((sum + 1) * 16) * 16 ^ t.length := Nat.mul_le_mul_right _ (by omega)
        _ = (sum + 1) * 16 ^ (c :: t).length := by
          rw [List.length_cons, Nat.pow_succ, Nat.mul_assoc, Nat.mul_comm 16]

theorem length_hexadecimal {n width : Nat} (hw : 0 < width) (h : n < 16 ^ width) :
    (hexadecimal n).length ≤ width :=
  (Nat.length_toDigits_le_iff (by decide) hw).mpr h

theorem hexadecimal_ne_nil (n : Nat) : hexadecimal n ≠ [] := Nat.toDigits_ne_nil

section Spelling

/-- Hexadecimal digits of a number, with zeros in front and in any letter case. -/
def SpellsHex (n : Nat) (t : Text) : Prop :=
  ∃ zeros, lower t = List.replicate zeros '0' ++ hexadecimal n

theorem hexDigit?_toLower (c : Char) : hexDigit? c.toLower = hexDigit? c := by
  have hall : ∀ n < 26, let c := Char.ofNat (65 + n); hexDigit? c.toLower = hexDigit? c := by
    decide
  exact of_capitals (P := fun c => hexDigit? c.toLower = hexDigit? c) hall fun hself => by
    rw [hself]

theorem hexDigit?_toUpper (c : Char) : hexDigit? c.toUpper = hexDigit? c := by
  rw [← hexDigit?_toLower, toLower_toUpper, hexDigit?_toLower]

theorem hexValue?_lower (sum : Nat) (t : Text) : hexValue? sum (lower t) = hexValue? sum t := by
  induction t generalizing sum with
  | nil => rfl
  | cons c t ih =>
    rw [lower, List.map_cons, hexValue?, hexValue?, hexDigit?_toLower]
    cases hexDigit? c with
    | none => rfl
    | some d => exact ih (16 * sum + d)

variable {n : Nat} {t : Text}

theorem SpellsHex.mem (h : SpellsHex n t) {c : Char} (hc : c ∈ t) :
    c.toLower ∈ "0123456789abcdef*".toList := by
  obtain ⟨zeros, hzeros⟩ := h
  have hmem : c.toLower ∈ List.replicate zeros '0' ++ hexadecimal n :=
    hzeros ▸ List.mem_map_of_mem hc
  rcases List.mem_append.mp hmem with hzero | hdigit
  · rw [List.eq_of_mem_replicate hzero]
    decide
  · exact mem_of_mem_toDigits (by decide) hdigit

theorem SpellsHex.not_mem (h : SpellsHex n t) {c : Char}
    (hc : c.toLower ∉ "0123456789abcdef*".toList) : c ∉ t :=
  fun hmem => hc (h.mem hmem)

theorem SpellsHex.blankless (h : SpellsHex n t) : Blankless t := by
  intro c hc
  cases hblank : isBlank c with
  | false => rfl
  | true =>
    have hmem := h.mem hc
    rw [toLower_of_isBlank hblank] at hmem
    exact hblank.symm.trans (isBlank_of_mem_digits hmem)

theorem SpellsHex.ne_nil (h : SpellsHex n t) : t ≠ [] := by
  rintro rfl
  obtain ⟨zeros, hzeros⟩ := h
  exact hexadecimal_ne_nil n (List.append_eq_nil_iff.mp hzeros.symm).2

theorem unsigned_eq_self (h : '+' ∉ t) : unsigned t = t := by
  unfold unsigned
  split
  · exact absurd List.mem_cons_self h
  · rfl

/-- A number that fits is read in every spelling. -/
theorem SpellsHex.hexNatural? (h : SpellsHex n t) {width : Nat} (hn : n < bound width) :
    hexNatural? width t = some n := by
  have hunsigned : unsigned t = t := unsigned_eq_self (h.not_mem (by decide))
  have hne := h.ne_nil
  have hvalue : hexValue? 0 t = some n := by
    obtain ⟨zeros, hzeros⟩ := h
    rw [← hexValue?_lower, hzeros, hexValue?_append, hexValue?_zeros, Option.bind_some,
      hexValue?_hexadecimal]
  cases t with
  | nil => exact absurd rfl hne
  | cons c t => simp only [Text.hexNatural?, hunsigned, hvalue, hn, if_true]

/-- The eight digits that are written are one of the spellings. -/
theorem spellsHex_padded (width n : Nat) : SpellsHex n (padded width (upper (hexadecimal n))) := by
  have hall : ∀ c ∈ "0123456789abcdef*".toList, c.toUpper.toLower = c := by decide
  have hlower : (hexadecimal n).map (Char.toLower ∘ Char.toUpper) = hexadecimal n := by
    calc (hexadecimal n).map (Char.toLower ∘ Char.toUpper)
        = (hexadecimal n).map id :=
          List.map_congr_left fun c hc => hall c (mem_of_mem_toDigits (by decide) hc)
      _ = hexadecimal n := List.map_id _
  refine ⟨width - (upper (hexadecimal n)).length, ?_⟩
  rw [padded, lower, List.map_append, List.map_replicate, show '0'.toLower = '0' by decide]
  rw [upper, List.map_map, hlower]

end Spelling

end Rtsp.Text
