import Rtsp.Proofs.Text.Line
import Rtsp.Text.Case

/-!
Names in any letter case. What a name has in it but letters, it has in every spelling, so that a
spelling of a visible name is visible and has no other separators.
-/
namespace Rtsp.Text

theorem toLower_eq_self {c : Char} (h : ¬ (c.val ≥ 'A'.val ∧ c.val ≤ 'Z'.val)) : c.toLower = c :=
  dif_neg h

theorem toUpper_eq_self {c : Char} (h : ¬ (c.val ≥ 'a'.val ∧ c.val ≤ 'z'.val)) : c.toUpper = c :=
  dif_neg h

theorem toLower_of_isBlank {c : Char} (h : isBlank c = true) : c.toLower = c := by
  refine toLower_eq_self fun hupper => ?_
  have hlow : 65 ≤ c.toNat := UInt32.le_iff_toNat_le.mp hupper.1
  have hhigh : c.toNat ≤ 90 := UInt32.le_iff_toNat_le.mp hupper.2
  simp only [isBlank, blanks, List.contains_eq_mem, decide_eq_true_eq, List.mem_cons,
    List.not_mem_nil, or_false] at h
  omega

theorem toUpper_of_isBlank {c : Char} (h : isBlank c = true) : c.toUpper = c := by
  refine toUpper_eq_self fun hlower => ?_
  have hlow : 97 ≤ c.toNat := UInt32.le_iff_toNat_le.mp hlower.1
  have hhigh : c.toNat ≤ 122 := UInt32.le_iff_toNat_le.mp hlower.2
  simp only [isBlank, blanks, List.contains_eq_mem, decide_eq_true_eq, List.mem_cons,
    List.not_mem_nil, or_false] at h
  omega

/-- What holds of each of a run of characters. -/
theorem of_between {P : Char → Prop} {low count : Nat} (h : ∀ n < count, P (Char.ofNat (low + n)))
    {c : Char} (hlow : low ≤ c.toNat) (hhigh : c.toNat < low + count) : P c := by
  have hc := h (c.toNat - low) (by omega)
  rwa [Nat.add_sub_cancel' hlow, Char.ofNat_toNat] at hc

/-- What holds of each capital letter, and of whatever is its own lower case. -/
theorem of_capitals {P : Char → Prop} (h : ∀ n < 26, P (Char.ofNat (65 + n))) {c : Char}
    (hself : c.toLower = c → P c) : P c := by
  by_cases hupper : c.val ≥ 'A'.val ∧ c.val ≤ 'Z'.val
  · have hlow : 65 ≤ c.toNat := UInt32.le_iff_toNat_le.mp hupper.1
    have hhigh : c.toNat ≤ 90 := UInt32.le_iff_toNat_le.mp hupper.2
    exact of_between h hlow (by omega)
  · exact hself (toLower_eq_self hupper)

/-- What holds of each small letter, and of whatever is its own upper case. -/
theorem of_smalls {P : Char → Prop} (h : ∀ n < 26, P (Char.ofNat (97 + n))) {c : Char}
    (hself : c.toUpper = c → P c) : P c := by
  by_cases hlower : c.val ≥ 'a'.val ∧ c.val ≤ 'z'.val
  · have hlow : 97 ≤ c.toNat := UInt32.le_iff_toNat_le.mp hlower.1
    have hhigh : c.toNat ≤ 122 := UInt32.le_iff_toNat_le.mp hlower.2
    exact of_between h hlow (by omega)
  · exact hself (toUpper_eq_self hlower)

theorem toUpper_toLower (c : Char) : c.toLower.toUpper = c.toUpper := by
  have hall : ∀ n < 26, let c := Char.ofNat (65 + n); c.toLower.toUpper = c.toUpper := by decide
  exact of_capitals (P := fun c => c.toLower.toUpper = c.toUpper) hall fun hself => by rw [hself]

theorem toLower_toUpper (c : Char) : c.toUpper.toLower = c.toLower := by
  have hall : ∀ n < 26, let c := Char.ofNat (97 + n); c.toUpper.toLower = c.toLower := by decide
  exact of_smalls (P := fun c => c.toUpper.toLower = c.toLower) hall fun hself => by rw [hself]

theorem upper_lower (t : Text) : upper (lower t) = upper t := by
  rw [upper, lower, List.map_map]
  exact List.map_congr_left fun c _ => toUpper_toLower c

theorem lower_upper (t : Text) : lower (upper t) = lower t := by
  rw [upper, lower, List.map_map]
  exact List.map_congr_left fun c _ => toLower_toUpper c

/-- Without lower-case letters there is nothing to change. -/
theorem upper_of_isLower {t : Text} (h : ∀ c ∈ t, c.isLower = false) : upper t = t := by
  have hsame : ∀ c ∈ t, c.toUpper = id c := by
    refine fun c hc => toUpper_eq_self fun hin => ?_
    have hlower : c.isLower = true :=
      Bool.and_eq_true_iff.mpr ⟨decide_eq_true hin.1, decide_eq_true hin.2⟩
    rw [h c hc] at hlower
    cases hlower
  rw [upper, List.map_congr_left hsame, List.map_id]

variable {a b : Text}

theorem lower_eq_of_sameName (h : sameName a b = true) : lower a = lower b := beq_iff_eq.mp h

/-- It does not matter to which case both names are brought. -/
theorem sameName_iff_upper : sameName a b = true ↔ upper a = upper b := by
  rw [sameName, beq_iff_eq]
  constructor
  · intro h
    rw [← upper_lower a, h, upper_lower]
  · intro h
    rw [← lower_upper a, h, lower_upper]

theorem toLower_mem_of_sameName (h : sameName a b = true) {c : Char} (hc : c ∈ a) :
    c.toLower ∈ lower b :=
  lower_eq_of_sameName h ▸ List.mem_map_of_mem hc

theorem not_mem_of_sameName (h : sameName a b = true) {c : Char} (hc : c.toLower ∉ lower b) :
    c ∉ a :=
  fun hmem => hc (toLower_mem_of_sameName h hmem)

theorem blankless_of_sameName (h : sameName a b = true)
    (hb : ∀ c ∈ lower b, isBlank c = false) : ∀ c ∈ a, isBlank c = false := by
  intro c hc
  have hmem := toLower_mem_of_sameName h hc
  cases hblank : isBlank c with
  | false => rfl
  | true =>
    rw [toLower_of_isBlank hblank] at hmem
    exact hblank.symm.trans (hb c hmem)

end Rtsp.Text
