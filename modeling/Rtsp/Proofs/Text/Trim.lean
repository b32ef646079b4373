import Mathlib.Data.List.TakeWhile
import Rtsp.Proofs.Text.Blankless

/-!
What trimming takes away. Blanks that are put around a text go again, and nothing goes of a text
whose two ends can be seen.
-/
namespace Rtsp.Text

section Visible

/-- The last character is there, and is no blank. -/
def EndsVisibly (t : Text) : Prop := ∃ c, t.getLast? = some c ∧ isBlank c = false

theorem EndsVisibly.of_blankless {t : Text} (hne : t ≠ []) (h : Blankless t) : EndsVisibly t :=
  ⟨t.getLast hne, List.getLast?_eq_some_getLast hne, h _ (List.getLast_mem hne)⟩

theorem EndsVisibly.append {b : Text} (hb : EndsVisibly b) (a : Text) : EndsVisibly (a ++ b) := by
  obtain ⟨c, hc, hblank⟩ := hb
  exact ⟨c, by rw [List.getLast?_append, hc, Option.some_or], hblank⟩

theorem EndsVisibly.intercalate {sep : Text} {ts : List Text} (hne : ts ≠ [])
    (h : ∀ t ∈ ts, EndsVisibly t) : EndsVisibly (sep.intercalate ts) := by
  induction ts with
  | nil => exact absurd rfl hne
  | cons t ts ih =>
    cases ts with
    | nil =>
      rw [List.intercalate_singleton]
      exact h t List.mem_cons_self
    | cons t' ts =>
      rw [List.intercalate_cons_cons]
      exact (ih (List.cons_ne_nil t' ts) fun u hu => h u (List.mem_cons_of_mem t hu)).append _

theorem EndsVisibly.of_trim {t : Text} (hne : t ≠ []) (h : Text.trim t = t) : EndsVisibly t := by
  refine ⟨t.getLast hne, List.getLast?_eq_some_getLast hne, ?_⟩
  have hlast : t.getLast hne ∈ (Text.trim t).getLast? :=
    h.symm ▸ List.getLast?_eq_some_getLast hne
  rw [Text.trim, trimEnd, List.getLast?_reverse] at hlast
  exact head?_trimStart hlast

theorem length_trim_le (t : Text) : (Text.trim t).length ≤ t.length := by
  rw [Text.trim, trimEnd, List.length_reverse]
  calc ((trimStart t).reverse.dropWhile isBlank).length
      ≤ (trimStart t).reverse.length := (List.dropWhile_sublist _).length_le
    _ = (trimStart t).length := List.length_reverse
    _ ≤ t.length := (List.dropWhile_sublist _).length_le

/-- A text that was trimmed begins with no blank. -/
theorem head?_of_trim {t : Text} (h : Text.trim t = t) : ∀ c ∈ t.head?, isBlank c = false := by
  intro c hc
  cases t with
  | nil => cases hc
  | cons d t =>
    obtain rfl := Option.some.inj hc
    cases hblank : isBlank d with
    | false => rfl
    | true =>
      rw [trim_cons_of_isBlank hblank] at h
      have hle := length_trim_le t
      rw [h, List.length_cons] at hle
      omega

/-- Nothing is trimmed of a text whose two ends can be seen. -/
theorem EndsVisibly.trim {t : Text} (ht : EndsVisibly t) (hs : ∀ c ∈ t.head?, isBlank c = false) :
    trim t = t := by
  obtain ⟨d, hd, hblank⟩ := ht
  exact trim_eq_self hs fun x hx => Option.some.inj (hd.symm.trans hx) ▸ hblank

theorem EndsVisibly.trim_cons {c : Char} {t : Text} (hc : isBlank c = false) (ht : EndsVisibly t) :
    Text.trim (c :: t) = c :: t :=
  (ht.append [c]).trim fun _ hx => Option.some.inj hx ▸ hc

end Visible

section Blank

/-- There is nothing but blanks in the text. -/
abbrev AllBlank (t : Text) : Prop := ∀ c ∈ t, isBlank c = true

theorem trimEnd_append_of_blank {b : Text} (hb : AllBlank b) (t : Text) :
    trimEnd (t ++ b) = trimEnd t := by
  have hdrop : (b.reverse ++ t.reverse).dropWhile isBlank = t.reverse.dropWhile isBlank :=
    List.dropWhile_append_of_pos fun c hc => hb c (List.mem_reverse.mp hc)
  rw [trimEnd, List.reverse_append, hdrop, trimEnd]

theorem trimStart_append_of_blank {a : Text} (ha : AllBlank a) (t : Text) :
    trimStart (a ++ t) = trimStart t :=
  List.dropWhile_append_of_pos ha

theorem trim_append_of_blank {b : Text} (hb : AllBlank b) (t : Text) : trim (t ++ b) = trim t := by
  by_cases ht : AllBlank t
  · have hall : trimStart (t ++ b) = [] :=
      List.dropWhile_eq_nil_iff.mpr (List.forall_mem_append.mpr ⟨ht, hb⟩)
    rw [trim, trim, hall, show trimStart t = [] from List.dropWhile_eq_nil_iff.mpr ht]
  · have hstart : trimStart (t ++ b) = trimStart t ++ b := by
      have hne : (t.dropWhile isBlank).isEmpty = false := by
        rw [List.isEmpty_eq_false_iff, ne_eq, List.dropWhile_eq_nil_iff]
        exact ht
      rw [trimStart, List.dropWhile_append, hne]
      rfl
    rw [trim, hstart, trimEnd_append_of_blank hb, trim]

theorem trim_append_of_blank_left {a : Text} (ha : AllBlank a) (t : Text) :
    trim (a ++ t) = trim t := by
  rw [trim, trimStart_append_of_blank ha, trim]

/-- The text with blanks around it. -/
def Padded (t x : Text) : Prop := ∃ a b, AllBlank a ∧ AllBlank b ∧ x = a ++ t ++ b

theorem Padded.trim_eq {t x : Text} (h : Padded t x) : trim x = trim t := by
  obtain ⟨a, b, ha, hb, rfl⟩ := h
  rw [trim_append_of_blank hb, trim_append_of_blank_left ha]

theorem Padded.refl (t : Text) : Padded t t :=
  ⟨[], [], fun _ hc => absurd hc List.not_mem_nil, fun _ hc => absurd hc List.not_mem_nil, by simp⟩

theorem Padded.not_mem {t x : Text} (h : Padded t x) {c : Char} (hc : isBlank c = false)
    (ht : c ∉ t) : c ∉ x := by
  obtain ⟨a, b, ha, hb, rfl⟩ := h
  have hnot : ∀ {s : Text}, AllBlank s → c ∉ s := fun hs hmem => by
    rw [hs c hmem] at hc
    cases hc
  exact List.not_mem_append (List.not_mem_append (hnot ha) ht) (hnot hb)

end Blank

end Rtsp.Text
