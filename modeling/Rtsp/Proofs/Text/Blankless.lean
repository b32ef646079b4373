import Rtsp.Proofs.Text.Line
import Rtsp.Text.Base64
import Rtsp.Text.Hex

/-!
What a text is made of. Numbers, hexadecimal digits and base64 have no blanks in them, since all
they are made of are visible characters of ASCII. Taking a text apart brings nothing into its parts
that was not in the text, so that parts of one line are on one line, and trimming a second time
changes nothing.
-/
namespace Rtsp.Text

/-- No blank is in the text. -/
abbrev Blankless (t : Text) : Prop := ∀ c ∈ t, isBlank c = false

theorem blankless_append {a b : Text} (ha : Blankless a) (hb : Blankless b) : Blankless (a ++ b) :=
  List.forall_mem_append.mpr ⟨ha, hb⟩

theorem blankless_cons {c : Char} {t : Text} (hc : isBlank c = false) (ht : Blankless t) :
    Blankless (c :: t) :=
  List.forall_mem_cons.mpr ⟨hc, ht⟩

theorem blankless_nil : Blankless [] := fun _ hc => absurd hc List.not_mem_nil

section Visible

theorem isBlank_of_visible {c : Char} (h : 0x21 ≤ c.toNat) (h' : c.toNat ≤ 0x7E) :
    isBlank c = false := by
  simp only [isBlank, blanks, List.contains_eq_mem, decide_eq_false_iff_not, List.mem_cons,
    List.not_mem_nil, or_false]
  omega

theorem digitChar_mem (n : Nat) : Nat.digitChar n ∈ "0123456789abcdef*".toList := by
  by_cases h : n < 16
  · have hall : ∀ n < 16, Nat.digitChar n ∈ "0123456789abcdef*".toList := by decide
    exact hall n h
  · unfold Nat.digitChar
    iterate 16 rw [if_neg (by omega)]
    decide

theorem mem_of_mem_toDigits {b : Nat} (hb : 1 < b) {n : Nat} {c : Char}
    (h : c ∈ Nat.toDigits b n) : c ∈ "0123456789abcdef*".toList := by
  induction n using Nat.strongRecOn with
  | ind n ih =>
    rw [Nat.toDigits_eq_if hb] at h
    split at h
    · exact List.mem_singleton.mp h ▸ digitChar_mem n
    · rename_i hn
      have hlt : n / b < n := Nat.div_lt_self (by omega) hb
      rcases List.mem_append.mp h with h | h
      · exact ih _ hlt h
      · exact List.mem_singleton.mp h ▸ digitChar_mem _

theorem mem_of_mem_hex {bytes : Bytes} {c : Char} (h : c ∈ Hex.encode bytes) :
    c ∈ "0123456789abcdef*".toList := by
  obtain ⟨b, -, hb⟩ := List.mem_flatMap.mp h
  simp only [Hex.encodeByte, List.mem_cons, List.not_mem_nil, or_false] at hb
  rcases hb with rfl | rfl <;> exact digitChar_mem _

theorem isBlank_of_mem_digits {c : Char} (h : c ∈ "0123456789abcdef*".toList) :
    isBlank c = false := by
  have hall : ∀ c ∈ "0123456789abcdef*".toList, isBlank c = false := by decide
  exact hall c h

theorem blankless_toDigits {b : Nat} (hb : 1 < b) (n : Nat) : Blankless (Nat.toDigits b n) :=
  fun _ hc => isBlank_of_mem_digits (mem_of_mem_toDigits hb hc)

theorem blankless_decimal (n : Nat) : Blankless (decimal n) := blankless_toDigits (by decide) n

theorem blankless_hexadecimal (n : Nat) : Blankless (hexadecimal n) :=
  blankless_toDigits (by decide) n

theorem blankless_padded (width : Nat) {t : Text} (h : Blankless t) : Blankless (padded width t) :=
  blankless_append (fun _ hc => (List.eq_of_mem_replicate hc).symm ▸ (by decide)) h

theorem blankless_hex (bytes : Bytes) : Blankless (Hex.encode bytes) :=
  fun _ hc => isBlank_of_mem_digits (mem_of_mem_hex hc)

theorem blankless_base64 : (bytes : Bytes) → Blankless (Base64.encode bytes) := by
  have hdigit : ∀ n, isBlank (Base64.digit n) = false := by
    intro n
    have hall : ∀ c ∈ Base64.alphabet, isBlank c = false := blankless_of_all (by decide)
    have hlt : n % 64 < Base64.alphabet.length := Nat.mod_lt n (by decide)
    rw [Base64.digit, List.getD_eq_getElem?_getD, List.getElem?_eq_getElem hlt, Option.getD_some]
    exact hall _ (List.getElem_mem hlt)
  have hfill : isBlank '=' = false := by decide
  intro bytes
  fun_induction Base64.encode bytes with
  | case1 => simp [Blankless]
  | case2 a => simp [Blankless, hdigit, hfill]
  | case3 a b => simp [Blankless, hdigit, hfill]
  | case4 a b c rest ih => simpa [Blankless, hdigit] using ih

end Visible

section Parts

variable {t : Text} {c : Char}

/-- Only the separator is new in what was put together. -/
theorem mem_intercalate {sep : Text} {ts : List Text} (h : c ∈ sep.intercalate ts) :
    c ∈ sep ∨ ∃ t ∈ ts, c ∈ t := by
  induction ts with
  | nil => cases h
  | cons t ts ih =>
    cases ts with
    | nil =>
      rw [List.intercalate_singleton] at h
      exact Or.inr ⟨t, List.mem_cons_self, h⟩
    | cons t' ts =>
      rw [List.intercalate_cons_cons] at h
      rcases List.mem_append.mp h with h | h
      · rcases List.mem_append.mp h with h | h
        · exact Or.inr ⟨t, List.mem_cons_self, h⟩
        · exact Or.inl h
      · rcases ih h with h | ⟨u, hu, h⟩
        · exact Or.inl h
        · exact Or.inr ⟨u, List.mem_cons_of_mem t hu, h⟩

theorem OneLine.subset {a b : Text} (hb : OneLine b) (h : a ⊆ b) : OneLine a := fun hn => hb (h hn)

/-- A piece has no separator in it, and nothing that was not there before. -/
theorem of_mem_splitOnP {p : Char → Bool} {piece : Text} (h : piece ∈ t.splitOnP p) :
    (∀ c ∈ piece, p c = false) ∧ piece ⊆ t := by
  induction t generalizing piece with
  | nil =>
    rw [List.splitOnP_nil, List.mem_singleton] at h
    subst h
    exact ⟨fun c hc => absurd hc List.not_mem_nil, List.nil_subset _⟩
  | cons x t ih =>
    rw [List.splitOnP_cons_eq_if_modifyHead] at h
    split at h
    · rcases List.mem_cons.mp h with rfl | h
      · exact ⟨fun c hc => absurd hc List.not_mem_nil, List.nil_subset _⟩
      · exact ⟨(ih h).1, List.subset_cons_of_subset x (ih h).2⟩
    · rename_i hx
      cases hpieces : t.splitOnP p with
      | nil => exact absurd hpieces (List.splitOnP_ne_nil p t)
      | cons first rest =>
        rw [hpieces] at h ih
        rcases List.mem_cons.mp h with rfl | h
        · obtain ⟨hfirst, hsubset⟩ := ih List.mem_cons_self
          exact ⟨List.forall_mem_cons.mpr ⟨Bool.eq_false_iff.mpr hx, hfirst⟩,
            List.cons_subset_cons x hsubset⟩
        · obtain ⟨hpiece, hsubset⟩ := ih (List.mem_cons_of_mem first h)
          exact ⟨hpiece, List.subset_cons_of_subset x hsubset⟩

theorem blankless_of_mem_words {word : Text} (h : word ∈ words t) : Blankless word :=
  (of_mem_splitOnP (List.mem_filter.mp h).1).1

theorem oneLine_of_mem_lines {l : Text} (h : l ∈ lines t) : OneLine l := by
  have hpiece : ∀ piece ∈ t.splitOn '\n', OneLine piece := by
    intro piece hpiece hn
    rw [List.splitOn_eq_splitOnP] at hpiece
    exact absurd ((of_mem_splitOnP hpiece).1 '\n' hn) (by decide)
  unfold lines at h
  rcases List.mem_append.mp h with h | h
  · obtain ⟨piece, hmem, rfl⟩ := List.mem_map.mp h
    have hone := hpiece piece (List.dropLast_subset _ hmem)
    unfold dropReturn
    split
    · exact hone.subset (List.dropLast_subset piece)
    · exact hone
  · split at h
    · cases h
    · rw [List.mem_singleton.mp h]
      cases hlast : (t.splitOn '\n').getLast? with
      | none => exact List.not_mem_nil
      | some piece => exact hpiece piece (List.mem_of_mem_getLast? hlast)

theorem trimStart_subset (t : Text) : trimStart t ⊆ t := List.dropWhile_subset _

theorem trimEnd_subset (t : Text) : trimEnd t ⊆ t := by
  intro c hc
  exact List.mem_reverse.mp (List.dropWhile_subset _ (List.mem_reverse.mp hc))

theorem trim_subset (t : Text) : trim t ⊆ t :=
  fun _ hc => trimStart_subset t (trimEnd_subset _ hc)

theorem head?_trimStart (hc : c ∈ (trimStart t).head?) : isBlank c = false := by
  have hnot := List.head?_dropWhile_not isBlank t
  rw [show (t.dropWhile isBlank).head? = some c from hc] at hnot
  exact hnot

/-- Neither end of what was trimmed is blank. -/
theorem trim_trim (t : Text) : trim (trim t) = trim t := by
  apply trim_eq_self
  · intro c hc
    obtain ⟨blanks, hblanks⟩ := List.dropWhile_suffix (l := (trimStart t).reverse) isBlank
    have hsplit : trimStart t = trim t ++ blanks.reverse := by
      rw [trim, trimEnd, ← List.reverse_append, hblanks, List.reverse_reverse]
    apply head?_trimStart (t := t)
    rw [hsplit, List.head?_append, Option.mem_def.mp hc, Option.some_or]
    rfl
  · intro c hc
    rw [trim, trimEnd, List.getLast?_reverse] at hc
    exact head?_trimStart hc

theorem oneLine_trim (h : OneLine t) : OneLine (trim t) := h.subset (trim_subset t)

theorem oneLine_intercalate {sep : Text} {ts : List Text} (hsep : OneLine sep)
    (h : ∀ t ∈ ts, OneLine t) : OneLine (sep.intercalate ts) := by
  intro hn
  rcases mem_intercalate hn with hn | ⟨t, ht, hn⟩
  · exact hsep hn
  · exact h t ht hn

end Parts

end Rtsp.Text
