import Rtsp.Proofs.Text.Utf8
import Rtsp.Text.Blank
import Rtsp.Text.Lines

/-!
Texts that stay on one line. A line that is written with its end is read back, and so are the words
and the parts that were written with blanks between them.
-/
namespace Rtsp.Text

/-- Decided for the characters of the text, whatever else can be decided about characters. -/
instance (priority := high) (t : Text) (P : Char → Prop) [DecidablePred P] :
    Decidable (∀ c ∈ t, P c) :=
  List.decidableBAll P t

/-- There is no line end in the text. -/
def Unbroken (t : Text) : Prop := '\r' ∉ t ∧ '\n' ∉ t

instance (t : Text) : Decidable (Unbroken t) := inferInstanceAs (Decidable ('\r' ∉ t ∧ '\n' ∉ t))

/-- There is no line feed in the text, so that a reader takes it for part of one line. -/
def OneLine (t : Text) : Prop := '\n' ∉ t

instance (t : Text) : Decidable (OneLine t) := inferInstanceAs (Decidable ('\n' ∉ t))

theorem Unbroken.oneLine {t : Text} (h : Unbroken t) : OneLine t := h.2

theorem oneLine_append {a b : Text} (ha : OneLine a) (hb : OneLine b) : OneLine (a ++ b) :=
  List.not_mem_append ha hb

theorem oneLine_cons {c : Char} {t : Text} (hc : c ≠ '\n') (ht : OneLine t) : OneLine (c :: t) :=
  List.not_mem_cons_of_ne_of_not_mem hc.symm ht

theorem oneLine_of_blankless {t : Text} (h : ∀ c ∈ t, isBlank c = false) : OneLine t :=
  fun hn => absurd (h _ hn) (by decide)

theorem blankless_of_all {t : Text} (h : (t.all fun c => !isBlank c) = true) :
    ∀ c ∈ t, isBlank c = false := by
  intro c hc
  exact Bool.not_eq_true' _ ▸ List.all_eq_true.mp h c hc

theorem isBlank_of_isDigit {c : Char} (h : c.isDigit = true) : isBlank c = false := by
  simp only [Char.isDigit, Bool.and_eq_true, decide_eq_true_eq, ge_iff_le,
    UInt32.le_iff_toNat_le] at h
  change 48 ≤ c.toNat ∧ c.toNat ≤ 57 at h
  simp only [isBlank, blanks, List.contains_eq_mem, decide_eq_false_iff_not, List.mem_cons,
    List.not_mem_nil, or_false]
  omega

theorem not_mem_decimal {c : Char} (hc : c.isDigit = false) (n : Nat) : c ∉ decimal n := by
  intro h
  rw [isDigit_of_mem_decimal h] at hc
  cases hc

theorem uint8?_decimal (n : UInt8) : uint8? (decimal n.toNat) = some n := by
  rw [uint8?, natural?_decimal n.toNat_lt, Option.map_some, UInt8.ofNat_toNat]

theorem uint16?_decimal (n : UInt16) : uint16? (decimal n.toNat) = some n := by
  rw [uint16?, natural?_decimal n.toNat_lt, Option.map_some, UInt16.ofNat_toNat]

theorem uint32?_decimal (n : UInt32) : uint32? (decimal n.toNat) = some n := by
  rw [uint32?, natural?_decimal n.toNat_lt, Option.map_some, UInt32.ofNat_toNat]

theorem isBlank_of_mem_decimal {n : Nat} {c : Char} (h : c ∈ decimal n) : isBlank c = false :=
  isBlank_of_isDigit (isDigit_of_mem_decimal h)

theorem lines_append_end {l : Text} (h : OneLine l) (t : Text) :
    lines (l ++ '\r' :: '\n' :: t) = l :: lines t := by
  have hn : '\n' ∉ l ++ ['\r'] := List.not_mem_append h (by decide)
  rw [List.append_cons, lines_append hn, dropReturn_append]

/-- Lines that are written with their ends, and an empty one behind them, are read back. -/
theorem lines_flatMap (ls : List Text) (h : ∀ l ∈ ls, OneLine l) (t : Text) :
    lines (ls.flatMap (· ++ ['\r', '\n']) ++ t) = ls ++ lines t := by
  induction ls with
  | nil => rfl
  | cons l ls ih =>
    have htail := ih fun l' hl' => h l' (List.mem_cons_of_mem l hl')
    have hend := lines_append_end (h l List.mem_cons_self)
    simp only [List.flatMap_cons, List.append_assoc, List.cons_append, List.nil_append] at htail ⊢
    rw [hend, htail]

theorem trim_of_blankless {t : Text} (h : ∀ c ∈ t, isBlank c = false) : trim t = t :=
  trim_eq_self (fun c hc => h c (List.mem_of_mem_head? hc))
    (fun c hc => h c (List.mem_of_mem_getLast? hc))

theorem trim_cons_of_isBlank {c : Char} (h : isBlank c = true) (t : Text) :
    trim (c :: t) = trim t := by
  simp [trim, trimStart, h]

theorem words_append_blank {a : Text} (hne : a ≠ []) (ha : ∀ c ∈ a, isBlank c = false) {sep : Char}
    (hsep : isBlank sep = true) (t : Text) : words (a ++ sep :: t) = a :: words t := by
  simp only [words]
  rw [List.splitOnP_append_cons_of_forall_mem ha sep hsep, List.filter_cons]
  simp [hne]

/-- Words that are written with a blank between them are read back. -/
theorem words_intercalate {ws : List Text} {sep : Char} (hsep : isBlank sep = true)
    (h : ∀ w ∈ ws, w ≠ [] ∧ ∀ c ∈ w, isBlank c = false) : words ([sep].intercalate ws) = ws := by
  induction ws with
  | nil => rfl
  | cons w ws ih =>
    obtain ⟨hne, hvisible⟩ := h w List.mem_cons_self
    have hrest := ih fun w' hw' => h w' (List.mem_cons_of_mem w hw')
    cases ws with
    | nil => rw [List.intercalate_singleton, words_eq_singleton hne hvisible]
    | cons w' ws =>
      rw [List.intercalate_cons_cons, List.append_assoc, List.singleton_append,
        words_append_blank hne hvisible hsep, hrest]

/-- What a text begins with is told by its first part, if there is no delimiter in it. -/
theorem isPrefixOf_append_cons {sep : Char} {p : Text} (hp : sep ∉ p) (a t : Text) :
    p.isPrefixOf (a ++ sep :: t) = p.isPrefixOf a := by
  rw [Bool.eq_iff_iff, List.isPrefixOf_iff_prefix, List.isPrefixOf_iff_prefix]
  refine ⟨fun h => ?_, fun h => h.trans (List.prefix_append a _)⟩
  have hpart : a ++ [sep] <+: a ++ sep :: t := ⟨t, List.append_cons a sep t ▸ rfl⟩
  have hin : ¬ a ++ [sep] <+: p := fun hq => hp (hq.subset (by simp))
  rcases List.prefix_or_prefix_of_prefix h hpart with hq | hq
  · rcases List.prefix_concat_iff.mp hq with rfl | hq
    · exact absurd List.prefix_rfl hin
    · exact hq
  · exact absurd hq hin

theorem parts_append {sep : Char} {a : Text} (ha : sep ∉ a) (n : Nat) (t : Text) :
    parts sep (n + 2) (a ++ sep :: t) = a :: parts sep (n + 1) t := by
  simp only [parts, cut?_append ha]

end Rtsp.Text
