import Mathlib.Data.List.TakeWhile
import Rtsp.Proofs.Auth.Authorization

/-!
How parameters are written one after another, and what is read of them. A name may have any letter
case and blanks around it; a value stands in quotes, with a backslash before what would be taken for
something else there, or as it is. Whatever commas, quotes and equals signs a quoted value has in it,
the parameters are read in their order, one for each that was written. The blanks at the two ends of
a value are lost, in quotes too, and nothing else is.
-/
namespace Rtsp

open Text (AllBlank Blankless)

namespace Auth.Parameter

section Scan

variable {t rest : Text} {p : Parameter}

theorem length_quoted_le (done t : Text) : (quoted done t).2.length ≤ t.length := by
  fun_induction quoted done t <;> simp_all <;> omega

theorem length_readValue_le (t : Text) : (readValue t).2.length ≤ t.length := by
  have htrim : (Text.trimStart t).length ≤ t.length := (List.dropWhile_suffix _).length_le
  unfold readValue
  split
  · rename_i rest heq
    have hquoted := length_quoted_le [] rest
    rw [heq, List.length_cons] at htrim
    omega
  · exact Nat.le_trans (List.dropWhile_suffix _).length_le htrim

/-- Each parameter takes at least one character. -/
theorem length_lt_of_next? (h : next? t = some (p, rest)) : rest.length < t.length := by
  have hgap : (t.dropWhile isGap).length ≤ t.length := (List.dropWhile_suffix _).length_le
  have hnot := List.head?_dropWhile_not isGap t
  unfold next? at h
  split at h
  · cases h
  rename_i c t' heq
  rw [heq] at hgap hnot
  dsimp only at h
  split at h
  · rename_i rest' hname
    obtain ⟨-, rfl⟩ := Prod.mk.inj (Option.some.inj h)
    have hvalue := length_readValue_le rest'
    have hlength := (List.dropWhile_suffix (l := c :: t') isNamePart).length_le
    rw [hname] at hlength
    simp only [List.length_cons] at hlength hgap
    omega
  · rename_i hname
    obtain ⟨-, rfl⟩ := Prod.mk.inj (Option.some.inj h)
    -- The first character is no comma, so that it is part of a name.
    have hpart : isNamePart c = true := by
      have hcomma : c ≠ ',' := by
        rintro rfl
        cases hnot
      by_cases hequals : c = '='
      · subst hequals
        exact absurd (List.dropWhile_cons_of_neg (by decide)) (hname t')
      · simp [isNamePart, hcomma, hequals]
    rw [List.dropWhile_cons_of_pos hpart]
    have hlength := (List.dropWhile_suffix (l := t') isNamePart).length_le
    simp only [List.length_cons] at hgap
    omega

theorem listUpTo_eq {m n : Nat} (hm : t.length ≤ m) (hn : t.length ≤ n) :
    listUpTo m t = listUpTo n t := by
  induction m generalizing t n with
  | zero =>
    obtain rfl := List.length_eq_zero_iff.mp (Nat.le_zero.mp hm)
    cases n <;> rfl
  | succ m ih =>
    cases n with
    | zero =>
      obtain rfl := List.length_eq_zero_iff.mp (Nat.le_zero.mp hn)
      rfl
    | succ n =>
      unfold listUpTo
      cases hnext : next? t with
      | none => rfl
      | some found =>
        have hlt : found.2.length < t.length := length_lt_of_next? (p := found.1) hnext
        have hrest := ih (t := found.2) (n := n) (by omega) (by omega)
        simp only [hrest]

theorem list_eq (t : Text) :
    list t =
      match next? t with
      | none => []
      | some (p, rest) => if p.name = [] then list rest else p :: list rest := by
  cases ht : t with
  | nil => rfl
  | cons c t' =>
    change listUpTo (t'.length + 1) (c :: t') = _
    rw [listUpTo]
    cases hnext : next? (c :: t') with
    | none => rfl
    | some found =>
      have hlt : found.2.length < (c :: t').length := length_lt_of_next? (p := found.1) hnext
      rw [List.length_cons] at hlt
      have hrest : listUpTo t'.length found.2 = list found.2 :=
        listUpTo_eq (by omega) (Nat.le_refl _)
      simp only [hrest]

theorem list_of_next? (h : next? t = some (p, rest)) (hname : p.name ≠ []) :
    list t = p :: list rest := by
  rw [list_eq, h]
  exact if_neg hname

/-- Nothing is read of blanks and commas. -/
theorem list_gap_append {gap : Text} (hgap : ∀ c ∈ gap, isGap c = true) (t : Text) :
    list (gap ++ t) = list t := by
  have hnext : next? (gap ++ t) = next? t := by
    simp only [next?, List.dropWhile_append_of_pos hgap]
  rw [list_eq, hnext, ← list_eq]

theorem isGap_of_isBlank {c : Char} (h : Text.isBlank c = true) : isGap c = true := by
  simp [isGap, h]

theorem list_blank_append {a : Text} (ha : AllBlank a) (t : Text) : list (a ++ t) = list t :=
  list_gap_append (fun c hc => isGap_of_isBlank (ha c hc)) t

end Scan

/-- A name that is there, and nothing in it ends a name. -/
structure IsName (name : Text) : Prop where
  ne_nil : name ≠ []
  blankless : Blankless name
  parts : ∀ c ∈ name, isNamePart c = true

instance (name : Text) : Decidable (IsName name) :=
  decidable_of_iff (name ≠ [] ∧ Blankless name ∧ ∀ c ∈ name, isNamePart c = true)
    ⟨fun h => ⟨h.1, h.2.1, h.2.2⟩, fun h => ⟨h.ne_nil, h.blankless, h.parts⟩⟩

/-- A text that a name is read from as it is: no gap is in front of it, nothing in it ends a name, and
no blanks are around it. -/
structure Leads (head : Text) : Prop where
  visible : ∃ c t, head = c :: t ∧ isGap c = false
  parts : ∀ c ∈ head, isNamePart c = true
  trimmed : Text.trim head = head

/-- A value that can stand without quotes: nothing in it ends a value. -/
structure IsToken (v : Text) : Prop where
  ne_nil : v ≠ []
  blankless : Blankless v
  comma : ',' ∉ v
  quote : '"' ∉ v

instance (v : Text) : Decidable (IsToken v) :=
  decidable_of_iff (v ≠ [] ∧ Blankless v ∧ ',' ∉ v ∧ '"' ∉ v)
    ⟨fun h => ⟨h.1, h.2.1, h.2.2.1, h.2.2.2⟩, fun h => ⟨h.ne_nil, h.blankless, h.comma, h.quote⟩⟩

/-- A text as it stands between quotes: any character may have a backslash before it, and a quote
and a backslash have one. -/
inductive Escaped : Text → Text → Prop
  | nil : Escaped [] []
  | plain {c : Char} {v s : Text} (quote : c ≠ '"') (backslash : c ≠ '\\') (more : Escaped v s) :
      Escaped (c :: v) (c :: s)
  | escape (c : Char) {v s : Text} (more : Escaped v s) : Escaped (c :: v) ('\\' :: c :: s)

/-- A value as it is written: in quotes, or as it is. -/
inductive Rendered (v : Text) : Text → Prop
  | quoted {s : Text} (escaped : Escaped v s) : Rendered v ('"' :: s ++ ['"'])
  | token (isToken : IsToken v) : Rendered v v

/-- A parameter as it is written: its name in any letter case, an equals sign and its value. -/
inductive Written (p : Parameter) : Text → Prop
  | intro {name a b s : Text} (spelled : Text.lower name = p.name) (isName : IsName name)
      (before : AllBlank a) (behind : AllBlank b) (rendered : Rendered p.value s) :
      Written p (name ++ a ++ '=' :: b ++ s)

theorem Written.of_escaped {p : Parameter} {name s : Text} (spelled : Text.lower name = p.name)
    (isName : IsName name) (escaped : Escaped p.value s) :
    Written p (name ++ '=' :: '"' :: s ++ ['"']) := by
  have hwritten := Written.intro (a := []) (b := []) spelled isName
    (fun c hc => absurd hc List.not_mem_nil) (fun c hc => absurd hc List.not_mem_nil)
    (.quoted escaped)
  simpa using hwritten

theorem Written.of_token {p : Parameter} {name : Text} (spelled : Text.lower name = p.name)
    (isName : IsName name) (isToken : IsToken p.value) : Written p (name ++ '=' :: p.value) := by
  have hwritten := Written.intro (a := []) (b := []) spelled isName
    (fun c hc => absurd hc List.not_mem_nil) (fun c hc => absurd hc List.not_mem_nil)
    (.token isToken)
  simpa using hwritten

/-- Items as they are written one after another, each of them by `W`: with a comma between them, and
blanks around it. There may be more commas behind it. -/
inductive Listed {α : Type} (W : α → Text → Prop) : List α → Text → Prop
  | nil : Listed W [] []
  | one {x : α} {s : Text} (written : W x s) : Listed W [x] s
  | cons {x y : α} {xs : List α} {s a b t : Text} (written : W x s) (before : AllBlank a)
      (behind : ∀ c ∈ b, isGap c = true) (more : Listed W (y :: xs) t) :
      Listed W (x :: y :: xs) (s ++ a ++ ',' :: b ++ t)

/-- The first item is written first, and the others are behind a comma. -/
theorem Listed.of_cons {α : Type} {W : α → Text → Prop} {x : α} {xs : List α} {t : Text}
    (h : Listed W (x :: xs) t) :
    ∃ s behind, W x s ∧ t = s ++ behind ∧
      (xs = [] ∧ behind = [] ∨ ∃ a b u, xs ≠ [] ∧ AllBlank a ∧ (∀ c ∈ b, isGap c = true) ∧
        Listed W xs u ∧ behind = a ++ ',' :: b ++ u) := by
  cases h with
  | one written => exact ⟨t, [], written, (List.append_nil t).symm, .inl ⟨rfl, rfl⟩⟩
  | @cons _ y xs s a b u written before behind more =>
    exact ⟨s, a ++ ',' :: b ++ u, written, by simp,
      .inr ⟨a, b, u, List.cons_ne_nil _ _, before, behind, more, rfl⟩⟩

/-- What is read of a parameter. -/
def trimmed (p : Parameter) : Parameter := { p with value := Text.trim p.value }

section Read

variable {p : Parameter} {v s rest : Text}

theorem quoted_plain {c : Char} (hquote : c ≠ '"') (hbackslash : c ≠ '\\') (done t : Text) :
    quoted done (c :: t) = quoted (c :: done) t := by
  rw [quoted.eq_4 _ _ _ (by simp [hbackslash]) (by simp [hbackslash]), if_neg hquote]

theorem quoted_escape (c : Char) (done t : Text) :
    quoted done ('\\' :: c :: t) = quoted (c :: done) t := by
  rw [quoted]

theorem quoted_end (done t : Text) : quoted done ('"' :: t) = (done.reverse, t) := by
  simp [quoted]

theorem quoted_of_escaped (h : Escaped v s) (done rest : Text) :
    quoted done (s ++ '"' :: rest) = (done.reverse ++ v, rest) := by
  induction h generalizing done with
  | nil => rw [List.nil_append, quoted_end, List.append_nil]
  | plain hquote hbackslash _ ih =>
    rw [List.cons_append, quoted_plain hquote hbackslash, ih]
    simp
  | escape c _ ih =>
    rw [List.cons_append, List.cons_append, quoted_escape, ih]
    simp

theorem isNamePart_of_isBlank {c : Char} (h : Text.isBlank c = true) : isNamePart c = true := by
  have hequals : c ≠ '=' := by
    rintro rfl
    exact absurd h (by decide)
  have hcomma : c ≠ ',' := by
    rintro rfl
    exact absurd h (by decide)
  simp [isNamePart, hequals, hcomma]

theorem IsName.leads {name : Text} (h : IsName name) : Leads name := by
  obtain ⟨c, name', rfl⟩ := List.exists_cons_of_ne_nil h.ne_nil
  have hblank := h.blankless c List.mem_cons_self
  have hpart := h.parts c List.mem_cons_self
  simp only [isNamePart, Bool.and_eq_true, bne_iff_ne, ne_eq] at hpart
  exact ⟨⟨c, name', rfl, by simp [isGap, hblank, hpart.2]⟩, h.parts,
    Text.trim_of_blankless h.blankless⟩

/-- A name is read up to what ends it. -/
theorem scan_leads {head a : Text} (hhead : Leads head) (ha : AllBlank a)
    (hstop : ∀ c ∈ rest.head?, isNamePart c = false) :
    ∃ c t, (head ++ a ++ rest).dropWhile isGap = c :: t ∧
      Text.trim ((c :: t).takeWhile isNamePart) = head ∧ (c :: t).dropWhile isNamePart = rest := by
  have hparts : ∀ c ∈ head ++ a, isNamePart c = true :=
    List.forall_mem_append.mpr ⟨hhead.parts, fun c hc => isNamePart_of_isBlank (ha c hc)⟩
  have hrest : rest.takeWhile isNamePart = [] ∧ rest.dropWhile isNamePart = rest := by
    cases rest with
    | nil => exact ⟨rfl, rfl⟩
    | cons c t =>
      have hc : ¬ isNamePart c = true := Bool.eq_false_iff.mp (hstop c rfl)
      exact ⟨List.takeWhile_cons_of_neg hc, List.dropWhile_cons_of_neg hc⟩
  have htake : Text.trim ((head ++ a ++ rest).takeWhile isNamePart) = head := by
    rw [List.takeWhile_append_of_pos hparts, hrest.1, List.append_nil,
      Text.trim_append_of_blank ha, hhead.trimmed]
  have hdrop : (head ++ a ++ rest).dropWhile isNamePart = rest := by
    rw [List.dropWhile_append_of_pos hparts, hrest.2]
  obtain ⟨c, t, rfl, hc⟩ := hhead.visible
  exact ⟨c, t ++ a ++ rest, List.dropWhile_cons_of_neg (by simp [hc]), htake, hdrop⟩

/-- A name ends at its equals sign, and a value is read behind it. -/
theorem next?_equals {head a : Text} (hhead : Leads head) (ha : AllBlank a) (t : Text) :
    next? (head ++ a ++ '=' :: t) =
      some (⟨Text.lower head, Text.trim (readValue t).1⟩, (readValue t).2) := by
  have hstop : ∀ c ∈ ('=' :: t).head?, isNamePart c = false :=
    fun c hc => Option.some.inj hc ▸ rfl
  obtain ⟨c, t', hgap, hname, hrest⟩ := scan_leads hhead ha hstop
  simp only [next?, hgap, hname, hrest]

/-- A name that ends at a comma has no value. -/
theorem next?_comma {head a : Text} (hhead : Leads head) (ha : AllBlank a)
    (hrest : rest = [] ∨ ∃ t, rest = ',' :: t) :
    next? (head ++ a ++ rest) = some (⟨Text.lower head, []⟩, rest) := by
  have hstop : ∀ c ∈ rest.head?, isNamePart c = false := by
    rcases hrest with rfl | ⟨t, rfl⟩
    · exact fun c hc => by cases hc
    · exact fun c hc => Option.some.inj hc ▸ rfl
  obtain ⟨c, t', hgap, hname, hscan⟩ := scan_leads hhead ha hstop
  rcases hrest with rfl | ⟨t, rfl⟩
  · simp only [next?, hgap, hname, hscan]
  · simp only [next?, hgap, hname, hscan]
    rfl

theorem readValue_quoted {b : Text} (hb : AllBlank b) (t : Text) :
    readValue (b ++ '"' :: t) = quoted [] t := by
  have htrim : Text.trimStart (b ++ '"' :: t) = '"' :: t := by
    rw [Text.trimStart_append_of_blank hb]
    rfl
  simp only [readValue, htrim]

/-- A value without quotes is read up to the next comma. -/
theorem readValue_token {b : Text} (hb : AllBlank b) (hv : IsToken v) {a : Text} (ha : AllBlank a)
    (hrest : rest = [] ∨ ∃ t, rest = ',' :: t) :
    readValue (b ++ v ++ (a ++ rest)) = (v ++ a, rest) := by
  obtain ⟨c, v', rfl⟩ := List.exists_cons_of_ne_nil hv.ne_nil
  have hskip : Text.trimStart (b ++ (c :: v') ++ (a ++ rest)) = c :: v' ++ (a ++ rest) := by
    rw [List.append_assoc, Text.trimStart_append_of_blank hb]
    exact List.dropWhile_cons_of_neg (by simp [hv.blankless c List.mem_cons_self])
  have hall : ∀ x ∈ c :: v' ++ a, (x != ',') = true := by
    intro x hx
    rcases List.mem_append.mp hx with hx | hx
    · exact bne_iff_ne.mpr fun heq => hv.comma (heq ▸ hx)
    · exact (Bool.and_eq_true_iff.mp (isNamePart_of_isBlank (ha x hx))).2
  have hvalue : (c :: v' ++ (a ++ rest)).takeWhile (· != ',') = c :: v' ++ a ∧
      (c :: v' ++ (a ++ rest)).dropWhile (· != ',') = rest := by
    rw [← List.append_assoc, List.takeWhile_append_of_pos hall, List.dropWhile_append_of_pos hall]
    rcases hrest with rfl | ⟨t, rfl⟩ <;> simp
  have hquote : c ≠ '"' := fun heq => hv.quote (heq ▸ List.mem_cons_self)
  unfold readValue
  rw [hskip]
  split
  · rename_i heq
    exact absurd (List.cons.inj heq).1 hquote
  · rw [hvalue.1, hvalue.2]

/-- Behind a value there are blanks up to a comma or the end. Then it is read, and after it what is
behind it. -/
theorem list_rendered_append {head a b c : Text} (hhead : Leads head) (ha : AllBlank a)
    (hb : AllBlank b) (rendered : Rendered v s) (hc : AllBlank c)
    (hrest : rest = [] ∨ ∃ t, rest = ',' :: t) :
    list (head ++ a ++ '=' :: b ++ s ++ (c ++ rest)) =
      ⟨Text.lower head, Text.trim v⟩ :: list rest := by
  have hne : Text.lower head ≠ [] := by
    obtain ⟨x, t, rfl, -⟩ := hhead.visible
    exact List.cons_ne_nil _ _
  have hsplit : head ++ a ++ '=' :: b ++ s ++ (c ++ rest) =
      head ++ a ++ '=' :: (b ++ s ++ (c ++ rest)) := by simp
  rw [hsplit, list_of_next? (next?_equals hhead ha _) hne]
  cases rendered with
  | @quoted s escaped =>
    have hread : readValue (b ++ ('"' :: s ++ ['"']) ++ (c ++ rest)) = (v, c ++ rest) := by
      rw [List.append_assoc, List.cons_append, List.cons_append, readValue_quoted hb,
        List.append_assoc, List.singleton_append, quoted_of_escaped escaped]
      rfl
    rw [hread, list_blank_append hc]
  | token isToken =>
    rw [readValue_token hb isToken hc hrest, Text.trim_append_of_blank hc]

/-- A parameter that is written is read, and after it what is behind it. -/
theorem list_written_append (h : Written p s) {a : Text} (ha : AllBlank a)
    (hrest : rest = [] ∨ ∃ t, rest = ',' :: t) :
    list (s ++ (a ++ rest)) = p.trimmed :: list rest := by
  obtain ⟨spelled, isName, hbefore, hbehind, rendered⟩ := h
  rw [list_rendered_append isName.leads hbefore hbehind rendered ha hrest, spelled, trimmed]

theorem map_trimmed_eq_self {ps : List Parameter}
    (h : ∀ p ∈ ps, Text.trim p.value = p.value) : ps.map trimmed = ps := by
  have hid : ∀ p ∈ ps, p.trimmed = id p := fun p hp => by
    rw [trimmed, h p hp]
    rfl
  rw [List.map_congr_left hid, List.map_id]

theorem Listed.imp {α : Type} {W W' : α → Text → Prop} {xs : List α} {t : Text}
    (h : Listed W xs t) (himp : ∀ x ∈ xs, ∀ s, W x s → W' x s) : Listed W' xs t := by
  induction h with
  | nil => exact .nil
  | one written => exact .one (himp _ List.mem_cons_self _ written)
  | cons written before behind _ ih =>
    exact .cons (himp _ List.mem_cons_self _ written) before behind
      (ih fun x hx => himp x (List.mem_cons_of_mem _ hx))

/-- Parameters that are written one after another are read one after another, and then what is
behind them. -/
theorem list_listed_append {ps : List Parameter} {t a : Text} (h : Listed Written ps t)
    (hne : ps ≠ []) (ha : AllBlank a) (hrest : rest = [] ∨ ∃ t, rest = ',' :: t) :
    list (t ++ (a ++ rest)) = ps.map trimmed ++ list rest := by
  induction h with
  | nil => exact absurd rfl hne
  | one written => exact list_written_append written ha hrest
  | @cons p q ps s before gap t written hbefore hgap _ ih =>
    have hsplit : s ++ before ++ ',' :: gap ++ t ++ (a ++ rest) =
        s ++ (before ++ ',' :: (gap ++ (t ++ (a ++ rest)))) := by simp
    have hgaps : ∀ c ∈ ',' :: gap, isGap c = true := List.forall_mem_cons.mpr ⟨rfl, hgap⟩
    have hcomma : list (',' :: (gap ++ (t ++ (a ++ rest)))) = list (t ++ (a ++ rest)) :=
      list_gap_append hgaps _
    rw [hsplit, list_written_append written hbefore (.inr ⟨_, rfl⟩), hcomma,
      ih (List.cons_ne_nil _ _)]
    rfl

/-- There may be blanks around them. -/
theorem list_listed {ps : List Parameter} {t a b : Text} (h : Listed Written ps t)
    (ha : AllBlank a) (hb : AllBlank b) : list (a ++ t ++ b) = ps.map trimmed := by
  rw [List.append_assoc, list_blank_append ha]
  by_cases hps : ps = []
  · subst hps
    cases h
    have hnil := list_blank_append hb []
    rwa [List.append_nil] at hnil
  · have hread := list_listed_append h hps hb (.inl rfl)
    rwa [List.append_nil, show list [] = [] from rfl, List.append_nil] at hread

end Read

/-- A text with a backslash before each quote and each backslash. -/
def escape (v : Text) : Text :=
  v.flatMap fun c => if c = '"' ∨ c = '\\' then ['\\', c] else [c]

/-- A parameter with its value in quotes. -/
def quotation (p : Parameter) : Text := p.name ++ '=' :: '"' :: escape p.value ++ ['"']

theorem escaped_escape (v : Text) : Escaped v (escape v) := by
  induction v with
  | nil => exact .nil
  | cons c v ih =>
    rw [escape, List.flatMap_cons]
    split
    · exact .escape c ih
    · rename_i hplain
      exact .plain (not_or.mp hplain).1 (not_or.mp hplain).2 ih

theorem written_quotation {p : Parameter} (hname : IsName p.name)
    (hlower : Text.lower p.name = p.name) : Written p p.quotation :=
  .of_escaped hlower hname (escaped_escape p.value)

/-- What was written in quotes is read back but for the blanks at the two ends of the values, and so
exactly if no value has any. -/
theorem list_quotations_iff {ps : List Parameter} {t a b : Text}
    (hnames : ∀ p ∈ ps, IsName p.name ∧ Text.lower p.name = p.name)
    (hlisted : Listed (fun p s => s = p.quotation) ps t) (ha : AllBlank a) (hb : AllBlank b) :
    list (a ++ t ++ b) = ps.map trimmed ∧
      (list (a ++ t ++ b) = ps ↔ ∀ p ∈ ps, Text.trim p.value = p.value) := by
  have hwritten : Listed Written ps t := hlisted.imp fun p hp s hs =>
    hs ▸ written_quotation (hnames p hp).1 (hnames p hp).2
  have hread := list_listed hwritten ha hb
  refine ⟨hread, ?_⟩
  rw [hread]
  constructor
  · intro hsame p hp
    obtain ⟨i, hi, rfl⟩ := List.mem_iff_getElem.mp hp
    have hi' : i < (ps.map trimmed).length := by rwa [List.length_map]
    have hitem : (ps.map trimmed)[i] = ps[i] := by simp only [hsame]
    rw [List.getElem_map] at hitem
    exact congrArg Parameter.value hitem
  · exact map_trimmed_eq_self

/-- Values that look like the end of a value and a parameter of their own. -/
theorem list_quotations_iff_misleading :
    let realm : Parameter := ⟨"realm".toList, "a\", nonce=\"x\\".toList⟩
    let nonce : Parameter := ⟨"nonce".toList, []⟩
    let t := "realm=\"a\\\", nonce=\\\"x\\\\\" ,\tnonce=\"\"".toList
    (∀ p ∈ [realm, nonce], IsName p.name ∧ Text.lower p.name = p.name) ∧
      Listed (fun p s => s = p.quotation) [realm, nonce] t ∧
      list ([' '] ++ t ++ ['\n']) = [realm, nonce] := by
  intro realm nonce t
  have hnames : ∀ p ∈ [realm, nonce], IsName p.name ∧ Text.lower p.name = p.name := by decide
  have htext : realm.quotation ++ [' '] ++ ',' :: ['\t'] ++ nonce.quotation = t := by decide
  have hlisted : Listed (fun p s => s = p.quotation) [realm, nonce] t :=
    htext ▸ .cons rfl (by decide) (by decide) (.one rfl)
  have hread := list_quotations_iff hnames hlisted (a := [' ']) (b := ['\n']) (by decide) (by decide)
  exact ⟨hnames, hlisted, hread.2.mpr (by decide)⟩

/-- The blanks that are in the quotes are lost. -/
theorem list_quotations_padded :
    let p : Parameter := ⟨"realm".toList, " cam ".toList⟩
    list p.quotation = [⟨"realm".toList, "cam".toList⟩] ∧ list p.quotation ≠ [p] := by
  decide

end Auth.Parameter

end Rtsp
