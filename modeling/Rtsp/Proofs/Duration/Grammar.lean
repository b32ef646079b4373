import Rtsp.Duration
import Rtsp.Proofs.Text.Decimal

/-!
The texts that are read as a length of time. A part is a number with a unit directly behind it, and
a text is a row of parts with an optional plus sign in front, or `0`. The reader takes what may
stand in a number as far as it goes, then all up to the next such character as the unit. So a row is
read in one way only, and what is read is a row. The one text outside the grammar that is accepted
is a plus sign alone: a row without parts is refused only where the text is empty.
-/
namespace Rtsp.Duration

/-- Digits, one at least, and a point before, among or behind them if there is any. -/
inductive Numeral : Text → Prop
  | whole {digits : Text} (hne : digits ≠ []) (hdigits : ∀ c ∈ digits, c.isDigit = true) :
      Numeral digits
  | broken {whole fraction : Text} (hne : whole ++ fraction ≠ [])
      (hdigits : ∀ c ∈ whole ++ fraction, c.isDigit = true) : Numeral (whole ++ '.' :: fraction)

/-- Parts in a row, with nothing between them. -/
inductive Row : List Part → Text → Prop
  | nil : Row [] []
  | cons {number name rest : Text} {measure : Measure} {parts : List Part}
      (hnumber : Numeral number) (hname : (name, measure) ∈ Measure.names)
      (hrest : Row parts rest) : Row (⟨number, measure⟩ :: parts) (number ++ name ++ rest)

/-- The grammar: nothing but a zero, or a row with a part in it that may have a plus sign. -/
inductive Written : List Part → Text → Prop
  | zero : Written [] ['0']
  | plain {parts : List Part} {t : Text} (hne : parts ≠ []) (hrow : Row parts t) : Written parts t
  | signed {parts : List Part} {t : Text} (hne : parts ≠ []) (hrow : Row parts t) :
      Written parts ('+' :: t)

section Number

variable {t : Text}

theorem isNumeral_of_isDigit {c : Char} (h : c.isDigit = true) : isNumeral c = true := by
  rw [isNumeral, h, Bool.true_or]

theorem isDigit_of_isNumeral {c : Char} (h : isNumeral c = true) (hpoint : c ≠ '.') :
    c.isDigit = true := by
  rcases Bool.or_eq_true_iff.mp h with h | h
  · exact h
  · exact absurd (beq_iff_eq.mp h) hpoint

theorem Numeral.isNumeral (h : Numeral t) : ∀ c ∈ t, isNumeral c = true := by
  cases h with
  | whole hne hdigits => exact fun c hc => isNumeral_of_isDigit (hdigits c hc)
  | broken hne hdigits =>
    intro c hc
    rcases List.mem_append.mp hc with hc | hc
    · exact isNumeral_of_isDigit (hdigits c (List.mem_append_left _ hc))
    · rcases List.mem_cons.mp hc with rfl | hc
      · rfl
      · exact isNumeral_of_isDigit (hdigits c (List.mem_append_right _ hc))

theorem Numeral.ne_nil (h : Numeral t) : t ≠ [] := by
  cases h with
  | whole hne _ => exact hne
  | broken _ _ => simp

theorem any_isDigit {digits : Text} (hne : digits ≠ []) (h : ∀ c ∈ digits, c.isDigit = true) :
    digits.any Char.isDigit = true := by
  obtain ⟨c, hc⟩ := List.exists_mem_of_ne_nil digits hne
  exact List.any_eq_true.mpr ⟨c, hc, h c hc⟩

theorem Numeral.isNumber (h : Numeral t) : isNumber t = true := by
  have hall : t.all Duration.isNumeral = true := List.all_eq_true.mpr h.isNumeral
  rw [Duration.isNumber, hall, Bool.true_and, Bool.and_eq_true, decide_eq_true_eq]
  cases h with
  | whole hne hdigits =>
    exact ⟨any_isDigit hne hdigits, by
      rw [List.count_eq_zero.mpr (Text.not_mem_of_isDigit hdigits rfl)]
      exact Nat.zero_le 1⟩
  | broken hne hdigits =>
    have hany := any_isDigit hne hdigits
    have hcount := List.count_eq_zero.mpr (Text.not_mem_of_isDigit (c := '.') hdigits rfl)
    rw [List.any_append] at hany
    rw [List.count_append] at hcount
    rw [List.any_append, List.any_cons, List.count_append, List.count_cons_self]
    exact ⟨by simpa using hany, by omega⟩

/-- The reader's test of a number tells the numerals. -/
theorem isNumber_iff : isNumber t = true ↔ Numeral t := by
  refine ⟨fun h => ?_, Numeral.isNumber⟩
  simp only [isNumber, Bool.and_eq_true, decide_eq_true_eq, List.all_eq_true] at h
  obtain ⟨⟨hall, hany⟩, hcount⟩ := h
  by_cases hpoint : '.' ∈ t
  · obtain ⟨whole, fraction, rfl⟩ := List.append_of_mem hpoint
    rw [List.count_append, List.count_cons_self] at hcount
    have hwhole : '.' ∉ whole := List.count_eq_zero.mp (by omega)
    have hfraction : '.' ∉ fraction := List.count_eq_zero.mp (by omega)
    refine .broken ?_ fun c hc => ?_
    · rintro hnil
      obtain ⟨rfl, rfl⟩ := List.append_eq_nil_iff.mp hnil
      exact absurd hany (by decide)
    · rcases List.mem_append.mp hc with hc | hc
      · exact isDigit_of_isNumeral (hall c (List.mem_append_left _ hc))
          (ne_of_mem_of_not_mem hc hwhole)
      · exact isDigit_of_isNumeral (hall c (List.mem_append_right _ (List.mem_cons_of_mem _ hc)))
          (ne_of_mem_of_not_mem hc hfraction)
  · refine .whole ?_ fun c hc => isDigit_of_isNumeral (hall c hc) (ne_of_mem_of_not_mem hc hpoint)
    rintro rfl
    cases hany

end Number

section Part

variable {number name rest t : Text} {measure : Measure} {p : Part}

theorem name_unnumbered (h : (name, measure) ∈ Measure.names) :
    name ≠ [] ∧ ∀ c ∈ name, isNumeral c = false := by
  have hall : ∀ unit ∈ Measure.names, unit.1 ≠ [] ∧ ∀ c ∈ unit.1, isNumeral c = false := by decide
  exact hall _ h

theorem ofName?_eq_some_iff :
    Measure.ofName? name = some measure ↔ (name, measure) ∈ Measure.names := by
  constructor
  · intro h
    obtain ⟨before, after, heq, -⟩ := List.lookup_eq_some_iff.mp h
    rw [heq]
    exact List.mem_append_right before List.mem_cons_self
  · intro h
    have hall : ∀ unit ∈ Measure.names, Measure.ofName? unit.1 = some unit.2 := by decide
    exact hall _ h

/-- The end of a number is where its unit begins, and the end of the unit where a number begins. -/
theorem part?_append (hnumber : Numeral number) (hname : (name, measure) ∈ Measure.names)
    (hrest : ∀ c ∈ rest.head?, isNumeral c = true) :
    part? (number ++ name ++ rest) = some (⟨number, measure⟩, rest) := by
  obtain ⟨hne, hunnumbered⟩ := name_unnumbered hname
  have hbegin : ∀ c ∈ (name ++ rest).head?, isNumeral c = false := by
    intro c hc
    rw [List.head?_append_of_ne_nil _ hne] at hc
    exact hunnumbered c (List.mem_of_mem_head? hc)
  have hinside : ∀ c ∈ name, (!isNumeral c) = true := fun c hc => by rw [hunnumbered c hc]; rfl
  have hstop : ∀ c ∈ rest.head?, (!isNumeral c) = false := fun c hc => by rw [hrest c hc]; rfl
  unfold part?
  simp only [List.append_assoc, Text.takeWhile_append_stop hnumber.isNumeral hbegin,
    Text.dropWhile_append_stop hnumber.isNumeral hbegin,
    Text.takeWhile_append_stop hinside hstop, Text.dropWhile_append_stop hinside hstop,
    ofName?_eq_some_iff.mpr hname, hnumber.isNumber, if_true]

theorem of_part? (h : part? t = some (p, rest)) :
    ∃ name, Numeral p.number ∧ (name, p.measure) ∈ Measure.names ∧
      t = p.number ++ name ++ rest := by
  unfold part? at h
  simp only at h
  split at h
  · rename_i measure hname
    split at h
    · rename_i hnumber
      obtain ⟨rfl, rfl⟩ := Prod.mk.inj (Option.some.inj h)
      refine ⟨_, isNumber_iff.mp hnumber, ofName?_eq_some_iff.mp hname, ?_⟩
      simp only [List.append_assoc, List.takeWhile_append_dropWhile]
    · cases h
  · cases h

end Part

section Row

variable {t rest : Text} {parts : List Part} {p : Part}

theorem Row.head? (h : Row parts t) : ∀ c ∈ t.head?, isNumeral c = true := by
  cases h with
  | nil => exact fun c hc => by cases hc
  | cons hnumber hname hrest =>
    intro c hc
    rw [List.append_assoc, List.head?_append_of_ne_nil _ hnumber.ne_nil] at hc
    exact hnumber.isNumeral c (List.mem_of_mem_head? hc)

theorem row_nil_iff : Row parts [] ↔ parts = [] := by
  constructor
  · generalize htext : ([] : Text) = t
    intro h
    cases h with
    | nil => rfl
    | cons hnumber _ _ =>
      rw [List.append_assoc] at htext
      exact absurd (List.append_eq_nil_iff.mp htext.symm).1 hnumber.ne_nil
  · rintro rfl
    exact .nil

/-- A row that is not empty is its first part and the row behind it. -/
theorem row_iff_part? (hne : t ≠ []) :
    Row parts t ↔ ∃ first rest others, part? t = some (first, rest) ∧ Row others rest ∧
      parts = first :: others := by
  constructor
  · intro h
    cases h with
    | nil => exact absurd rfl hne
    | cons hnumber hname hrest =>
      exact ⟨_, _, _, part?_append hnumber hname hrest.head?, hrest, rfl⟩
  · rintro ⟨first, rest, others, hfirst, hrest, rfl⟩
    obtain ⟨name, hnumber, hname, rfl⟩ := of_part? hfirst
    exact .cons hnumber hname hrest

theorem length_lt_of_part? (h : part? t = some (p, rest)) : rest.length < t.length := by
  obtain ⟨name, hnumber, -, rfl⟩ := of_part? h
  have hpos := List.length_pos_iff.mpr hnumber.ne_nil
  rw [List.length_append, List.length_append]
  omega

theorem partsUpTo_eq_some_iff {n : Nat} (hn : t.length ≤ n) :
    partsUpTo n t = some parts ↔ Row parts t := by
  induction n generalizing t parts with
  | zero =>
    obtain rfl := List.length_eq_zero_iff.mp (Nat.le_zero.mp hn)
    rw [row_nil_iff, partsUpTo, Option.some.injEq, eq_comm]
  | succ n ih =>
    cases t with
    | nil => rw [row_nil_iff, partsUpTo, Option.some.injEq, eq_comm]
    | cons c t =>
      rw [row_iff_part? (List.cons_ne_nil c t), partsUpTo]
      cases hfirst : part? (c :: t) with
      | none => simp
      | some found =>
        obtain ⟨first, rest⟩ := found
        have hrest : rest.length ≤ n := by
          have := length_lt_of_part? hfirst
          omega
        simp only [Option.map_eq_some_iff, ih hrest]
        constructor
        · rintro ⟨others, hrow, rfl⟩
          exact ⟨first, rest, others, rfl, hrow, rfl⟩
        · rintro ⟨_, _, others, heq, hrow, rfl⟩
          obtain ⟨rfl, rfl⟩ := Prod.mk.inj (Option.some.inj heq)
          exact ⟨others, hrow, rfl⟩

/-- Every row is read, as the parts that it is made of, and nothing else. -/
theorem parts?_eq_some_iff : parts? t = some parts ↔ Row parts t :=
  partsUpTo_eq_some_iff (Nat.le_refl t.length)

end Row

section Written

variable {parts : List Part} {t body : Text} {d : Duration}

theorem not_row_zero : ¬ Row parts ['0'] := by
  intro h
  obtain ⟨first, rest, _, hfirst, -, -⟩ := (row_iff_part? (List.cons_ne_nil _ _)).mp h
  have hnone : part? ['0'] = none := by decide
  rw [hnone] at hfirst
  cases hfirst

/-- Behind the sign stands what is written, unless nothing stands there. -/
theorem row_unsigned_iff (hzero : body ≠ ['0']) (hne : body ≠ []) :
    Row parts (Text.unsigned body) ↔ Written parts body ∨ body = ['+'] ∧ parts = [] := by
  obtain ⟨c, t, rfl⟩ := List.exists_cons_of_ne_nil hne
  by_cases hc : c = '+'
  · subst hc
    change Row parts t ↔ _
    constructor
    · intro hrow
      cases parts with
      | nil =>
        cases hrow
        exact .inr ⟨rfl, rfl⟩
      | cons first others => exact .inl (.signed (List.cons_ne_nil first others) hrow)
    · rintro (hwritten | ⟨heq, rfl⟩)
      · cases hwritten with
        | plain _ hrow => exact absurd (hrow.head? '+' rfl) (by decide)
        | signed _ hrow => exact hrow
      · obtain rfl := (List.cons.inj heq).2
        exact .nil
  · have hself : Text.unsigned (c :: t) = c :: t := by
      unfold Text.unsigned
      split
      · rename_i heq
        exact absurd (List.cons.inj heq).1 hc
      · rfl
    rw [hself]
    constructor
    · intro hrow
      refine .inl (.plain ?_ hrow)
      rintro rfl
      cases hrow
    · rintro (hwritten | ⟨heq, -⟩)
      · cases hwritten with
        | zero => exact absurd rfl hzero
        | plain _ hrow => exact hrow
        | signed _ _ => exact absurd rfl hc
      · exact absurd (List.cons.inj heq).1 hc

theorem not_written_nil : ¬ Written parts [] := by
  generalize htext : ([] : Text) = t
  intro h
  cases h with
  | zero => cases htext
  | plain hne hrow => exact hne (row_nil_iff.mp (htext ▸ hrow))
  | signed => cases htext

theorem not_written_minus : ¬ Written parts ('-' :: t) := by
  intro h
  cases h with
  | plain _ hrow => exact absurd (hrow.head? '-' rfl) (by decide)

theorem not_written_plus : ¬ Written parts ['+'] := by
  intro h
  cases h with
  | plain _ hrow => exact absurd (hrow.head? '+' rfl) (by decide)
  | signed hne hrow => exact hne (row_nil_iff.mp hrow)

theorem written_zero_iff : Written parts ['0'] ↔ parts = [] := by
  constructor
  · intro h
    cases h with
    | zero => rfl
    | plain _ hrow => exact absurd hrow not_row_zero
  · rintro rfl
    exact .zero

theorem ofFloat?_total_nil : ofFloat? (total []) = some ⟨0⟩ := by decide +kernel

/-- A text is read if it is written by the grammar and its sum is not too great, and the plus sign
alone is read as nothing. -/
theorem parse?_eq_some_iff :
    parse? t = some d ↔
      (∃ parts, Written parts (Text.trim t) ∧ ofFloat? (total parts) = some d) ∨
        Text.trim t = ['+'] ∧ d = ⟨0⟩ := by
  unfold parse?
  simp only
  generalize Text.trim t = body
  split
  · rename_i hzero
    subst hzero
    simp [written_zero_iff, ofFloat?_total_nil, eq_comm]
  rename_i hzero
  split
  · rename_i hrefused
    have hnone : (∀ parts, ¬ Written parts body) ∧ body ≠ ['+'] := by
      rcases hrefused with rfl | hminus
      · exact ⟨fun _ => not_written_nil, by decide⟩
      · obtain ⟨t, rfl⟩ := List.head?_eq_some_iff.mp hminus
        exact ⟨fun _ => not_written_minus, fun heq => absurd (List.cons.inj heq).1 (by decide)⟩
    simp [hnone.1, hnone.2]
  rename_i hother
  have hrow : ∀ parts, parts? (Text.unsigned body) = some parts ↔
      Written parts body ∨ body = ['+'] ∧ parts = [] := fun parts =>
    parts?_eq_some_iff.trans (row_unsigned_iff hzero fun hnil => hother (Or.inl hnil))
  calc _ ↔ ∃ parts, parts? (Text.unsigned body) = some parts ∧
          ofFloat? (total parts) = some d := by
        cases parts? (Text.unsigned body) <;> simp
    _ ↔ ∃ parts, (Written parts body ∨ body = ['+'] ∧ parts = []) ∧
          ofFloat? (total parts) = some d := by simp only [hrow]
    _ ↔ (∃ parts, Written parts body ∧ ofFloat? (total parts) = some d) ∨
          body = ['+'] ∧ d = ⟨0⟩ := by
        constructor
        · rintro ⟨parts, hwritten | ⟨hplus, rfl⟩, hsum⟩
          · exact .inl ⟨parts, hwritten, hsum⟩
          · exact .inr ⟨hplus, Option.some.inj (hsum.symm.trans ofFloat?_total_nil)⟩
        · rintro (⟨parts, hwritten, hsum⟩ | ⟨hplus, rfl⟩)
          · exact ⟨parts, .inl hwritten, hsum⟩
          · exact ⟨[], .inr ⟨hplus, rfl⟩, ofFloat?_total_nil⟩

theorem parse_eq_ok_iff : parse t = .ok d ↔ parse? t = some d := by
  unfold parse
  cases parse? t <;> simp

/-- What is accepted is written by the grammar, with a sum that is not too great, but for one text:
the plus sign alone, behind which no part stands, is read as no time at all. -/
theorem accepted_iff (t : Text) :
    (∀ d, parse t = .ok d ↔
      (∃ parts, Written parts (Text.trim t) ∧ ofFloat? (total parts) = some d) ∨
        Text.trim t = ['+'] ∧ d = ⟨0⟩) ∧
    ((∃ d, parse t = .ok d) ∧ (¬ ∃ parts, Written parts (Text.trim t)) ↔ Text.trim t = ['+']) := by
  refine ⟨fun d => parse_eq_ok_iff.trans parse?_eq_some_iff, ?_⟩
  constructor
  · rintro ⟨⟨d, hd⟩, hunwritten⟩
    rcases parse?_eq_some_iff.mp (parse_eq_ok_iff.mp hd) with ⟨parts, hwritten, -⟩ | ⟨hplus, -⟩
    · exact absurd ⟨parts, hwritten⟩ hunwritten
    · exact hplus
  · intro hplus
    refine ⟨⟨⟨0⟩, parse_eq_ok_iff.mpr (parse?_eq_some_iff.mpr (.inr ⟨hplus, rfl⟩))⟩, ?_⟩
    rintro ⟨parts, hwritten⟩
    exact not_written_plus (hplus ▸ hwritten)

example : parse " +1h.5m3.25s\n".toList = .ok ⟨3633250000000⟩ := by decide +kernel

/-- A plus sign with no part behind it. -/
theorem plus_accepted :
    parse "+".toList = .ok ⟨0⟩ ∧ ¬ ∃ parts, Written parts (Text.trim "+".toList) := by
  refine ⟨by decide +kernel, ?_⟩
  rintro ⟨parts, hwritten⟩
  exact not_written_plus hwritten

end Written

end Rtsp.Duration
