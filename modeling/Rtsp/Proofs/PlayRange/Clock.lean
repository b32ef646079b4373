import Rtsp.PlayRange
import Rtsp.Proofs.Instant.Calendar
import Rtsp.Proofs.Result
import Rtsp.Proofs.Text.Decimal
import Rtsp.Proofs.Text.Trim

/-!
What a clock range sends. An instant of the years 0 to 9999 is written in the basic form, with eight
digits for the day and six for the second of the day, and that form is read back as the same
instant. A year beyond them has a sign, which the reader takes for the beginning of a year that goes
on as long as there are digits. So the header value has the form of the wire, and can be read, in
those years and in no others.
-/
namespace Rtsp

namespace Instant

/-- Eight digits, a `T`, six digits and a `Z`. -/
def IsBasic (t : Text) : Prop :=
  ∃ date time : Text, t = date ++ 'T' :: time ++ ['Z'] ∧ date.length = 8 ∧ time.length = 6 ∧
    ∀ c ∈ date ++ time, c.isDigit = true

section Digits

variable {least most : Nat} {digits rest : Text}

theorem digits?_append (hlength : digits.length = most) (hleast : least ≤ most)
    (hdigits : ∀ c ∈ digits, c.isDigit = true) :
    digits? least most (digits ++ rest) = some (Nat.ofDigitChars 10 digits 0, rest) := by
  have htake : (digits ++ rest).take most = digits := List.take_left' hlength
  have hall : digits.takeWhile Char.isDigit = digits := List.takeWhile_eq_self_iff.mpr hdigits
  unfold digits?
  simp only [htake, hall, hlength, hleast, if_true, List.drop_left' hlength]

/-- A number without a limit takes all the digits there are. -/
theorem digits?_all (hleast : least ≤ digits.length) (hdigits : ∀ c ∈ digits, c.isDigit = true)
    (hrest : ∀ c ∈ rest.head?, c.isDigit = false) :
    digits? least (digits ++ rest).length (digits ++ rest) =
      some (Nat.ofDigitChars 10 digits 0, rest) := by
  unfold digits?
  simp only [List.take_length, Text.takeWhile_append_stop hdigits hrest, hleast, if_true,
    List.drop_left]

theorem digits?_eq_none {c : Char} (hleast : 0 < least) (hc : c.isDigit = false) (rest : Text) :
    digits? least most (c :: rest) = none := by
  have hnone : ((c :: rest).take most).takeWhile Char.isDigit = [] := by
    cases most with
    | zero => rfl
    | succ most => rw [List.take_succ_cons, List.takeWhile_cons_of_neg (by simp [hc])]
  unfold digits?
  simp only [hnone, List.length_nil]
  rw [if_neg (by omega)]

theorem trimStart_digits (hne : digits ≠ []) (hdigits : ∀ c ∈ digits, c.isDigit = true) :
    Text.trimStart (digits ++ rest) = digits ++ rest := by
  apply Text.trimStart_eq_self
  intro c hc
  rw [List.head?_append_of_ne_nil _ hne] at hc
  exact Text.isBlank_of_isDigit (hdigits c (List.mem_of_mem_head? hc))

theorem sign?_digits (hne : digits ≠ []) (hdigits : ∀ c ∈ digits, c.isDigit = true) :
    sign? (digits ++ rest) = none := by
  obtain ⟨c, digits, rfl⟩ := List.exists_cons_of_ne_nil hne
  have hc := hdigits c List.mem_cons_self
  unfold sign?
  split
  · rename_i heq
    obtain rfl := (List.cons.inj heq).1
    exact absurd hc (by decide)
  · rename_i heq
    obtain rfl := (List.cons.inj heq).1
    exact absurd hc (by decide)
  · rfl

end Digits

section Written

variable {i : Instant} {n : Nat} {rest : Text}

theorem isDigit_of_mem_two {c : Char} (h : c ∈ two n) : c.isDigit = true :=
  Text.isDigit_of_mem_padded h

theorem length_two (h : n < 100) : (two n).length = 2 := Text.length_padded (by omega) h

theorem field?_two (h : n < 100) : field? (two n ++ rest) = some (n, rest) := by
  have hlength := length_two h
  have hne : two n ≠ [] := List.ne_nil_of_length_pos (by omega)
  rw [field?, trimStart_digits hne fun c hc => isDigit_of_mem_two hc,
    digits?_append hlength (by omega) fun c hc => isDigit_of_mem_two hc, two,
    Text.ofDigitChars_padded]

/-- The year without its sign. -/
def yearDigits (year : Int) : Text := Text.padded 4 (Text.decimal year.natAbs)

theorem isDigit_of_mem_yearDigits {year : Int} {c : Char} (h : c ∈ yearDigits year) :
    c.isDigit = true :=
  Text.isDigit_of_mem_padded h

theorem yearText_of_four {year : Int} (hlow : 0 ≤ year) (hhigh : year ≤ 9999) :
    yearText year = yearDigits year ∧ (yearDigits year).length = 4 := by
  refine ⟨?_, Text.length_padded (by omega) (by omega)⟩
  unfold yearText
  simp only
  rw [if_neg (by omega), if_neg (by omega), yearDigits]

/-- A year that is less or more than four digits tell has a sign in front of its digits. -/
theorem yearText_of_sign {year : Int} (h : ¬ (0 ≤ year ∧ year ≤ 9999)) :
    ∃ sign ∈ ['+', '-'], yearText year = sign :: yearDigits year := by
  unfold yearText
  simp only
  split
  · exact ⟨'-', by simp, rfl⟩
  · rw [if_pos (by omega)]
    exact ⟨'+', by simp, rfl⟩

theorem year?_yearText {year : Int} (hlow : 0 ≤ year) (hhigh : year ≤ 9999) :
    year? (yearText year ++ rest) = some (year, rest) := by
  obtain ⟨htext, hlength⟩ := yearText_of_four hlow hhigh
  have hne : yearDigits year ≠ [] := List.ne_nil_of_length_pos (by omega)
  have hdigits : ∀ c ∈ yearDigits year, c.isDigit = true := fun c hc => isDigit_of_mem_yearDigits hc
  have hvalue : Nat.ofDigitChars 10 (yearDigits year) 0 = year.natAbs :=
    Text.ofDigitChars_padded 4 year.natAbs
  have habs : ((year.natAbs : Nat) : Int) = year := Int.natAbs_of_nonneg hlow
  unfold year?
  simp only [htext, trimStart_digits hne hdigits, sign?_digits hne hdigits,
    digits?_append hlength (by omega : 1 ≤ 4) hdigits, hvalue, Option.map_some, habs]

theorem text_eq (i : Instant) :
    i.text = yearText i.year ++ (two i.month ++ (two i.day ++ ('T' :: (two i.hour ++
      (two i.minute ++ (two i.second ++ ['Z'])))))) := by
  simp only [text, List.append_assoc, List.cons_append]

/-- No field but the year has more than two digits. -/
theorem Sound.lt_hundred (h : i.Sound) :
    i.month < 100 ∧ i.day < 100 ∧ i.hour < 100 ∧ i.minute < 100 ∧ i.second < 100 := by
  obtain ⟨-, hmonth, -, hday, hhour, hminute, hsecond⟩ := h
  have hdays := (daysIn_bounds i.year i.month).2
  omega

/-- Reading undoes writing in the years of four digits. -/
theorem parse?_text (h : i.Sound) (hlow : 0 ≤ i.year) (hhigh : i.year ≤ 9999) :
    parse? i.text = some i := by
  obtain ⟨hmonth, hday, hhour, hminute, hsecond⟩ := h.lt_hundred
  have hcovered : isCovered i.year = true := by
    simp only [isCovered, Bool.and_eq_true, decide_eq_true_eq]
    omega
  have hT : ∀ t, Text.after? ['T'] ('T' :: t) = some t := Text.after?_append ['T']
  have hvalid : valid? i = some i := valid?_eq_some_iff.mpr ⟨rfl, hcovered, h⟩
  have hbasic : basic? i.text = some i := by
    rw [text_eq]
    unfold basic?
    simp only [Option.bind_eq_bind, year?_yearText hlow hhigh, Option.bind_some, field?_two hmonth,
      field?_two hday, hT, field?_two hhour, field?_two hminute, field?_two hsecond, if_true]
    exact hvalid
  rw [parse?, hbasic, Option.some_or]

theorem year?_sign {sign : Char} (hsign : sign ∈ ['+', '-']) {digits : Text} (hne : digits ≠ [])
    (hdigits : ∀ c ∈ digits, c.isDigit = true) (rest : Text) :
    ∃ year, year? (sign :: (digits ++ 'T' :: rest)) = some (year, 'T' :: rest) := by
  have hpos : 1 ≤ digits.length := List.length_pos_iff.mpr hne
  have hread : digits? 1 (digits ++ 'T' :: rest).length (digits ++ 'T' :: rest) =
      some (Nat.ofDigitChars 10 digits 0, 'T' :: rest) :=
    digits?_all hpos hdigits fun c hc => Option.some.inj hc ▸ rfl
  have hstart : ∀ sign ∈ ['+', '-'], Text.isBlank sign = false := by decide
  have htrim : Text.trimStart (sign :: (digits ++ 'T' :: rest)) = sign :: (digits ++ 'T' :: rest) :=
    Text.trimStart_eq_self fun c hc => Option.some.inj hc ▸ hstart sign hsign
  unfold year?
  rw [htrim]
  rcases List.mem_pair.mp hsign with rfl | rfl
  · simp only [sign?, hread, Option.map_some]
    exact ⟨_, rfl⟩
  · simp only [sign?, hread, Option.map_some]
    exact ⟨_, rfl⟩

/-- Behind a sign the digits of month and day follow those of the year. -/
theorem text_of_sign (h : ¬ (0 ≤ i.year ∧ i.year ≤ 9999)) :
    ∃ sign ∈ ['+', '-'], ∃ digits rest : Text, digits ≠ [] ∧ (∀ c ∈ digits, c.isDigit = true) ∧
      i.text = sign :: (digits ++ 'T' :: rest) := by
  obtain ⟨sign, hsign, hyear⟩ := yearText_of_sign h
  refine ⟨sign, hsign, yearDigits i.year ++ two i.month ++ two i.day,
    two i.hour ++ (two i.minute ++ (two i.second ++ ['Z'])), ?_, ?_, ?_⟩
  · simp [yearDigits, Text.padded, Text.decimal_ne_nil]
  · intro c hc
    rcases List.mem_append.mp hc with hc | hc
    · rcases List.mem_append.mp hc with hc | hc
      · exact isDigit_of_mem_yearDigits hc
      · exact isDigit_of_mem_two hc
    · exact isDigit_of_mem_two hc
  · rw [text_eq, hyear]
    simp only [List.append_assoc, List.cons_append]

theorem isDigit_of_sign {sign : Char} (h : sign ∈ ['+', '-']) : sign.isDigit = false := by
  rcases List.mem_pair.mp h with rfl | rfl <;> rfl

theorem field?_T (t : Text) : field? ('T' :: t) = none := by
  have htrim : Text.trimStart ('T' :: t) = 'T' :: t :=
    Text.trimStart_eq_self fun c hc => Option.some.inj hc ▸ rfl
  rw [field?, htrim]
  exact digits?_eq_none (by omega) rfl t

/-- All these digits are taken for a year, so that no month is left. -/
theorem parse?_text_of_sign (h : ¬ (0 ≤ i.year ∧ i.year ≤ 9999)) : parse? i.text = none := by
  obtain ⟨sign, hsign, digits, rest, hne, hdigits, htext⟩ := text_of_sign h
  have hbasic : basic? i.text = none := by
    obtain ⟨year, hread⟩ := year?_sign hsign hne hdigits rest
    rw [htext]
    unfold basic?
    simp only [Option.bind_eq_bind, hread, Option.bind_some, field?_T, Option.bind_none]
  have hinternet : internet? i.text = none := by
    rw [htext]
    unfold internet?
    simp only [Option.bind_eq_bind, digits?_eq_none (show 0 < 4 by omega) (isDigit_of_sign hsign),
      Option.bind_none]
  rw [parse?, hbasic, hinternet, Option.or_none]

/-- The basic form is what is written in the years of four digits, and only there. -/
theorem isBasic_text_iff (h : i.Sound) : IsBasic i.text ↔ 0 ≤ i.year ∧ i.year ≤ 9999 := by
  constructor
  · rintro ⟨date, time, heq, hdate, -, hdigits⟩
    by_contra hyear
    obtain ⟨sign, hsign, _, _, -, -, htext⟩ := text_of_sign hyear
    rw [htext] at heq
    cases date with
    | nil => cases hdate
    | cons c date =>
      obtain rfl := (List.cons.inj heq).1
      have hc := hdigits sign (List.mem_append_left _ List.mem_cons_self)
      rw [isDigit_of_sign hsign] at hc
      cases hc
  · rintro ⟨hlow, hhigh⟩
    obtain ⟨hmonth, hday, hhour, hminute, hsecond⟩ := h.lt_hundred
    obtain ⟨hyear, hlength⟩ := yearText_of_four hlow hhigh
    refine ⟨yearText i.year ++ two i.month ++ two i.day, two i.hour ++ two i.minute ++ two i.second,
      ?_, ?_, ?_, ?_⟩
    · rw [text_eq]
      simp only [List.append_assoc, List.cons_append]
    · rw [List.length_append, List.length_append, hyear, hlength, length_two hmonth,
        length_two hday]
    · rw [List.length_append, List.length_append, length_two hhour, length_two hminute,
        length_two hsecond]
    · rw [hyear]
      simp only [List.mem_append, or_assoc]
      rintro c (hc | hc | hc | hc | hc | hc)
      · exact isDigit_of_mem_yearDigits hc
      all_goals exact isDigit_of_mem_two hc

theorem blankless_text (i : Instant) : Text.Blankless i.text := by
  have htwo : ∀ n, Text.Blankless (two n) := fun n =>
    Text.blankless_padded 2 (Text.blankless_decimal n)
  have hdigits : Text.Blankless (yearDigits i.year) :=
    Text.blankless_padded 4 (Text.blankless_decimal _)
  have hyear : Text.Blankless (yearText i.year) := by
    unfold yearText
    simp only
    split
    · exact Text.blankless_cons rfl hdigits
    split
    · exact Text.blankless_cons rfl hdigits
    · exact hdigits
  have hend : Text.Blankless ['Z'] := Text.blankless_cons rfl Text.blankless_nil
  rw [text_eq]
  exact Text.blankless_append hyear (Text.blankless_append (htwo _) (Text.blankless_append (htwo _)
    (Text.blankless_cons rfl (Text.blankless_append (htwo _) (Text.blankless_append (htwo _)
      (Text.blankless_append (htwo _) hend))))))

end Written

end Instant

namespace PlayRange

/-- A clock range is accepted exactly if its start is read as an instant, and sends that instant. -/
theorem build_clock_eq_ok_iff {start v : Text} :
    build .clock start = .ok (some v) ↔
      ∃ i, Instant.parse? (Text.trim start) = some i ∧ v = (clock i).text := by
  unfold build parse
  simp only
  cases Instant.parse? (Text.trim start) with
  | none => simp [Except.map]
  | some i => simp [Except.map, eq_comm]

/-- What is sent is in the basic form exactly in the years 0 to 9999, and in these years alone the
start that stands between the equals sign and the last hyphen is accepted again and sends the same
value. -/
theorem clock_sent_iff {start v : Text} (h : build .clock start = .ok (some v)) :
    ∃ (i : Instant) (t : Text), Instant.parse? (Text.trim start) = some i ∧
      v = "clock=".toList ++ t ++ ['-'] ∧
      (Instant.IsBasic t ↔ 0 ≤ i.year ∧ i.year ≤ 9999) ∧
      (build .clock t = .ok (some v) ↔ 0 ≤ i.year ∧ i.year ≤ 9999) := by
  obtain ⟨i, hread, rfl⟩ := build_clock_eq_ok_iff.mp h
  have hsound := Instant.sound_of_parse? hread
  refine ⟨i, i.text, hread, text_clock i, Instant.isBasic_text_iff hsound, ?_⟩
  rw [build_clock_eq_ok_iff, Text.trim_of_blankless i.blankless_text]
  constructor
  · rintro ⟨j, hagain, -⟩
    by_contra hyear
    rw [Instant.parse?_text_of_sign hyear] at hagain
    cases hagain
  · rintro ⟨hlow, hhigh⟩
    exact ⟨i, Instant.parse?_text hsound hlow hhigh, rfl⟩

/-- The fraction of a leap second at the end of a year, half an hour behind UTC and with the minus
sign of mathematics: a minute of the next year that keeps its second 60. -/
theorem clock_sent_leap :
    let start := " 2016-12-31t23:59:60.75−00:30\n".toList
    let v := "clock=20170101T002960Z-".toList
    build .clock start = .ok (some v) ∧
      ∃ (i : Instant) (t : Text), Instant.parse? (Text.trim start) = some i ∧
        v = "clock=".toList ++ t ++ ['-'] ∧
        (Instant.IsBasic t ↔ 0 ≤ i.year ∧ i.year ≤ 9999) ∧
        (build .clock t = .ok (some v) ↔ 0 ≤ i.year ∧ i.year ≤ 9999) := by
  intro start v
  have hbuild : build .clock start = .ok (some v) := by decide +kernel
  exact ⟨hbuild, clock_sent_iff hbuild⟩

/-- The last half hour of the year 9999 an hour behind UTC: it is accepted and sent with a sign and
nine digits, and what is sent is refused. -/
theorem clock_overflows :
    let t := "+100000101T003000Z".toList
    build .clock "9999-12-31T23:30:00-01:00".toList =
        .ok (some ("clock=".toList ++ t ++ ['-'])) ∧
      ¬ Instant.IsBasic t ∧ build .clock t = .error (clockFault t) := by
  intro t
  have ht : t = Instant.text ⟨10000, 1, 1, 0, 30, 0⟩ := by decide
  have hsound : Instant.Sound ⟨10000, 1, 1, 0, 30, 0⟩ :=
    (Instant.isValid_iff.mp (by decide)).2
  refine ⟨by decide +kernel, ?_, by decide +kernel⟩
  rw [ht, Instant.isBasic_text_iff hsound]
  decide

end PlayRange

end Rtsp
