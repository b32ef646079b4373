import Mathlib.Algebra.Order.Floor.Semifield
import Mathlib.Algebra.Order.Round
import Mathlib.Data.Rat.Floor
import Mathlib.Tactic.Linarith
import Mathlib.Tactic.Positivity
import Rtsp.PlayRange
import Rtsp.Proofs.Text.Decimal

/-!
What the text of an offset tells. In seconds it is a decimal number as short as it can be written,
and its value is the offset rounded to hundredths, a half going up. As a time code it is hours,
minutes and seconds, and they add up to the whole seconds of the offset. Each text tells one number
only, so that it is near the offset whoever reads it, and a later offset tells no smaller one.
-/
namespace Rtsp

def Duration.inSeconds (d : Duration) : ℚ := d.nanos / 1000000000

namespace Text

/-- A number with at most so many decimals as it is written shortest: digits stand behind a point,
and the last of them is no zero. -/
inductive Shortest (places : Nat) : Text → Prop
  | whole {t : Text} (hwhole : Whole t) : Shortest places t
  | broken {whole decimals : Text} (hwhole : Whole whole) (hne : decimals ≠ [])
      (hdigits : ∀ c ∈ decimals, c.isDigit = true) (hplaces : decimals.length ≤ places)
      (hlast : decimals.getLast? ≠ some '0') : Shortest places (whole ++ '.' :: decimals)

/-- The value of a number with a point or without one. -/
def value (t : Text) : ℚ :=
  let parts := cut '.' t
  Nat.ofDigitChars 10 (parts.1 ++ parts.2) 0 / 10 ^ parts.2.length

theorem value_whole {t : Text} (h : '.' ∉ t) : value t = Nat.ofDigitChars 10 t 0 := by
  simp [value, cut, cut?_eq_none h]

theorem value_broken {whole : Text} (h : '.' ∉ whole) (decimals : Text) :
    value (whole ++ '.' :: decimals) =
      Nat.ofDigitChars 10 whole 0 + Nat.ofDigitChars 10 decimals 0 / 10 ^ decimals.length := by
  have hpos : (10 : ℚ) ^ decimals.length ≠ 0 := by positivity
  simp only [value, cut, cut?_append h, Option.getD_some]
  rw [Nat.ofDigitChars_append, Nat.ofDigitChars_eq_ofDigitChars_zero]
  push_cast
  rw [add_div, mul_div_cancel_left₀ _ hpos]

end Text

namespace PlayRange

open Text (Whole Shortest value)

/-- Two digits, below sixty. -/
structure Sixtieth (t : Text) : Prop where
  length_eq : t.length = 2
  isDigit : ∀ c ∈ t, c.isDigit = true
  lt : Nat.ofDigitChars 10 t 0 < 60

/-- The value of a header that starts at so many seconds. -/
inductive TellsSeconds : Text → ℚ → Prop
  | of {t : Text} (ht : Shortest 2 t) : TellsSeconds ("npt=".toList ++ t ++ ['-']) (value t)

/-- The value of a header that starts at a time code of so many seconds. -/
inductive TellsCode : Text → ℕ → Prop
  | of {hours minutes seconds : Text} (hhours : Whole hours) (hminutes : Sixtieth minutes)
      (hseconds : Sixtieth seconds) :
      TellsCode ("smpte=".toList ++ (hours ++ ':' :: minutes ++ ':' :: seconds) ++ ['-'])
        (3600 * Nat.ofDigitChars 10 hours 0 + 60 * Nat.ofDigitChars 10 minutes 0 +
          Nat.ofDigitChars 10 seconds 0)

section Seconds

variable {n : Nat}

theorem shortest_fraction (whole : Nat) (h : n < 100) :
    Shortest 2 (Text.decimal whole ++ fraction n) := by
  unfold fraction
  split
  · rw [List.append_nil]
    exact .whole (Text.whole_decimal whole)
  split
  · have hdigit : Text.decimal (n / 10) = [(n / 10).digitChar] :=
      Nat.toDigits_of_lt_base (by omega)
    refine .broken (Text.whole_decimal whole) (Text.decimal_ne_nil _)
      (fun c hc => Text.isDigit_of_mem_decimal hc) (by simp [hdigit]) ?_
    rw [Text.getLast?_decimal, ne_eq, Option.some.injEq]
    exact Text.digitChar_ne_zero (by omega) (by omega)
  · have hlength : (Text.padded 2 (Text.decimal n)).length = 2 := Text.length_padded (by omega) h
    refine .broken (Text.whole_decimal whole) (by rintro hnil; simp [hnil] at hlength)
      (fun c hc => Text.isDigit_of_mem_padded hc) (by omega) ?_
    rw [Text.getLast?_padded, ne_eq, Option.some.injEq]
    exact Text.digitChar_ne_zero (by omega) (by omega)

theorem value_fraction (whole : Nat) (h : n < 100) :
    value (Text.decimal whole ++ fraction n) = whole + n / 100 := by
  have hpoint : ∀ k, '.' ∉ Text.decimal k := Text.not_mem_decimal (by decide)
  unfold fraction
  split
  · rename_i hzero
    rw [List.append_nil, Text.value_whole (hpoint whole), Text.ofDigitChars_decimal, hzero,
      Nat.cast_zero, zero_div, add_zero]
  split
  · rename_i hten
    have hdigit : (Text.decimal (n / 10)).length = 1 := by
      rw [Text.decimal, Nat.toDigits_of_lt_base (by omega), List.length_singleton]
    rw [Text.value_broken (hpoint whole), Text.ofDigitChars_decimal, Text.ofDigitChars_decimal,
      hdigit, pow_one]
    have hn : (n : ℚ) = 10 * (n / 10 : ℕ) := by
      exact_mod_cast (Nat.mul_div_cancel' (Nat.dvd_of_mod_eq_zero hten)).symm
    linarith
  · rw [Text.value_broken (hpoint whole), Text.ofDigitChars_decimal, Text.ofDigitChars_padded,
      Text.length_padded (by omega) h]
    norm_num

/-- Half a hundredth more, cut off at hundredths: that is rounding with a half going up. -/
theorem round_inSeconds (d : Duration) :
    round (100 * d.inSeconds) = ((d.nanos + 5000000) / 10000000 : ℕ) := by
  have hdiv := Nat.div_add_mod (d.nanos + 5000000) 10000000
  have hmod := Nat.mod_lt (d.nanos + 5000000) (show 0 < 10000000 by omega)
  generalize (d.nanos + 5000000) / 10000000 = q at *
  have hle : (10000000 * q : ℚ) ≤ d.nanos + 5000000 := by exact_mod_cast (by omega)
  have hlt : (d.nanos + 5000000 : ℚ) < 10000000 * (q + 1) := by exact_mod_cast (by omega)
  rw [round_eq_iff, Set.mem_Ico, Duration.inSeconds]
  push_cast
  constructor <;> linarith

theorem value_nptText (d : Duration) : value (nptText d) = round (100 * d.inSeconds) / 100 := by
  rw [nptText, value_fraction _ (Nat.mod_lt _ (by omega)), round_inSeconds]
  generalize (d.nanos + 5000000) / 10000000 = q
  have hq : (q : ℚ) = 100 * (q / 100 : ℕ) + (q % 100 : ℕ) := by
    exact_mod_cast (Nat.div_add_mod q 100).symm
  push_cast
  linarith

theorem tellsSeconds_iff {t : Text} {x : ℚ} :
    TellsSeconds ("npt=".toList ++ t ++ ['-']) x ↔ Shortest 2 t ∧ x = value t := by
  constructor
  · generalize htext : "npt=".toList ++ t ++ ['-'] = text
    rintro ⟨ht⟩
    rw [List.append_cancel_right_eq, List.append_cancel_left_eq] at htext
    exact ⟨htext ▸ ht, htext ▸ rfl⟩
  · rintro ⟨ht, rfl⟩
    exact .of ht

/-- The text in seconds tells the offset rounded to hundredths, and nothing else. -/
theorem tellsSeconds_text (d : Duration) (x : ℚ) :
    TellsSeconds (npt d).text x ↔ x = round (100 * d.inSeconds) / 100 := by
  rw [text_npt, tellsSeconds_iff, value_nptText]
  exact and_iff_right (shortest_fraction _ (Nat.mod_lt _ (by omega)))

end Seconds

section Code

theorem sixtieth_sixty (n : Nat) : Sixtieth (sixty n) where
  length_eq := Text.length_padded (by omega) (by omega)
  isDigit _ hc := Text.isDigit_of_mem_padded hc
  lt := by
    rw [sixty, Text.ofDigitChars_padded]
    omega

theorem tellsCode_iff {hours minutes seconds : Text} {n : ℕ} (hhours : Whole hours)
    (hminutes : Sixtieth minutes) (hseconds : Sixtieth seconds) :
    TellsCode ("smpte=".toList ++ (hours ++ ':' :: minutes ++ ':' :: seconds) ++ ['-']) n ↔
      n = 3600 * Nat.ofDigitChars 10 hours 0 + 60 * Nat.ofDigitChars 10 minutes 0 +
        Nat.ofDigitChars 10 seconds 0 := by
  constructor
  · generalize htext :
      "smpte=".toList ++ (hours ++ ':' :: minutes ++ ':' :: seconds) ++ ['-'] = text
    intro h
    cases h with
    | @of hours' minutes' seconds' hhours' hminutes' hseconds' =>
      rw [List.append_cancel_right_eq, List.append_cancel_left_eq, List.append_assoc,
        List.append_assoc] at htext
      have hcolon : ∀ {t : Text}, (∀ c ∈ t, c.isDigit = true) → ':' ∉ t := fun h =>
        Text.not_mem_of_isDigit h rfl
      have hcut := congrArg (Text.cut? ':') htext
      rw [List.cons_append, List.cons_append, Text.cut?_append (hcolon hhours.isDigit),
        Text.cut?_append (hcolon hhours'.isDigit)] at hcut
      obtain ⟨rfl, hrest⟩ := Prod.mk.inj (Option.some.inj hcut)
      have hcut := congrArg (Text.cut? ':') hrest
      rw [Text.cut?_append (hcolon hminutes.isDigit),
        Text.cut?_append (hcolon hminutes'.isDigit)] at hcut
      obtain ⟨rfl, rfl⟩ := Prod.mk.inj (Option.some.inj hcut)
      rfl
  · rintro rfl
    exact .of hhours hminutes hseconds

theorem floor_inSeconds (d : Duration) : ⌊d.inSeconds⌋₊ = d.seconds := by
  calc ⌊d.inSeconds⌋₊ = ⌊(d.nanos : ℚ) / (1000000000 : ℕ)⌋₊ := by
        rw [Duration.inSeconds, Nat.cast_ofNat]
    _ = d.seconds := Nat.floor_div_eq_div d.nanos 1000000000

/-- The time code tells the whole seconds of the offset, and nothing else. -/
theorem tellsCode_text (d : Duration) (n : ℕ) :
    TellsCode (smpte d).text n ↔ n = ⌊d.inSeconds⌋₊ := by
  rw [text_smpte, smpteText,
    tellsCode_iff (Text.whole_decimal _) (sixtieth_sixty _) (sixtieth_sixty _),
    Text.ofDigitChars_decimal, sixty, sixty, Text.ofDigitChars_padded, Text.ofDigitChars_padded,
    floor_inSeconds]
  have hadd : 3600 * (d.seconds / 3600) + 60 * (d.seconds / 60 % 60) + d.seconds % 60 =
      d.seconds := by omega
  rw [hadd]

end Code

theorem inSeconds_le {d e : Duration} (h : d.nanos ≤ e.nanos) : d.inSeconds ≤ e.inSeconds := by
  unfold Duration.inSeconds
  gcongr

theorem abs_sub_rounded (x : ℚ) : |x - round (100 * x) / 100| ≤ 5 / 1000 := by
  have h := abs_le.mp (abs_sub_round (100 * x))
  rw [abs_le]
  constructor <;> linarith

theorem round_le_round {x y : ℚ} (h : x ≤ y) : round x ≤ round y := by
  rw [round_eq, round_eq]
  gcongr

/-- Either text tells its own rounding of the offset and no other number. So it tells the offset to
five milliseconds or to a second, and the text of a later offset tells no smaller number. -/
theorem offsets_told (d : Duration) :
    (∀ x, TellsSeconds (npt d).text x ↔ x = round (100 * d.inSeconds) / 100) ∧
    (∀ n, TellsCode (smpte d).text n ↔ n = ⌊d.inSeconds⌋₊) ∧
    (∀ x, TellsSeconds (npt d).text x → |d.inSeconds - x| ≤ 5 / 1000) ∧
    (∀ n : ℕ, TellsCode (smpte d).text n → n ≤ d.inSeconds ∧ d.inSeconds < n + 1) ∧
    ∀ e : Duration, d.nanos ≤ e.nanos →
      (∀ x y, TellsSeconds (npt d).text x → TellsSeconds (npt e).text y → x ≤ y) ∧
      ∀ m n, TellsCode (smpte d).text m → TellsCode (smpte e).text n → m ≤ n := by
  refine ⟨tellsSeconds_text d, tellsCode_text d, ?near, ?within, ?later⟩
  case near =>
    intro x hx
    rw [(tellsSeconds_text d x).mp hx]
    exact abs_sub_rounded d.inSeconds
  case within =>
    intro n hn
    have hnonneg : 0 ≤ d.inSeconds := by
      unfold Duration.inSeconds
      positivity
    rw [(tellsCode_text d n).mp hn]
    exact ⟨Nat.floor_le hnonneg, Nat.lt_floor_add_one d.inSeconds⟩
  case later =>
    intro e hle
    have hseconds := inSeconds_le hle
    constructor
    · intro x y hx hy
      rw [(tellsSeconds_text d x).mp hx, (tellsSeconds_text e y).mp hy]
      have hround : round (100 * d.inSeconds) ≤ round (100 * e.inSeconds) :=
        round_le_round (by linarith)
      gcongr
    · intro m n hm hn
      rw [(tellsCode_text d m).mp hm, (tellsCode_text e n).mp hn]
      exact Nat.floor_le_floor hseconds

/-- Half a hundredth before the hour and just under half a hundredth behind it: in seconds both are
the full hour, as time codes they are a second apart. -/
theorem offsets_told_hour :
    let d : Duration := ⟨3599995000000⟩
    let e : Duration := ⟨3600004999999⟩
    (npt d).text = "npt=3600-".toList ∧ (smpte d).text = "smpte=0:59:59-".toList ∧
      (npt e).text = "npt=3600-".toList ∧ (smpte e).text = "smpte=1:00:00-".toList ∧
      TellsSeconds (npt d).text 3600 ∧ TellsCode (smpte d).text 3599 ∧
      TellsSeconds (npt e).text 3600 ∧ TellsCode (smpte e).text 3600 ∧ d.nanos ≤ e.nanos ∧
      |d.inSeconds - 3600| ≤ 5 / 1000 ∧ (3599 ≤ d.inSeconds ∧ d.inSeconds < 3599 + 1) ∧
      (3600 : ℚ) ≤ 3600 ∧ 3599 ≤ 3600 := by
  intro d e
  obtain ⟨hseconds, hcode, hnear, hwithin, hlater⟩ := offsets_told d
  have hd : TellsSeconds (npt d).text 3600 := (hseconds 3600).mpr (by
    rw [round_inSeconds]
    norm_num [d])
  have hd' : TellsCode (smpte d).text 3599 := (hcode 3599).mpr (by
    rw [floor_inSeconds]
    decide)
  have he : TellsSeconds (npt e).text 3600 := ((offsets_told e).1 3600).mpr (by
    rw [round_inSeconds]
    norm_num [e])
  have he' : TellsCode (smpte e).text 3600 := ((offsets_told e).2.1 3600).mpr (by
    rw [floor_inSeconds]
    decide)
  have hle : d.nanos ≤ e.nanos := by decide
  refine ⟨by decide, by decide, by decide, by decide, hd, hd', he, he', hle, hnear _ hd, ?_,
    (hlater e hle).1 _ _ hd he, (hlater e hle).2 _ _ hd' he'⟩
  exact_mod_cast hwithin _ hd'

end PlayRange

end Rtsp
