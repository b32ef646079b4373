import Rtsp.Proofs.Text.Hexadecimal
import Rtsp.Settings

/-!
The pin of a source and the certificates that it lets pass. A draft that is fine without a pin is
fine with one that has sixty-four hexadecimal digits between its colons and blanks, and lets pass
the certificates whose SHA-256 these digits are. How the pin is written down has no part in it, and
the fingerprint of a certificate is a pin in whatever way it is written down.
-/
namespace Rtsp

open Text (sameName)

namespace Fingerprint

variable {t pin : Text}

theorem parse?_eq_some_iff :
    parse? t = some pin ↔
      ((strip t).length = 64 ∧ ∀ c ∈ strip t, Text.isHexDigit c = true) ∧
        pin = Text.upper (strip t) := by
  have hdigit : ∀ c, Text.isHexDigit c.toUpper = Text.isHexDigit c := fun c =>
    congrArg Option.isSome (Text.hexDigit?_toUpper c)
  have hlength : (Text.upper (strip t)).length = (strip t).length := List.length_map ..
  have hall : (Text.upper (strip t)).all Text.isHexDigit = true ↔
      ∀ c ∈ strip t, Text.isHexDigit c = true := by
    simp only [Text.upper, List.all_map, List.all_eq_true, Function.comp_apply, hdigit]
  simp only [parse?, hlength, hall, Option.ite_none_right_eq_some, Option.some.injEq,
    eq_comm (a := pin)]

/-- A certificate is accepted if its fingerprint is what counts in the pin. -/
theorem accepts_upper (t : Text) (certificate : Bytes) :
    accepts (Text.upper t) certificate = true ↔
      sameName (Text.Hex.encode (Digest.Sha256.digest certificate)) t = true := by
  rw [accepts, beq_iff_eq, ofCertificate, Text.Hex.encodeUpper, Text.sameName_iff_upper]

theorem isHexDigit_of_mem_hex {bytes : Bytes} {c : Char} (h : c ∈ Text.Hex.encode bytes) :
    Text.isHexDigit c = true := by
  obtain ⟨b, -, hb⟩ := List.mem_flatMap.mp h
  have hhigh : b.toNat / 16 < 16 := Nat.div_lt_of_lt_mul b.toNat_lt
  have hlow : b.toNat % 16 < 16 := Nat.mod_lt _ (by decide)
  simp only [Text.Hex.encodeByte, List.mem_cons, List.not_mem_nil, or_false] at hb
  rcases hb with rfl | rfl
  · rw [Text.isHexDigit, Text.hexDigit?_digitChar hhigh]
    rfl
  · rw [Text.isHexDigit, Text.hexDigit?_digitChar hlow]
    rfl

end Fingerprint

namespace Settings

/-- The pin is read last, and nothing else depends on it. -/
theorem build_eq (d : Draft) :
    d.build = ({ d with pin := none } : Draft).build.bind fun s =>
      (parsePin d.pin).map fun pin => { s with pin := pin } := by
  have hcheck : ∀ l, check { d with pin := none } l = check d l := fun _ => rfl
  unfold Draft.build
  simp only [hcheck, bind, Except.bind, pure, Except.pure]
  cases Locator.parse d.url with
  | error f => rfl
  | ok l =>
    dsimp only
    cases check d l with
    | error f => rfl
    | ok _ =>
      dsimp only
      cases PlayRange.parse d.rangeKind d.rangeStart with
      | error f => rfl
      | ok range => cases parsePin d.pin <;> rfl

open Fingerprint (strip accepts)

variable {d : Draft} {s s' : Settings} {t : Text}

/-- A pin is taken if it has its digits, and is all that the settings differ in. -/
theorem build_pinned_iff (hd : ({ d with pin := none } : Draft).build = .ok s) :
    ({ d with pin := some t } : Draft).build = .ok s' ↔
      ((strip t).length = 64 ∧ ∀ c ∈ strip t, Text.isHexDigit c = true) ∧
        { s with pin := some (Text.upper (strip t)) } = s' := by
  have hbuild : ({ d with pin := some t } : Draft).build =
      (parsePin (some t)).map fun pin => { s with pin := pin } := by
    rw [build_eq]
    dsimp only
    rw [hd]
    rfl
  rw [hbuild, parsePin]
  cases hparse : Fingerprint.parse? t with
  | none =>
    refine iff_of_false (fun h => by cases h) fun ⟨hdigits, _⟩ => ?_
    rw [Fingerprint.parse?_eq_some_iff.mpr ⟨hdigits, rfl⟩] at hparse
    cases hparse
  | some pin =>
    obtain ⟨hdigits, rfl⟩ := Fingerprint.parse?_eq_some_iff.mp hparse
    exact ⟨fun h => ⟨hdigits, Except.ok.inj h⟩, fun h => congrArg Except.ok h.2⟩

/-- The fingerprint of a certificate has as many digits as a pin, however it is written down. -/
theorem digits_of_sameName {certificate : Bytes}
    (h : sameName (Text.Hex.encode (Digest.Sha256.digest certificate)) (strip t) = true) :
    (strip t).length = 64 ∧ ∀ c ∈ strip t, Text.isHexDigit c = true := by
  have hlower := Text.lower_eq_of_sameName h
  constructor
  · have hlength := congrArg List.length hlower
    rw [Text.lower, Text.lower, List.length_map, List.length_map, Text.Hex.length_encode,
      Digest.Sha256.length_digest] at hlength
    exact hlength.symm
  · intro c hc
    have hmem : c.toLower ∈ Text.lower (Text.Hex.encode (Digest.Sha256.digest certificate)) :=
      hlower ▸ List.mem_map_of_mem hc
    obtain ⟨x, hx, hsame⟩ := List.mem_map.mp hmem
    have hdigit : Text.hexDigit? x = Text.hexDigit? c := by
      rw [← Text.hexDigit?_toLower, hsame, Text.hexDigit?_toLower]
    rw [Text.isHexDigit, ← hdigit]
    exact Fingerprint.isHexDigit_of_mem_hex hx

/-- What is written in a pin but its colons and blanks decides, and letter case does not. A draft
that is fine without a pin is fine with one of sixty-four hexadecimal digits; the pin then accepts
the certificates whose SHA-256 these are; two pins make the same settings just where the digits are
the same; and no pin that has the SHA-256 of some certificate is refused. -/
theorem pin_up_to_notation (hd : ({ d with pin := none } : Draft).build = .ok s) (t : Text) :
    ((∃ s', ({ d with pin := some t } : Draft).build = .ok s') ↔
      (strip t).length = 64 ∧ ∀ c ∈ strip t, Text.isHexDigit c = true) ∧
    (∀ s', ({ d with pin := some t } : Draft).build = .ok s' →
      ∃ pin, s'.pin = some pin ∧ ∀ certificate, accepts pin certificate = true ↔
        sameName (Text.Hex.encode (Digest.Sha256.digest certificate)) (strip t) = true) ∧
    (∀ t' s' s'', ({ d with pin := some t } : Draft).build = .ok s' →
      ({ d with pin := some t' } : Draft).build = .ok s'' →
      (s' = s'' ↔ sameName (strip t) (strip t') = true)) ∧
    ∀ certificate,
      sameName (Text.Hex.encode (Digest.Sha256.digest certificate)) (strip t) = true →
        ∃ s', ({ d with pin := some t } : Draft).build = .ok s' := by
  refine ⟨⟨fun ⟨s', h⟩ => ((build_pinned_iff hd).mp h).1,
    fun hdigits => ⟨_, (build_pinned_iff hd).mpr ⟨hdigits, rfl⟩⟩⟩, fun s' h => ?_,
    fun t' s' s'' h h' => ?_,
    fun certificate h => ⟨_, (build_pinned_iff hd).mpr ⟨digits_of_sameName h, rfl⟩⟩⟩
  · obtain ⟨-, rfl⟩ := (build_pinned_iff hd).mp h
    exact ⟨_, rfl, Fingerprint.accepts_upper (strip t)⟩
  · obtain ⟨-, rfl⟩ := (build_pinned_iff hd).mp h
    obtain ⟨-, rfl⟩ := (build_pinned_iff hd).mp h'
    rw [Text.sameName_iff_upper]
    exact ⟨fun hs => Option.some.inj (congrArg Settings.pin hs), fun hupper => by rw [hupper]⟩

/-- The SHA-256 of nothing, in pairs of digits and in lines, and in both cases. -/
theorem pin_up_to_notation_empty :
    let d := Draft.ofUrl "rtsps://cam/live".toList
    let t := "e3:b0:C4:42:98:fc:1c:14:\u00a09afbf4c8 996fb924\r\n".toList ++
      "27ae41e4649b934c\tA495991b7852B855:".toList
    ∃ s s' pin, ({ d with pin := none } : Draft).build = .ok s ∧
      ({ d with pin := some t } : Draft).build = .ok s' ∧ s'.pin = some pin ∧
      accepts pin [] = true ∧ accepts pin [0] = false := by
  intro d t
  have hfine : ({ d with pin := none } : Draft).build.toOption.isSome = true := by decide +kernel
  obtain ⟨s, hd⟩ : ∃ s, ({ d with pin := none } : Draft).build = .ok s := by
    cases hbuild : ({ d with pin := none } : Draft).build with
    | error f =>
      rw [hbuild] at hfine
      cases hfine
    | ok s => exact ⟨s, rfl⟩
  have hown : sameName (Text.Hex.encode (Digest.Sha256.digest [])) (strip t) = true := by
    decide +kernel
  have hother : ¬ sameName (Text.Hex.encode (Digest.Sha256.digest [0])) (strip t) = true := by
    decide +kernel
  obtain ⟨-, haccepts, -, htaken⟩ := pin_up_to_notation hd t
  obtain ⟨s', hs'⟩ := htaken [] hown
  obtain ⟨pin, hpin, hcertificate⟩ := haccepts s' hs'
  exact ⟨s, s', pin, hd, hs', hpin, (hcertificate []).mpr hown,
    Bool.eq_false_iff.mpr fun hyes => hother ((hcertificate [0]).mp hyes)⟩

end Settings

end Rtsp
