import Rtsp.Proofs.Text.Blankless
import Rtsp.Transport

/-!
The Transport field of a client. What it asks for, two ports or two channels, is written without
blanks, and whoever reads the field finds just that in it.
-/
namespace Rtsp.Transport

open Text (Blankless blankless_append blankless_cons blankless_nil)

theorem blankless_pairText (a b : Nat) : Blankless (pairText a b) :=
  blankless_append (Text.blankless_decimal a)
    (blankless_cons (by decide) (Text.blankless_decimal b))

theorem blankless_parameter {α : Type} {name : String} {write : α → Text} {value : Option α}
    (hname : Blankless name.toList) (hwrite : ∀ x, Blankless (write x)) :
    Blankless (parameter name write value) := by
  cases value with
  | none => exact blankless_nil
  | some x =>
    exact blankless_cons (by decide)
      (blankless_append hname (blankless_cons (by decide) (hwrite x)))

/-- The value of a Transport field that a client writes; it tells no SSRC. -/
theorem blankless_text {th : Transport} (hssrc : th.ssrc = none) : Blankless th.text := by
  have hprofile : Blankless (profile th.tcp) := by
    cases th.tcp <;> decide
  unfold text
  rw [hssrc]
  refine blankless_append ?_ blankless_nil
  refine blankless_append ?_ (blankless_parameter (by decide) fun _ => blankless_pairText _ _)
  refine blankless_append ?_ (blankless_parameter (by decide) fun _ => blankless_pairText _ _)
  exact blankless_append hprofile
    (blankless_parameter (by decide) fun _ => blankless_pairText _ _)

section Pair

theorem not_mem_pairText {c : Char} (hc : c.isDigit = false) (hdash : c ≠ '-') (a b : Nat) :
    c ∉ pairText a b :=
  List.not_mem_append (Text.not_mem_decimal hc a)
    (List.not_mem_cons_of_ne_of_not_mem hdash (Text.not_mem_decimal hc b))

/-- Two numbers that fit are read back. -/
theorem pair?_pairText {width a b : Nat} (ha : a < Text.bound width) (hb : b < Text.bound width) :
    pair? width (pairText a b) = some (a, b) := by
  have htrim : ∀ n, Text.trim (Text.decimal n) = Text.decimal n := fun n =>
    Text.trim_of_blankless (Text.blankless_decimal n)
  have hcut : Text.cut? '-' (pairText a b) = some (Text.decimal a, Text.decimal b) :=
    Text.cut?_append (Text.not_mem_decimal (by decide) a) _
  simp only [pair?, Text.trim_of_blankless (blankless_pairText a b), hcut, htrim,
    Text.natural?_decimal ha, Text.natural?_decimal hb, bind, Option.bind]

theorem ports?_pairText (a b : UInt16) : ports? (pairText a.toNat b.toNat) = some (a, b) := by
  rw [ports?, pair?_pairText a.toNat_lt b.toNat_lt]
  simp

theorem channels?_pairText (a b : UInt8) : channels? (pairText a.toNat b.toNat) = some (a, b) := by
  rw [channels?, pair?_pairText a.toNat_lt b.toNat_lt]
  simp

end Pair

/-- A profile with one parameter behind it. -/
theorem parse?_profile (tcp : Bool) {parameter : Text} (hcomma : ',' ∉ parameter)
    (hsemicolon : ';' ∉ parameter) (hblank : Blankless parameter) :
    parse? (profile tcp ++ ';' :: parameter) = some (put { empty with tcp := tcp } parameter) := by
  have hcut : Text.cut ',' (profile tcp ++ ';' :: parameter) =
      (profile tcp ++ ';' :: parameter, []) := by
    have hprofile : ',' ∉ profile tcp := by
      cases tcp <;> decide
    rw [Text.cut, Text.cut?_eq_none (List.not_mem_append hprofile
      (List.not_mem_cons_of_ne_of_not_mem (by decide) hcomma)), Option.getD_none]
  have hsplit : (profile tcp ++ ';' :: parameter).splitOn ';' =
      (profile tcp).splitOn ';' ++ [parameter] := by
    rw [List.splitOn_append_cons_self, List.splitOn_eq_singleton hsemicolon]
  simp only [parse?, hcut, hsplit, List.map_append, List.map_cons, List.map_nil,
    Text.trim_of_blankless hblank]
  cases tcp <;> rfl

section Parameters

theorem cut_parameter {name : String} (hname : '=' ∉ name.toList) (value : Text) :
    Text.cut '=' (name.toList ++ '=' :: value) = (name.toList, value) := by
  rw [Text.cut, Text.cut?_append hname, Option.getD_some]

theorem put_clientPort (th : Transport) (value : Text) :
    put th ("client_port".toList ++ '=' :: value) = { th with clientPort := ports? value } := by
  rw [put, cut_parameter (by decide)]
  exact if_pos (by decide)

theorem put_interleaved (th : Transport) (value : Text) :
    put th ("interleaved".toList ++ '=' :: value) = { th with interleaved := channels? value } := by
  rw [put, cut_parameter (by decide)]
  exact (if_neg (by decide)).trans ((if_neg (by decide)).trans (if_pos (by decide)))

/-- A profile with a pair of numbers behind it. -/
theorem parse?_pair (tcp : Bool) {name : String} (a b : Nat) (hname : Blankless name.toList)
    (hcomma : ',' ∉ name.toList) (hsemicolon : ';' ∉ name.toList) :
    parse? (profile tcp ++ ';' :: (name.toList ++ '=' :: pairText a b)) =
      some (put { empty with tcp := tcp } (name.toList ++ '=' :: pairText a b)) := by
  have hclear : ∀ {c : Char}, c ∉ name.toList → c ≠ '=' → c.isDigit = false → c ≠ '-' →
      c ∉ name.toList ++ '=' :: pairText a b := fun hc heq hdigit hdash =>
    List.not_mem_append hc
      (List.not_mem_cons_of_ne_of_not_mem heq (not_mem_pairText hdigit hdash a b))
  exact parse?_profile tcp (hclear hcomma (by decide) (by decide) (by decide))
    (hclear hsemicolon (by decide) (by decide) (by decide))
    (blankless_append hname (blankless_cons (by decide) (blankless_pairText a b)))

end Parameters

/-- The ports that a client asks for are read back. -/
theorem parse?_ofPorts (rtp rtcp : UInt16) :
    parse? (ofPorts rtp rtcp).text = some (ofPorts rtp rtcp) := by
  have htext : (ofPorts rtp rtcp).text = profile false ++
      ';' :: ("client_port".toList ++ '=' :: pairText rtp.toNat rtcp.toNat) := by
    simp only [text, ofPorts, empty, parameter, List.append_nil, List.cons_append]
  rw [htext, parse?_pair false _ _ (by decide) (by decide) (by decide), put_clientPort,
    ports?_pairText]
  rfl

/-- The channels that a client asks for are read back. -/
theorem parse?_ofChannels (rtp rtcp : UInt8) :
    parse? (ofChannels rtp rtcp).text = some (ofChannels rtp rtcp) := by
  have htext : (ofChannels rtp rtcp).text = profile true ++
      ';' :: ("interleaved".toList ++ '=' :: pairText rtp.toNat rtcp.toNat) := by
    simp only [text, ofChannels, empty, parameter, List.append_nil, List.cons_append]
  rw [htext, parse?_pair true _ _ (by decide) (by decide) (by decide), put_interleaved,
    channels?_pairText]
  rfl

end Rtsp.Transport
