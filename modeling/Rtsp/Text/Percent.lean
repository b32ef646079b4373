import Rtsp.Text.Hex
import Rtsp.Text.Utf8

/-!
Percent-encoding: a byte may be written as `%` and two hexadecimal digits. Writing takes the set
of ASCII characters that may not stand for themselves; controls and everything beyond ASCII never
do. Reading takes a `%` without two digits behind it for itself.
-/
namespace Rtsp.Text.Percent

def encodeByte (b : UInt8) : Text := '%' :: upper (Hex.encodeByte b)

/-- Controls and all characters beyond ASCII. -/
def isForeign (c : Char) : Bool := decide (c.toNat < 0x20) || decide (0x7F ≤ c.toNat)

def encodeChar (reserved : Char → Bool) (c : Char) : Text :=
  if isForeign c || reserved c then (Utf8.encodeChar c).flatMap encodeByte else [c]

def encode (reserved : Char → Bool) (t : Text) : Text := t.flatMap (encodeChar reserved)

def hexByte? (b : UInt8) : Option Nat :=
  if b.toNat < 0x80 then hexDigit? (Char.ofNat b.toNat) else none

def decodeBytes : Bytes → Bytes
  | [] => []
  | b :: rest =>
    if b = 0x25 then
      match rest with
      | high :: low :: rest' =>
        match hexByte? high, hexByte? low with
        | some h, some l => (h * 16 + l).toUInt8 :: decodeBytes rest'
        | _, _ => b :: decodeBytes (high :: low :: rest')
      | rest' => b :: decodeBytes rest'
    else b :: decodeBytes rest

/-- The text that a percent-encoded text stands for, if its bytes are UTF-8. -/
def decode (t : Text) : Except Utf8.Fault Text := Utf8.decode (decodeBytes (Utf8.encode t))

/-- A character that may stand for itself does. -/
theorem encode_eq_self {reserved : Char → Bool} {t : Text}
    (h : ∀ c ∈ t, isForeign c = false ∧ reserved c = false) : encode reserved t = t := by
  induction t with
  | nil => rfl
  | cons c t ih =>
    have hc := h c (by simp)
    have ht := ih fun d hd => h d (by simp [hd])
    simp only [encode, List.flatMap_cons] at ht ⊢
    simp [encodeChar, hc.1, hc.2, ht]

end Rtsp.Text.Percent
