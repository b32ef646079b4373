import Rtsp.Text.Number

/-!
Bytes as pairs of hexadecimal digits, high half first.
-/
namespace Rtsp.Text.Hex

def encodeByte (b : UInt8) : Text :=
  [Nat.digitChar (b.toNat / 16), Nat.digitChar (b.toNat % 16)]

/-- In lower case. -/
def encode (bytes : Bytes) : Text := bytes.flatMap encodeByte

def encodeUpper (bytes : Bytes) : Text := upper (encode bytes)

theorem length_encode (bytes : Bytes) : (encode bytes).length = 2 * bytes.length := by
  induction bytes with
  | nil => rfl
  | cons b bytes ih =>
    have : encode (b :: bytes) = encodeByte b ++ encode bytes := by simp [encode]
    simp [this, encodeByte, ih]
    omega

end Rtsp.Text.Hex
