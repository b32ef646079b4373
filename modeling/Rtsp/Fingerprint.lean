import Rtsp.Digest.Sha256
import Rtsp.Text.Blank
import Rtsp.Text.Hex

/-!
A certificate is known by the SHA-256 of its bytes in upper-case hexadecimal digits. A pin is a
fingerprint given beforehand: in it neither colons nor blanks count, nor letter case.
-/
namespace Rtsp.Fingerprint

def ofCertificate (certificate : Bytes) : Text :=
  Text.Hex.encodeUpper (Digest.Sha256.digest certificate)

/-- The characters of a pin that count. -/
def strip (t : Text) : Text := t.filter fun c => c != ':' && !Text.isBlank c

/-- The pin as a fingerprint, if it has as many digits. -/
def parse? (t : Text) : Option Text :=
  let digits := Text.upper (strip t)
  if digits.length = 64 ∧ digits.all Text.isHexDigit then some digits else none

/-- A pinned server is who it should be. -/
def accepts (pin : Text) (certificate : Bytes) : Bool := ofCertificate certificate == pin

end Rtsp.Fingerprint
