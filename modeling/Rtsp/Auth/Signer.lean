import Rtsp.Auth.Challenge
import Rtsp.Auth.Entropy
import Rtsp.Credentials
import Rtsp.Digest.Md5
import Rtsp.Digest.Sha256
import Rtsp.Text.Base64
import Rtsp.Text.Hex

/-!
The answer to a challenge: a value for the Authorization header of each request. Against a nonce
that counts its uses, the signer numbers them.
-/
namespace Rtsp.Auth

/-- The digest of a text, in lower-case hexadecimal digits. -/
def Algorithm.digest (a : Algorithm) (t : Text) : Text :=
  match a with
  | .md5 => Text.Hex.encode (Digest.Md5.digest (Text.Utf8.encode t))
  | .sha256 => Text.Hex.encode (Digest.Sha256.digest (Text.Utf8.encode t))

structure Signer where
  credentials : Credentials
  challenge : Challenge
  /-- How often the nonce was used, counted without a bound here; a count that is kept in 32 bits is
  the same as long as there were fewer than `2 ^ 32` uses. -/
  uses : Nat
  deriving DecidableEq, Repr

namespace Signer

def make (credentials : Credentials) (challenge : Challenge) : Signer := ⟨credentials, challenge, 0⟩

/-- Texts with colons between them. -/
def join (ts : List Text) : Text := [':'].intercalate ts

def quote (name : String) (value : Text) : Text := name.toList ++ '=' :: '"' :: value ++ ['"']

def countText (n : Nat) : Text := Text.padded 8 (Text.hexadecimal n)

/-- What proves that the client knows the password; `count` is the number of the use and the
client's own nonce, where uses are counted. -/
def proof (c : Credentials) (terms : DigestTerms) (count : Option (Nat × Text))
    (method uri : Text) : Text :=
  let digest := (terms.algorithm.getD .md5).digest
  let secret := digest (join [c.username, terms.realm, c.secret])
  let request := digest (join [method, uri])
  match count with
  | some (n, cnonce) =>
    digest (join [secret, terms.nonce, countText n, cnonce, "auth".toList, request])
  | none => digest (join [secret, terms.nonce, request])

def countFields : Option (Nat × Text) → List Text
  | some (n, cnonce) =>
    ["qop=auth".toList, "nc=".toList ++ countText n, quote "cnonce" cnonce]
  | none => []

def digestFields (c : Credentials) (terms : DigestTerms) (count : Option (Nat × Text))
    (method uri : Text) : List Text :=
  [quote "username" c.username, quote "realm" terms.realm, quote "nonce" terms.nonce,
    quote "uri" uri, quote "response" (proof c terms count method uri)] ++
    countFields count ++
    (terms.algorithm.map fun a => "algorithm=".toList ++ a.name).toList ++
    (terms.ticket.map (quote "opaque")).toList

/-- The value for one request, signed with the client's own nonce. -/
def signWith (s : Signer) (cnonce method uri : Text) : Text × Signer :=
  match s.challenge with
  | .basic _ =>
    ("Basic ".toList ++ Text.Base64.encode
      (Text.Utf8.encode (join [s.credentials.username, s.credentials.secret])), s)
  | .digest terms =>
    let uses := if terms.counted then s.uses + 1 else s.uses
    let count := if terms.counted then some (uses, cnonce) else none
    ("Digest ".toList ++
      [',', ' '].intercalate (digestFields s.credentials terms count method uri),
      { s with uses := uses })

/-- The value for one request; a number is drawn for it, needed or not. -/
def sign (s : Signer) (e : Entropy) (method uri : Text) : Text × Signer × Entropy :=
  let (cnonce, e) := e.draw
  let (value, s) := s.signWith cnonce method uri
  (value, s, e)

end Signer

end Rtsp.Auth
