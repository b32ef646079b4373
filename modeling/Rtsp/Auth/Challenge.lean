import Rtsp.Auth.Parameter
import Rtsp.Response

/-!
What a server asks of a request that it refuses: the credentials as they are, or a digest of them
that a nonce makes new. A digest is stronger than the credentials themselves, and SHA-256 stronger
than MD5.
-/
namespace Rtsp.Auth

inductive Algorithm
  | md5
  | sha256
  deriving DecidableEq, Repr

namespace Algorithm

def name : Algorithm → Text
  | .md5 => "MD5".toList
  | .sha256 => "SHA-256".toList

def ofName? (name : Text) : Option Algorithm :=
  let name := Text.upper name
  [Algorithm.md5, .sha256].find? fun a => a.name == name

end Algorithm

/-- What a digest is made of on the server's side. The ticket is handed back as it is; without an
algorithm MD5 is meant. -/
structure DigestTerms where
  realm : Text
  nonce : Text
  ticket : Option Text
  algorithm : Option Algorithm
  counted : Bool
  stale : Bool
  deriving DecidableEq, Repr

inductive Challenge
  | basic (realm : Text)
  | digest (terms : DigestTerms)
  deriving DecidableEq, Repr

namespace Challenge

/-- A list of protections that has plain authentication in it. -/
def offersAuth (t : Text) : Bool :=
  (t.splitOn ',').any fun q => Text.sameName (Text.trim q) "auth".toList

/-- An algorithm that is not known makes the whole challenge useless. -/
def algorithm? : Option Text → Option (Option Algorithm)
  | none => some none
  | some name => (Algorithm.ofName? name).map some

def digestOf? (ps : List Parameter) : Option Challenge := do
  let algorithm ← algorithm? (Parameter.find? ps "algorithm")
  let realm ← Parameter.find? ps "realm"
  let nonce ← Parameter.find? ps "nonce"
  some (.digest
    { realm := realm
      nonce := nonce
      ticket := Parameter.find? ps "opaque"
      algorithm := algorithm
      counted := (Parameter.find? ps "qop").any offersAuth
      stale := (Parameter.find? ps "stale").any fun t => Text.sameName t "true".toList })

/-- A header value read as one challenge. -/
def parse? (t : Text) : Option Challenge :=
  let (scheme, rest) := Text.cut ' ' (Text.trim t)
  let ps := Parameter.list rest
  if Text.sameName scheme "basic".toList then
    some (.basic ((Parameter.find? ps "realm").getD []))
  else if Text.sameName scheme "digest".toList then digestOf? ps
  else none

def strength : Challenge → Nat
  | .basic _ => 0
  | .digest terms => if terms.algorithm = some .sha256 then 2 else 1

/-- Of two challenges the stronger one, and the later of equals. -/
def stronger (best : Option Challenge) (c : Challenge) : Option Challenge :=
  match best with
  | none => some c
  | some b => if b.strength ≤ c.strength then some c else some b

def strongest (cs : List Challenge) : Option Challenge := cs.foldl stronger none

/-- The challenge to answer of those in a response. -/
def ofResponse? (r : Response) : Option Challenge :=
  strongest ((r.values "WWW-Authenticate".toList).filterMap parse?)

end Challenge

end Rtsp.Auth
