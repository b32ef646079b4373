import Rtsp.Text.Case
import Rtsp.Url.Host
import Rtsp.Url.Path

/-!
URLs with a scheme that the web does not know: after two slashes an authority, whose host is taken
as it is, then a path and a query. Controls and spaces around the text are dropped, and line breaks
and tabs within it. A fragment is dropped too.
-/
namespace Rtsp

structure Url where
  scheme : Text
  username : Text
  password : Option Text
  host : Option Url.Host
  port : Option UInt16
  path : Text
  query : Option Text
  deriving DecidableEq, Repr

namespace Url

def isTrimmed (c : Char) : Bool := decide (c.toNat ≤ 0x20)

def isDropped (c : Char) : Bool := c == '\t' || c == '\n' || c == '\r'

def clean (t : Text) : Text :=
  ((((t.dropWhile isTrimmed).reverse.dropWhile isTrimmed).reverse).filter (!isDropped ·))

def isSchemePart (c : Char) : Bool := c.isAlphanum || c == '+' || c == '-' || c == '.'

/-- The scheme in lower case, and what follows its colon. -/
def scheme? (t : Text) : Option (Text × Text) :=
  if (t.head?.any Char.isAlpha) then
    match t.dropWhile isSchemePart with
    | ':' :: rest => some (Text.lower (t.takeWhile isSchemePart), rest)
    | _ => none
  else none

def isAuthorityEnd (c : Char) : Bool := c == '/' || c == '?' || c == '#'

def isPathEnd (c : Char) : Bool := c == '?' || c == '#'

/-- ASCII characters of a user name or a password that are percent-encoded. -/
def isUserReserved (c : Char) : Bool :=
  Path.isReserved c || "/:;=@[\\]^|".toList.contains c

/-- ASCII characters of a query that are percent-encoded. -/
def isQueryReserved (c : Char) : Bool := " \"#<>".toList.contains c

/-- What stands before the last `sep`, if there is one, and what stands after it. -/
def cutLast (sep : Char) (t : Text) : Option Text × Text :=
  match Text.cut? sep t.reverse with
  | some (after, before) => (some before.reverse, after.reverse)
  | none => (none, t)

/-- The length of a host: up to the first colon that stands outside brackets. -/
def hostLength (inside : Bool) : Text → Nat
  | [] => 0
  | c :: rest =>
    if c = ':' ∧ inside = false then 0
    else hostLength (if c = '[' then true else if c = ']' then false else inside) rest + 1

/-- A port behind a host, and what follows it. Without digits there is no port. -/
def readPort (t : Text) : Except Fault (Option UInt16 × Text) :=
  match t with
  | ':' :: t =>
    let digits := t.takeWhile Char.isDigit
    let rest := t.dropWhile Char.isDigit
    let n := Nat.ofDigitChars 10 digits 0
    if n < 65536 ∧ (rest = [] ∨ rest.head? = some '\\') then
      .ok (if digits = [] then none else some n.toUInt16, rest)
    else .error .port
  | t => .ok (none, t)

/-- User name and password, percent-encoded; an empty password is none. -/
def userOf (t : Text) : Text × Option Text :=
  let (user, password) := Text.cut ':' t
  let encode := Text.Percent.encode isUserReserved
  (encode user, if password = [] then none else some (encode password))

/-- The host before a port; none if nothing is there and nothing needs one. -/
def hostOf (named : Bool) (host rest : Text) : Except Fault (Option Host) :=
  if host ≠ [] then (Host.parse host).map some
  else if rest.head? = some ':' ∨ named then .error .emptyHost
  else .ok none

/-- The query between the question mark and the fragment. -/
def queryOf (t : Text) : Option Text :=
  match t with
  | '?' :: t => some (Text.Percent.encode isQueryReserved (t.takeWhile (· != '#')))
  | _ => none

/-- What follows the two slashes. -/
def parseAuthority (scheme t : Text) : Except Fault Url := do
  let after := t.dropWhile (!isAuthorityEnd ·)
  let (user, site) := cutLast '@' (t.takeWhile (!isAuthorityEnd ·))
  if user = some [] ∧ site = [] ∧ after ≠ [] then throw .emptyHost
  let (username, password) := userOf (user.getD [])
  let length := hostLength false site
  let rest := site.drop length
  let host ← hostOf (username ≠ [] || password.isSome) (site.take length) rest
  let (port, rest) ← readPort rest
  let after := rest ++ after
  pure
    { scheme := scheme
      username := username
      password := password
      host := host
      port := port
      path := Path.parse (after.takeWhile (!isPathEnd ·))
      query := queryOf (after.dropWhile (!isPathEnd ·)) }

/-- A URL whose scheme is not followed by two slashes names no host; nothing else of it is read. -/
def parseRest (scheme rest : Text) : Except Fault Url :=
  match Text.after? "//".toList rest with
  | some t => parseAuthority scheme t
  | none => .ok ⟨scheme, [], none, none, none, [], none⟩

/-- The user, the password and the at sign behind them. -/
def userText (u : Url) : Text :=
  match u.password with
  | some password => u.username ++ ':' :: password ++ ['@']
  | none => if u.username = [] then [] else u.username ++ ['@']

def portText (u : Url) : Text :=
  match u.port with
  | some n => ':' :: Text.decimal n.toNat
  | none => []

/-- The path with the query behind it. -/
def target (u : Url) : Text :=
  match u.query with
  | some q => u.path ++ '?' :: q
  | none => u.path

def hostText (u : Url) : Text :=
  match u.host with
  | some h => h.text
  | none => []

/-- The URL in writing. -/
def text (u : Url) : Text :=
  u.scheme ++ "://".toList ++ u.userText ++ u.hostText ++ u.portText ++ u.target

def withoutUser (u : Url) : Url := { u with username := [], password := none }

end Url

end Rtsp
