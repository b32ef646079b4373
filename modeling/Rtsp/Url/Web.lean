import Rtsp.Domain.Name
import Rtsp.Url.Parser

/-!
URLs of the web. They lead to no stream, and only whether they are well formed counts here: their
host must be a domain or an address, and slashes may be backslashes.
-/
namespace Rtsp.Url

namespace Web

def schemes : List Text :=
  ["http".toList, "https".toList, "ws".toList, "wss".toList, "ftp".toList]

def isSlash (c : Char) : Bool := c == '/' || c == '\\'

def isEnd (c : Char) : Bool := isAuthorityEnd c || c == '\\'

/-- A number of an address: decimal, octal behind a zero, hexadecimal behind `0x`. A number that
does not fit into 32 bits has no value. -/
def number? (t : Text) : Option (Option Nat) :=
  let bounded := fun n : Nat => if n < Text.bound 32 then some n else none
  match t with
  | [] => none
  | '0' :: 'x' :: rest | '0' :: 'X' :: rest => (Text.hexValue? 0 rest).map bounded
  | '0' :: c :: rest =>
    if (c :: rest).all fun d => d.isDigit && d < '8' then
      some (bounded (Nat.ofDigitChars 8 (c :: rest) 0))
    else none
  | t => if Text.isDecimal t then some (bounded (Nat.ofDigitChars 10 t 0)) else none

/-- The labels of a domain, without an empty one at its end. -/
def labels (t : Text) : List Text :=
  let all := t.splitOn '.'
  if all.getLast? = some [] then all.dropLast else all

/-- A domain whose last label is a number is meant to be an address. -/
def endsInNumber (t : Text) : Bool :=
  match (labels t).getLast? with
  | some last => Text.isDecimal last || (number? last).isSome
  | none => false

/-- At most four numbers, each but the last below 256, the last filling the bytes that remain. -/
def isAddress (t : Text) : Bool :=
  match (labels t).mapM number? with
  | some numbers =>
    match numbers.mapM id with
    | some values =>
      decide (values.length ≤ 4) && values.dropLast.all (· < 256) &&
        (values.getLast?.any (· < Text.bound (8 * (5 - values.length))))
    | none => false
  | none => false

def checkHost (t : Text) : Except Fault Unit :=
  if t.head? = some '[' then (Host.address? t).map fun _ => ()
  else
    match Domain.name? (Text.Utf8.lossy (Text.Percent.decodeBytes (Text.Utf8.encode t))) with
    | none => .error .internationalName
    | some [] => .error .emptyHost
    | some name => if endsInNumber name && !isAddress name then .error .ipv4 else .ok ()

def check (rest : Text) : Except Fault Unit := do
  let t := rest.dropWhile isSlash
  let after := t.dropWhile (!isEnd ·)
  let (user, site) := cutLast '@' (t.takeWhile (!isEnd ·))
  if user = some [] ∧ site = [] ∧ after ≠ [] then throw .emptyHost
  let length := hostLength false site
  if length = 0 then throw .emptyHost
  checkHost (site.take length)
  let _ ← readPort (site.drop length)

def isDrive : Text → Bool
  | [letter, c] => letter.isAlpha && (c == ':' || c == '|')
  | _ => false

/-- A file has a host only behind two slashes, and it may be empty. -/
def checkFile (rest : Text) : Except Fault Unit :=
  match rest with
  | a :: b :: t =>
    let host := t.takeWhile (!isEnd ·)
    if isSlash a ∧ isSlash b ∧ host ≠ [] ∧ isDrive host = false then checkHost host else .ok ()
  | _ => .ok ()

end Web

/-- A text as a URL. One of the web is only checked, and names no host. -/
def parse (t : Text) : Except Fault Url :=
  match scheme? (clean t) with
  | none => .error .relative
  | some (scheme, rest) =>
    if Web.schemes.contains scheme then
      (Web.check rest).map fun _ => ⟨scheme, [], none, none, none, [], none⟩
    else if scheme = "file".toList then
      (Web.checkFile rest).map fun _ => ⟨scheme, [], none, none, none, [], none⟩
    else parseRest scheme rest

end Rtsp.Url
