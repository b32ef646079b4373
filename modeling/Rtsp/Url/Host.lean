import Rtsp.Text.Percent
import Rtsp.Url.Ipv6

/-!
The host of a URL: an address in brackets, or any other name without the characters that delimit
the parts of a URL. Letters keep their case, and what is not ASCII is percent-encoded.
-/
namespace Rtsp.Url

/-- Why a text is no URL. -/
inductive Fault
  | relative
  | emptyHost
  | port
  | domainCharacter
  | internationalName
  | ipv4
  | ipv6
  deriving DecidableEq, Repr

def Fault.message : Fault → Text
  | .relative => "relative URL without a base".toList
  | .emptyHost => "empty host".toList
  | .port => "invalid port number".toList
  | .domainCharacter => "invalid domain character".toList
  | .internationalName => "invalid international domain name".toList
  | .ipv4 => "invalid IPv4 address".toList
  | .ipv6 => "invalid IPv6 address".toList

inductive Host
  | name (t : Text)
  | address (a : Ipv6)
  deriving DecidableEq, Repr

namespace Host

/-- Characters that no name has. -/
def isForbidden (c : Char) : Bool := "\x00\t\n\r #/:<>?@[\\]^|".toList.contains c

/-- An address between brackets. -/
def address? (t : Text) : Except Fault Ipv6 :=
  match if t.getLast? = some ']' then Ipv6.parse? (t.drop 1).dropLast else none with
  | some a => .ok a
  | none => .error .ipv6

def parse (t : Text) : Except Fault Host :=
  if t.head? = some '[' then (address? t).map .address
  else if t.any isForbidden then .error .domainCharacter
  else .ok (.name (Text.Percent.encode (fun _ => false) t))

def text : Host → Text
  | .name t => t
  | .address a => '[' :: a.text ++ [']']

end Host

end Rtsp.Url
