import Rtsp.Credentials
import Rtsp.Fault
import Rtsp.Url.Web

/-!
Where a stream is: an address of the scheme `rtsp` or `rtsps`, and the credentials written in it.
Requests name the stream without them. The credentials are read from the text as it was given,
since there an empty password can be told from none.
-/
namespace Rtsp

namespace Locator

inductive Scheme
  | rtsp
  | rtsps
  deriving DecidableEq, Repr

def Scheme.defaultPort : Scheme → UInt16
  | .rtsp => 554
  | .rtsps => 322

/-- Why a text leads to no stream. -/
inductive Defect
  | url (cause : Url.Fault)
  | scheme (name : Text)
  | missingHost
  | encoding (cause : Text.Utf8.Fault)
  deriving DecidableEq, Repr

def Defect.message : Defect → Text
  | .url cause => cause.message
  | .scheme name => "unsupported scheme '".toList ++ name ++ ['\'']
  | .missingHost => "missing host".toList
  | .encoding cause => "bad percent-encoding: ".toList ++ cause.message

def schemeOf (name : Text) : Except Defect Scheme :=
  if name = "rtsp".toList then .ok .rtsp
  else if name = "rtsps".toList then .ok .rtsps
  else .error (.scheme name)

/-- What follows the first colon with two slashes. -/
def afterScheme? : Text → Option Text
  | ':' :: '/' :: '/' :: rest => some rest
  | _ :: rest => afterScheme? rest
  | [] => none

/-- What stands before the last at sign of the authority. -/
def user? (t : Text) : Option Text := do
  let rest ← afterScheme? t
  (Url.cutLast '@' (rest.takeWhile (!Url.isAuthorityEnd ·))).1

def decode (t : Text) : Except Defect Text :=
  match Text.Percent.decode t with
  | .ok t => .ok t
  | .error cause => .error (.encoding cause)

/-- A user name, and a password if there is a colon. -/
def credentialsOf (user : Text) : Except Defect Credentials :=
  match Text.cut? ':' user with
  | some (name, password) => do
    let password ← decode password
    let name ← decode name
    pure ⟨name, some password⟩
  | none => (decode user).map fun name => ⟨name, none⟩

def credentials? (t : Text) : Except Defect (Option Credentials) :=
  match user? t with
  | some user => (credentialsOf user).map some
  | none => .ok none

end Locator

structure Locator where
  scheme : Locator.Scheme
  url : Url
  host : Text
  credentials : Option Credentials
  deriving DecidableEq, Repr

namespace Locator

def read (t : Text) : Except Defect Locator :=
  match Url.parse t with
  | .error cause => .error (.url cause)
  | .ok url => do
    let scheme ← schemeOf url.scheme
    let host ← match url.host with
      | some h => .ok h.text
      | none => .error .missingHost
    let credentials ← credentials? t
    pure ⟨scheme, url.withoutUser, host, credentials⟩

def parse (t : Text) : Except Fault Locator :=
  match read t with
  | .ok l => .ok l
  | .error defect => .error (.address defect.message)

def isSecure (l : Locator) : Bool := l.scheme == .rtsps

def port (l : Locator) : UInt16 := l.url.port.getD l.scheme.defaultPort

/-- Path and query. -/
def path (l : Locator) : Text := l.url.target

/-- The address that requests name: without credentials and without a fragment. -/
def uri (l : Locator) : Text := l.url.text

/-- Host and port, as they are dialled. -/
def address (l : Locator) : Text := l.host ++ ':' :: Text.decimal l.port.toNat

/-- The host without the brackets of an address. -/
def serverName (l : Locator) : Text :=
  ((l.host.dropWhile (· == '[')).reverse.dropWhile (· == ']')).reverse

end Locator

end Rtsp
