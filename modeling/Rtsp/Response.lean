import Rtsp.Header

/-!
A response: a status and its reason in the start line, a header, and perhaps a body.
-/
namespace Rtsp

structure Response where
  status : UInt16
  reason : Text
  header : Header
  body : Option Text
  deriving DecidableEq, Repr

namespace Response

def make (status : UInt16) (reason : Text) : Response := ⟨status, reason, [], none⟩

def ok : Response := make 200 "OK".toList

def add (r : Response) (name value : Text) : Response :=
  { r with header := r.header.add name value }

/-- A refusal that challenges the client to sign its request. -/
def unauthorized (challenge : Text) : Response :=
  (make 401 "Unauthorized".toList).add "WWW-Authenticate".toList challenge

def value? (r : Response) (name : Text) : Option Text := r.header.value? name

def values (r : Response) (name : Text) : List Text := r.header.values name

def sequence? (r : Response) : Option Text := r.value? "CSeq".toList

def isSuccess (r : Response) : Bool := decide (200 ≤ r.status) && decide (r.status < 300)

def startLine (r : Response) : Text :=
  "RTSP/1.0 ".toList ++ Text.decimal r.status.toNat ++ ' ' :: r.reason ++ ['\r', '\n']

/-- The response on the wire. -/
def text (r : Response) : Text := r.startLine ++ r.header.withBody r.body

/-- The status and the reason of a start line. -/
def status? (line : Text) : Option (UInt16 × Text) :=
  match Text.parts ' ' 3 line with
  | version :: code :: more =>
    if "RTSP/".toList.isPrefixOf version then
      (Text.uint16? (Text.trim code)).map fun n => (n, Text.trim (more.headD []))
    else none
  | _ => none

/-- Start line and header; a body is not looked for. -/
def parse (t : Text) : Except ParseFault Response :=
  match Text.lines t with
  | [] => .error .empty
  | start :: lines =>
    match status? start with
    | none => .error .statusLine
    | some (status, reason) =>
      (Header.ofLines lines).map fun h => ⟨status, reason, h, none⟩

end Response

end Rtsp
