import Rtsp.Header

/-!
A request: a method, an address and a version in the start line, a header, and perhaps a body.
-/
namespace Rtsp

structure Request where
  method : Text
  uri : Text
  version : Text
  header : Header
  body : Option Text
  deriving DecidableEq, Repr

namespace Request

def make (method : Method) (uri : Text) : Request :=
  ⟨method.name, uri, "RTSP/1.0".toList, [], none⟩

def add (r : Request) (name value : Text) : Request := { r with header := r.header.add name value }

def put (r : Request) (name value : Text) : Request := { r with header := r.header.put name value }

def value? (r : Request) (name : Text) : Option Text := r.header.value? name

def sequence? (r : Request) : Option Text := r.value? "CSeq".toList

def startLine (r : Request) : Text := r.method ++ ' ' :: r.uri ++ ' ' :: r.version ++ ['\r', '\n']

/-- The request on the wire. -/
def text (r : Request) : Text := r.startLine ++ r.header.withBody r.body

/-- Start line and header; a body is not looked for. -/
def parse (t : Text) : Except ParseFault Request :=
  match Text.lines t with
  | [] => .error .empty
  | start :: lines =>
    match Text.words start with
    | [method, uri, version] =>
      if "RTSP/".toList.isPrefixOf version then
        (Header.ofLines lines).map fun h => ⟨method, uri, version, h, none⟩
      else .error .requestLine
    | _ => .error .requestLine

end Request

end Rtsp
