import Rtsp.Text.Blank
import Rtsp.Text.Number

/-!
The value of a Transport header: a profile, which is RTP over UDP or over the control connection,
and parameters behind semicolons. Of several transports behind commas the first is read. A
parameter that comes twice has its last value, and one that cannot be read has none.
-/
namespace Rtsp

structure Transport where
  tcp : Bool
  clientPort : Option (UInt16 × UInt16)
  serverPort : Option (UInt16 × UInt16)
  interleaved : Option (UInt8 × UInt8)
  ssrc : Option UInt32
  source : Option Text
  deriving DecidableEq, Repr

namespace Transport

def empty : Transport := ⟨false, none, none, none, none, none⟩

/-- What a client asks for that receives at two ports of its own. -/
def ofPorts (rtp rtcp : UInt16) : Transport := { empty with clientPort := some (rtp, rtcp) }

/-- What a client asks for that receives on the control connection. -/
def ofChannels (rtp rtcp : UInt8) : Transport :=
  { empty with tcp := true, interleaved := some (rtp, rtcp) }

/-- Two numbers of at most `width` binary digits; one alone stands for itself and the next. -/
def pair? (width : Nat) (t : Text) : Option (Nat × Nat) :=
  let t := Text.trim t
  match Text.cut? '-' t with
  | some (a, b) => do
    let a ← Text.natural? width (Text.trim a)
    let b ← Text.natural? width (Text.trim b)
    some (a, b)
  | none => do
    let a ← Text.natural? width t
    if a + 1 < Text.bound width then some (a, a + 1) else none

def ports? (t : Text) : Option (UInt16 × UInt16) :=
  (pair? 16 t).map fun p => (UInt16.ofNat p.1, UInt16.ofNat p.2)

def channels? (t : Text) : Option (UInt8 × UInt8) :=
  (pair? 8 t).map fun p => (UInt8.ofNat p.1, UInt8.ofNat p.2)

def ssrc? (t : Text) : Option UInt32 := (Text.hexNatural? 32 (Text.trim t)).map UInt32.ofNat

/-- A parameter overwrites what an earlier one of its name has set. -/
def put (th : Transport) (parameter : Text) : Transport :=
  let (name, value) := Text.cut '=' parameter
  let name := Text.lower name
  if name = "client_port".toList then { th with clientPort := ports? value }
  else if name = "server_port".toList then { th with serverPort := ports? value }
  else if name = "interleaved".toList then { th with interleaved := channels? value }
  else if name = "ssrc".toList then { th with ssrc := ssrc? value }
  else if name = "source".toList then { th with source := some (Text.trim value) }
  else th

def parse? (t : Text) : Option Transport :=
  match ((Text.cut ',' t).1.splitOn ';').map Text.trim with
  | [] => none
  | profile :: parameters =>
    let profile := Text.upper profile
    if "RTP/".toList.isPrefixOf profile then
      some (parameters.foldl put { empty with tcp := "/TCP".toList.isSuffixOf profile })
    else none

def profile (tcp : Bool) : Text :=
  if tcp then "RTP/AVP/TCP;unicast".toList else "RTP/AVP;unicast".toList

/-- A parameter with its semicolon; nothing if it has no value. -/
def parameter {α : Type} (name : String) (write : α → Text) : Option α → Text
  | none => []
  | some value => ';' :: name.toList ++ '=' :: write value

def pairText (a b : Nat) : Text := Text.decimal a ++ '-' :: Text.decimal b

/-- The header value. The source is the server's to tell, and is not written. -/
def text (th : Transport) : Text :=
  profile th.tcp ++
    parameter "client_port" (fun p => pairText p.1.toNat p.2.toNat) th.clientPort ++
    parameter "server_port" (fun p => pairText p.1.toNat p.2.toNat) th.serverPort ++
    parameter "interleaved" (fun p => pairText p.1.toNat p.2.toNat) th.interleaved ++
    parameter "ssrc" (fun n => Text.padded 8 (Text.upper (Text.hexadecimal n.toNat))) th.ssrc

end Transport

end Rtsp
