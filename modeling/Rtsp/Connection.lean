import Rtsp.Auth.Signer
import Rtsp.Cancellation
import Rtsp.Decoder
import Rtsp.Dialogue

/-!
The client's end of a control connection. It numbers and signs the requests that it sends, answers
those of the server, and finds the response to its own among whatever else arrives. Frames that
arrive while it waits for a response are kept, as many as there is room for.

What the network does is given beforehand: the outcome of each read, and of each write that does
not simply succeed. When nothing is left of it the server stays silent for good.
-/
namespace Rtsp

namespace Connection

/-- What a read brings: bytes; nothing within one poll, after which the time to wait may be over;
the end of the server's side; a failure; or a cancellation while it blocks. -/
inductive Arrival
  | data (bytes : Bytes)
  | silence (late : Bool)
  | closed
  | failed (t : Fault.Trouble)
  | cancelled
  deriving DecidableEq, Repr

/-- How many frames are kept that arrive before they are wanted. -/
def earlyLimit : Nat := 256

def userAgent : Text := "rtsp-source/0.1".toList

end Connection

structure Connection where
  decoder : Decoder
  arrivals : List Connection.Arrival
  writes : List (Option Fault.Trouble)
  sent : List Message
  /-- The number of the last request. It is counted without a bound here; a count that is kept in 32
  bits is the same as long as fewer than `2 ^ 32` requests were sent on the connection. -/
  sequence : Nat
  sessionId : Option Text
  signer : Option Auth.Signer
  early : List Frame
  cancellation : Cancellation
  entropy : Auth.Entropy

namespace Connection

def start (arrivals : List Arrival) (writes : List (Option Fault.Trouble)) (e : Auth.Entropy) :
    Connection :=
  ⟨.empty, arrivals, writes, [], 0, none, none, [], .none, e⟩

/-- As much as one read takes. -/
def readLimit : Nat := 64 * 1024

/-- Bytes that come in while nobody reads join those before them; a read takes what there is, up to
its limit. -/
def gather : List Arrival → Bytes → List Arrival
  | [], bytes => if bytes = [] then [] else [.data bytes]
  | [.data earlier], bytes =>
    let all := earlier ++ bytes
    if all.length ≤ readLimit then [.data all]
    else [.data (all.take readLimit), .data (all.drop readLimit)]
  | arrival :: rest, bytes => arrival :: gather rest bytes

def arrive (c : Connection) (bytes : Bytes) : Connection :=
  { c with arrivals := gather c.arrivals bytes }

/-- From now on requests name the session and are signed. -/
def attach (c : Connection) (sessionId : Text) (signer : Option Auth.Signer) : Connection :=
  { c with sessionId := some sessionId, signer := signer }

def cancel (c : Connection) : Connection := { c with cancellation := c.cancellation.cancel }

/-- The frames that were kept, which are kept no longer. -/
def takeEarly (c : Connection) : List Frame × Connection := (c.early, { c with early := [] })

/-- A unit is written, if the next write succeeds. -/
def write (c : Connection) (m : Message) : Except Halt Unit × Connection :=
  let outcome := c.writes.headD none
  let c := { c with writes := c.writes.tail }
  match outcome with
  | none => (.ok (), { c with sent := c.sent ++ [m] })
  | some trouble => (.error (.fault (c.cancellation.filter (Fault.ofWrite trouble))), c)

/-- The request with its number and the client's name in place of whatever it had. -/
def stamp (c : Connection) (r : Request) : Request :=
  (r.put "CSeq".toList (Text.decimal c.sequence)).put "User-Agent".toList userAgent

/-- The request with the name of the session, unless it has one. -/
def named (c : Connection) (r : Request) : Request :=
  match c.sessionId, r.value? "Session".toList with
  | some id, none => r.add "Session".toList id
  | _, _ => r

/-- The request with a signature, unless it has one or none can be made. -/
def signed (c : Connection) (r : Request) : Request × Connection :=
  match r.value? "Authorization".toList, c.signer with
  | none, some signer =>
    let (value, signer, entropy) := signer.sign c.entropy r.method r.uri
    (r.add "Authorization".toList value, { c with signer := some signer, entropy := entropy })
  | _, _ => (r, c)

/-- A request is sent under the next number. -/
def sendRequest (c : Connection) (r : Request) : Except Halt Nat × Connection :=
  let c := { c with sequence := c.sequence + 1 }
  let (r, c) := c.signed (c.named (c.stamp r))
  match c.write (.request r) with
  | (.ok (), c) => (.ok c.sequence, c)
  | (.error h, c) => (.error h, c)

/-- What a request of the server is told: that all is well. -/
def answerTo (c : Connection) (r : Request) : Response :=
  let response := Response.ok
  let response := match r.sequence? with
    | some n => response.add "CSeq".toList n
    | none => response
  match c.sessionId with
  | some id => response.add "Session".toList id
  | none => response

def answer (c : Connection) (r : Request) : Except Halt Unit × Connection :=
  c.write (.response (c.answerTo r))

def sendFrame (c : Connection) (f : Frame) : Except Halt Unit × Connection :=
  match f.bytes? with
  | some _ => c.write (.frame f)
  | none => (.error (.fault (.connection "interleaved frame too large".toList)), c)

/-- What a poll found: a unit, or that nothing came and whether the time is over. -/
inductive Poll
  | unit (m : Message)
  | nothing (late : Bool)
  deriving DecidableEq, Repr

/-- A look at what is pending. -/
def decode (c : Connection) : Except Halt Poll × Connection :=
  let (outcome, decoder) := c.decoder.decode
  let c := { c with decoder := decoder }
  match outcome with
  | .message m => (.ok (.unit m), c)
  | .more => (.ok (.nothing false), c)
  | .refused cause => (.error (.fault (.parse cause)), c)
  | .overflow => (.error .overflow, c)

def fault (c : Connection) (f : Fault) : Except Halt Poll × Connection :=
  (.error (.fault (c.cancellation.filter f)), c)

/-- One read. -/
def receive (c : Connection) : Except Halt Poll × Connection :=
  match c.arrivals with
  | [] => (.ok (.nothing true), c)
  | arrival :: rest =>
    let c := { c with arrivals := rest }
    match arrival with
    | .data bytes => { c with decoder := c.decoder.push bytes }.decode
    | .silence late => (.ok (.nothing late), c)
    | .closed => c.fault (.connection "connection closed by server".toList)
    | .failed .stalled => (.ok (.nothing false), c)
    | .failed (.broken reason) => c.fault (.connection reason)
    | .cancelled => c.cancel.fault .cancelled

/-- The next unit, for which at most one read is made. -/
def poll (c : Connection) : Except Halt Poll × Connection :=
  match c.decode with
  | (.ok (.nothing _), c) => c.receive
  | found => found

/-- A frame is kept if there is room. -/
def keep (c : Connection) (f : Frame) : Connection :=
  if c.early.length < earlyLimit then { c with early := c.early ++ [f] } else c

/-- The response is the one to request `n`, or does not say which it is for. -/
def isFor (n : Nat) (r : Response) : Bool :=
  match r.sequence? with
  | some t => t == Text.decimal n
  | none => true

def readUpTo (n : Nat) : Nat → Connection → Except Halt Response × Connection
  | 0, c => (.error (.fault (.timeout .read)), c)
  | fuel + 1, c =>
    if c.cancellation.requested then (.error (.fault .cancelled), c)
    else
      match c.poll with
      | (.error h, c) => (.error h, c)
      | (.ok (.unit (.response r)), c) => if isFor n r then (.ok r, c) else readUpTo n fuel c
      | (.ok (.unit (.request r)), c) =>
        match c.answer r with
        | (.ok (), c) => readUpTo n fuel c
        | (.error h, c) => (.error h, c)
      | (.ok (.unit (.frame f)), c) => readUpTo n fuel (c.keep f)
      | (.ok (.nothing true), c) => (.error (.fault (.timeout .read)), c)
      | (.ok (.nothing false), c) => readUpTo n fuel c

/-- One for each arrival, and one for each byte that they bring. -/
def weight : List Arrival → Nat
  | [] => 0
  | .data bytes :: rest => bytes.length + 1 + weight rest
  | _ :: rest => 1 + weight rest

/-- More polls than this cannot bring anything new: each takes an arrival, or a unit of one byte at
least. -/
def supply (c : Connection) : Nat :=
  c.decoder.pending.length + weight c.arrivals + 1

/-- The response to request `n`. -/
def readResponse (c : Connection) (n : Nat) : Except Halt Response × Connection :=
  readUpTo n c.supply c

/-- A request and its response. -/
def exchange : Exchange Connection := fun c r =>
  match c.sendRequest r with
  | (.ok n, c) => c.readResponse n
  | (.error h, c) => (.error h, c)

end Connection

end Rtsp
