import Rtsp.Method
import Rtsp.Text.Number

/-!
What can go wrong with a source. A fault is terminal if trying again cannot help: it lies in the
settings, the credentials, the certificate, or in what the server offers. Every other fault ends
one attempt, and the next one may succeed. A fault carries the words that explain it; its kind is
what the bookkeeping between attempts keeps of it.
-/
namespace Rtsp

/-- What was going on when the time ran out. -/
inductive Phase
  | connect
  | read
  | write
  deriving DecidableEq, Repr

def Phase.name : Phase → Text
  | .connect => "connect".toList
  | .read => "read".toList
  | .write => "write".toList

/-- Why bytes of the control stream are no message. -/
inductive ParseFault
  | empty
  | requestLine
  | statusLine
  | header
  | contentLength
  | tooBig
  deriving DecidableEq, Repr

def ParseFault.message : ParseFault → Text
  | .empty => "empty message".toList
  | .requestLine => "invalid request line".toList
  | .statusLine => "invalid status line".toList
  | .header => "invalid header".toList
  | .contentLength => "invalid Content-Length".toList
  | .tooBig => "message too big".toList

inductive Fault
  | address (reason : Text)
  | setting (reason : Text)
  | authentication (reason : Text)
  | certificate (expected : Text)
  | description (reason : Text)
  | setup (control : Text) (code : UInt16) (reason : Text)
  | status (method : Method) (code : UInt16) (reason : Text)
  | connection (reason : Text)
  | timeout (phase : Phase)
  | fallback (reason : Text)
  | parse (cause : ParseFault)
  | cancelled
  | running
  deriving DecidableEq, Repr

namespace Fault

inductive Kind
  | address
  | setting
  | authentication
  | certificate
  | description
  | setup
  | status
  | connection
  | timeout
  | fallback
  | parse
  | cancelled
  | running
  deriving DecidableEq, Repr

def Kind.isTerminal : Kind → Bool
  | .address | .setting | .authentication | .certificate | .description | .setup => true
  | .status | .connection | .timeout | .fallback | .parse | .cancelled | .running => false

def kind : Fault → Kind
  | .address _ => .address
  | .setting _ => .setting
  | .authentication _ => .authentication
  | .certificate _ => .certificate
  | .description _ => .description
  | .setup _ _ _ => .setup
  | .status _ _ _ => .status
  | .connection _ => .connection
  | .timeout _ => .timeout
  | .fallback _ => .fallback
  | .parse _ => .parse
  | .cancelled => .cancelled
  | .running => .running

def isTerminal (f : Fault) : Bool := f.kind.isTerminal

def message : Fault → Text
  | .address reason => "invalid source URL: ".toList ++ reason
  | .setting reason => "invalid configuration: ".toList ++ reason
  | .authentication reason => "authentication failed: ".toList ++ reason
  | .certificate expected => "server certificate fingerprint does not match ".toList ++ expected
  | .description reason => "malformed session description: ".toList ++ reason
  | .setup control code reason =>
    "SETUP rejected for ".toList ++ control ++ ": ".toList ++ Text.decimal code.toNat ++
      ' ' :: reason
  | .status method code reason =>
    method.name ++ " failed: ".toList ++ Text.decimal code.toNat ++ ' ' :: reason
  | .connection reason => "connection lost: ".toList ++ reason
  | .timeout phase => phase.name ++ " timed out".toList
  | .fallback reason => "UDP transport unusable, falling back to TCP: ".toList ++ reason
  | .parse cause => "RTSP parse error: ".toList ++ cause.message
  | .cancelled => "cancelled".toList
  | .running => "source already running".toList

/-- Trouble with a socket: it made no progress in time, or it failed for a reason of its own. -/
inductive Trouble
  | stalled
  | broken (reason : Text)
  deriving DecidableEq, Repr

def ofRead : Trouble → Fault
  | .stalled => .timeout .read
  | .broken reason => .connection reason

def ofWrite : Trouble → Fault
  | .stalled => .timeout .write
  | .broken reason => .connection reason

end Fault

end Rtsp
