import Rtsp.Duration
import Rtsp.Media.Medium
import Rtsp.Packet

/-!
What a client and a server have agreed on: a name for the session, how long it lives without a
sign of life, and for each medium how its packets travel.
-/
namespace Rtsp

namespace Session

/-- The lower transport of all media of a session. -/
inductive Mode
  | udp
  | tcp
  deriving DecidableEq, Repr

def Mode.name : Mode → Text
  | .udp => "udp".toList
  | .tcp => "tcp".toList

/-- How the packets of one medium travel: between pairs of ports, of which the server's may be
unknown, or on two channels of the control connection. -/
inductive Carrier
  | udp (client : UInt16 × UInt16) (server : Option (UInt16 × UInt16))
  | tcp (rtp rtcp : UInt8)
  deriving DecidableEq, Repr

def Carrier.mode : Carrier → Mode
  | .udp _ _ => .udp
  | .tcp _ _ => .tcp

/-- A medium that is set up. -/
structure Track where
  medium : Media.Medium
  control : Text
  carrier : Carrier
  ssrc : Option UInt32
  deriving DecidableEq, Repr

/-- The kind of packet that a channel carries for a track. -/
def Track.kind? (t : Track) (channel : UInt8) : Option Packet.Kind :=
  match t.carrier with
  | .tcp rtp rtcp => if rtp = channel then some .rtp else if rtcp = channel then some .rtcp else none
  | .udp _ _ => none

/-- The first of some tracks, numbered from `index`, that a channel belongs to. -/
def routeFrom (channel : UInt8) : Nat → List Track → Option (Nat × Packet.Kind)
  | _, [] => none
  | index, t :: rest =>
    match t.kind? channel with
    | some kind => some (index, kind)
    | none => routeFrom channel (index + 1) rest

/-- The timeout of a session whose server tells none. -/
def defaultTimeout : Duration := Duration.ofSeconds 60

/-- The name of a session and its timeout, if a header value tells a positive one. -/
def parseHeader (value : Text) : Text × Option Duration :=
  let parts := value.splitOn ';'
  let settings := parts.tail.filterMap fun p => Text.cut? '=' (Text.trim p)
  let timeout := (settings.find? fun s => Text.sameName (Text.trim s.1) "timeout".toList).bind
    fun s => Text.natural? 64 (Text.trim s.2)
  (Text.trim (parts.headD []),
    timeout.bind fun n => if 0 < n then some (Duration.ofSeconds n) else none)

end Session

structure Session where
  id : Text
  timeout : Duration
  base : Text
  tracks : List Session.Track
  range : Option Text
  deriving DecidableEq, Repr

namespace Session

/-- Where the packets on a channel belong. -/
def route? (s : Session) (channel : UInt8) : Option (Nat × Packet.Kind) :=
  routeFrom channel 0 s.tracks

/-- The mode of the first medium; a session without media counts as UDP. -/
def mode (s : Session) : Mode :=
  match s.tracks with
  | [] => .udp
  | t :: _ => t.carrier.mode

/-- Half the timeout, but no less than a second. -/
def keepalive (s : Session) : Duration := s.timeout.half.longer (Duration.ofSeconds 1)

end Session

end Rtsp
