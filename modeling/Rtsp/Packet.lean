import Rtsp.Rtp

/-!
A received packet of one medium, passed on as it came.
-/
namespace Rtsp

namespace Packet

inductive Kind
  | rtp
  | rtcp
  deriving DecidableEq, Repr

def Kind.name : Kind → Text
  | .rtp => "rtp".toList
  | .rtcp => "rtcp".toList

end Packet

structure Packet where
  medium : Nat
  kind : Packet.Kind
  payload : Bytes
  deriving DecidableEq, Repr

/-- The packet read as RTP; control packets are none. -/
def Packet.rtp? (p : Packet) : Option Rtp :=
  match p.kind with
  | .rtp => Rtp.parse? p.payload
  | .rtcp => none

end Rtsp
