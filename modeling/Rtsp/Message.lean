import Rtsp.Request
import Rtsp.Response

/-!
The units of the control stream: responses, requests, and frames that carry a packet on a channel.
A frame begins with a dollar sign, its channel, and its length in two bytes.
-/
namespace Rtsp

structure Frame where
  channel : UInt8
  payload : Bytes
  deriving DecidableEq, Repr

namespace Frame

/-- The dollar sign. -/
def marker : UInt8 := 0x24

/-- The bytes of a frame, if its length fits into two of them. -/
def bytes? (f : Frame) : Option Bytes :=
  let length := f.payload.length
  if length < 0x10000 then
    some (marker :: f.channel :: (length / 256).toUInt8 :: (length % 256).toUInt8 :: f.payload)
  else none

end Frame

inductive Message
  | response (r : Response)
  | request (r : Request)
  | frame (f : Frame)
  deriving DecidableEq, Repr

/-- The bytes of a unit, if it has any. -/
def Message.bytes? : Message → Option Bytes
  | .response r => some (Text.Utf8.encode r.text)
  | .request r => some (Text.Utf8.encode r.text)
  | .frame f => f.bytes?

end Rtsp
