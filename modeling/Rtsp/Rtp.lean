import Rtsp.Text.Basic

/-!
The fixed header of an RTP packet of version 2, and where its payload is. Between the twelve bytes of
the header and the payload stand the contributing sources, four bytes each, and an extension, if
the header announces them; after the payload stands padding whose last byte is its length.
-/
namespace Rtsp

namespace Rtp

/-- What stands in front of a payload. The payload is what is left of the packet without
`headerLength` bytes at the beginning and `paddingLength` bytes at the end. -/
structure Head where
  marker : Bool
  payloadType : UInt8
  sequence : UInt16
  timestamp : UInt32
  ssrc : UInt32
  headerLength : Nat
  paddingLength : Nat
  deriving DecidableEq, Repr

def word16 (a b : UInt8) : UInt16 := (a.toNat * 256 + b.toNat).toUInt16

def word32 (a b c d : UInt8) : UInt32 :=
  (((a.toNat * 256 + b.toNat) * 256 + c.toNat) * 256 + d.toNat).toUInt32

/-- The length of what stands before the payload of a packet whose first byte is `flags`. An
extension tells its length in words behind two bytes of its own. -/
def headerLength? (flags : UInt8) (packet : Bytes) : Option Nat :=
  let sourced := 12 + 4 * (flags.toNat % 16)
  if flags.toNat / 16 % 2 = 1 then
    match packet.drop sourced with
    | _ :: _ :: high :: low :: _ => some (sourced + 4 + 4 * (high.toNat * 256 + low.toNat))
    | _ => none
  else some sourced

/-- The length of the padding, none of which may lie in the header. -/
def paddingLength? (flags : UInt8) (headerLength : Nat) (packet : Bytes) : Option Nat :=
  if flags.toNat / 32 % 2 = 1 then
    match packet.getLast? with
    | some n =>
      if n.toNat = 0 ∨ packet.length < headerLength + n.toNat then none else some n.toNat
    | none => none
  else some 0

namespace Head

def parse? (packet : Bytes) : Option Head :=
  match packet with
  | flags :: kind :: s₁ :: s₀ :: t₃ :: t₂ :: t₁ :: t₀ :: c₃ :: c₂ :: c₁ :: c₀ :: _ =>
    if flags.toNat / 64 = 2 then do
      let headerLength ← headerLength? flags packet
      if packet.length < headerLength then none
      else
        let paddingLength ← paddingLength? flags headerLength packet
        some
          { marker := decide (128 ≤ kind.toNat)
            payloadType := (kind.toNat % 128).toUInt8
            sequence := word16 s₁ s₀
            timestamp := word32 t₃ t₂ t₁ t₀
            ssrc := word32 c₃ c₂ c₁ c₀
            headerLength := headerLength
            paddingLength := paddingLength }
    else none
  | _ => none

/-- The payload of a packet with this head, unless it would reach beyond the packet. -/
def payload? (h : Head) (packet : Bytes) : Option Bytes :=
  if h.headerLength + h.paddingLength ≤ packet.length then
    some ((packet.take (packet.length - h.paddingLength)).drop h.headerLength)
  else none

end Head

/-- The bytes of a 16-bit number, highest first. -/
def bytes16 (n : UInt16) : Bytes := [(n.toNat / 0x100).toUInt8, n.toNat.toUInt8]

/-- The bytes of a 32-bit number, highest first. -/
def bytes32 (n : UInt32) : Bytes :=
  [(n.toNat / 0x1000000).toUInt8, (n.toNat / 0x10000).toUInt8, (n.toNat / 0x100).toUInt8,
   n.toNat.toUInt8]

/-- A report without blocks, which tells a server that `ssrc` still receives. -/
def receiverReport (ssrc : UInt32) : Bytes := [0x80, 201, 0, 1] ++ bytes32 ssrc

end Rtp

/-- A packet with what it encloses. -/
structure Rtp extends Rtp.Head where
  payload : Bytes
  deriving DecidableEq, Repr

def Rtp.parse? (packet : Bytes) : Option Rtp := do
  let head ← Rtp.Head.parse? packet
  let payload ← head.payload? packet
  some ⟨head, payload⟩

end Rtsp
