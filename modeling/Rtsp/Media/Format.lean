import Rtsp.Text.Blank
import Rtsp.Text.Number

/-!
How the packets of one payload type are encoded. The types below 96 have fixed meanings, of which
a dozen are known here; the others are bound by a mapping such as `96 H264/90000` or
`97 OPUS/48000/2`.
-/
namespace Rtsp.Media

structure Format where
  payloadType : UInt8
  encoding : Text
  clockRate : UInt32
  channels : Option UInt16
  parameters : Option Text
  deriving DecidableEq, Repr

namespace Format

/-- The payload types from here on mean nothing by themselves. -/
def firstDynamic : UInt8 := 96

def fixed : List Format :=
  [⟨0, "PCMU".toList, 8000, some 1, none⟩,
   ⟨3, "GSM".toList, 8000, some 1, none⟩,
   ⟨4, "G723".toList, 8000, some 1, none⟩,
   ⟨8, "PCMA".toList, 8000, some 1, none⟩,
   ⟨9, "G722".toList, 8000, some 1, none⟩,
   ⟨10, "L16".toList, 44100, some 2, none⟩,
   ⟨11, "L16".toList, 44100, some 1, none⟩,
   ⟨14, "MPA".toList, 90000, none, none⟩,
   ⟨26, "JPEG".toList, 90000, none, none⟩,
   ⟨32, "MPV".toList, 90000, none, none⟩,
   ⟨33, "MP2T".toList, 90000, none, none⟩]

def ofPayloadType? (payloadType : UInt8) : Option Format :=
  fixed.find? fun f => f.payloadType == payloadType

/-- The format that a mapping binds. Channels that are no number are left out. -/
def ofMapping? (mapping : Text) : Option Format := do
  let (payloadType, rest) ← Text.cut? ' ' (Text.trim mapping)
  let payloadType ← Text.uint8? payloadType
  match ((Text.trim rest).splitOn '/').map Text.trim with
  | encoding :: clockRate :: more =>
    let clockRate ← Text.uint32? clockRate
    if encoding = [] then none
    else
      some ⟨payloadType, Text.upper encoding, clockRate, more.head?.bind Text.uint16?, none⟩
  | _ => none

theorem payloadType_of_ofPayloadType? {p : UInt8} {f : Format} (h : ofPayloadType? p = some f) :
    f.payloadType = p := by
  simpa using List.find?_some h

/-- Encoding and clock rate, as in `H264/90000`. -/
def codec (f : Format) : Text := f.encoding ++ '/' :: Text.decimal f.clockRate.toNat

end Format

end Rtsp.Media
