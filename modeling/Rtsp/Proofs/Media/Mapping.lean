import Mathlib.Data.List.Basic
import Rtsp.Media.Format
import Rtsp.Proofs.Text.Case
import Rtsp.Proofs.Text.Trim

/-!
The mapping of a format, written and read again. A payload type and a blank come first, then the
encoding, the clock rate and perhaps the channels, with slashes between them. What a mapping cannot
tell is the parameters.
-/
namespace Rtsp.Media.Format

open Text (EndsVisibly)

/-- A format as a description can tell it. -/
structure Plain (f : Format) : Prop where
  encoding_ne : f.encoding ≠ []
  encoding_upper : ∀ c ∈ f.encoding, c.isLower = false
  encoding_whole : '/' ∉ f.encoding
  encoding_trimmed : Text.trim f.encoding = f.encoding
  parameters_trimmed : ∀ p ∈ f.parameters, p ≠ [] ∧ Text.trim p = p

/-- The format without its parameters, as a mapping tells it. -/
def bare (f : Format) : Format := { f with parameters := none }

def rateText (f : Format) : Text :=
  Text.decimal f.clockRate.toNat ++
    (f.channels.map fun n => '/' :: Text.decimal n.toNat).getD []

/-- The mapping that binds the format. -/
def mappingText (f : Format) : Text :=
  Text.decimal f.payloadType.toNat ++ ' ' :: (f.encoding ++ '/' :: f.rateText)

variable {f : Format}

theorem endsVisibly_decimal (n : Nat) : EndsVisibly (Text.decimal n) :=
  .of_blankless (Text.decimal_ne_nil n) (Text.blankless_decimal n)

theorem endsVisibly_rateText (f : Format) : EndsVisibly f.rateText := by
  unfold rateText
  cases f.channels with
  | none =>
    rw [Option.map_none, Option.getD_none, List.append_nil]
    exact endsVisibly_decimal _
  | some n => exact ((endsVisibly_decimal n.toNat).append ['/']).append _

theorem trim_numbered {value : Text} (n : Nat) (h : EndsVisibly value) :
    Text.trim (Text.decimal n ++ ' ' :: value) = Text.decimal n ++ ' ' :: value := by
  refine ((h.append [' ']).append _).trim fun c hc => ?_
  cases hdigits : Text.decimal n with
  | nil => exact absurd hdigits (Text.decimal_ne_nil n)
  | cons d digits =>
    rw [hdigits] at hc
    obtain rfl := Option.some.inj hc
    exact Text.blankless_decimal n _ (hdigits ▸ List.mem_cons_self)

theorem splitOn_rateText (f : Format) :
    f.rateText.splitOn '/' = Text.decimal f.clockRate.toNat ::
      (f.channels.map fun n => Text.decimal n.toNat).toList := by
  have hslash : ∀ n, '/' ∉ Text.decimal n := Text.not_mem_decimal (by decide)
  unfold rateText
  cases f.channels with
  | none =>
    rw [Option.map_none, Option.getD_none, List.append_nil,
      List.splitOn_eq_singleton (hslash _)]
    rfl
  | some n =>
    rw [Option.map_some, Option.getD_some, List.splitOn_append_cons_self_of_not_mem (hslash _),
      List.splitOn_eq_singleton (hslash _)]
    rfl

/-- A mapping is read as it was written. -/
theorem ofMapping?_mappingText (h : f.Plain) : ofMapping? f.mappingText = some f.bare := by
  have hends : EndsVisibly (f.encoding ++ '/' :: f.rateText) :=
    ((endsVisibly_rateText f).append ['/']).append _
  have hcut : Text.cut? ' ' f.mappingText =
      some (Text.decimal f.payloadType.toNat, f.encoding ++ '/' :: f.rateText) :=
    Text.cut?_append (Text.not_mem_decimal (by decide) _) _
  have hrest : Text.trim (f.encoding ++ '/' :: f.rateText) = f.encoding ++ '/' :: f.rateText := by
    refine hends.trim fun c hc => Text.head?_of_trim h.encoding_trimmed c ?_
    rwa [List.head?_append_of_ne_nil _ h.encoding_ne] at hc
  have htrim : ∀ n, Text.trim (Text.decimal n) = Text.decimal n := fun n =>
    Text.trim_of_blankless (Text.blankless_decimal n)
  have hpieces : ((f.encoding ++ '/' :: f.rateText).splitOn '/').map Text.trim =
      f.encoding :: Text.decimal f.clockRate.toNat ::
        (f.channels.map fun n => Text.decimal n.toNat).toList := by
    rw [List.splitOn_append_cons_self_of_not_mem h.encoding_whole, splitOn_rateText, List.map_cons,
      List.map_cons, h.encoding_trimmed, htrim]
    cases f.channels with
    | none => rfl
    | some n => rw [Option.map_some, Option.toList_some, List.map_singleton, htrim]
  have hchannels : (f.channels.map fun n => Text.decimal n.toNat).toList.head?.bind Text.uint16? =
      f.channels := by
    cases f.channels with
    | none => rfl
    | some n => exact Text.uint16?_decimal n
  have hwhole : Text.trim f.mappingText = f.mappingText := trim_numbered _ hends
  simp only [ofMapping?, Option.bind_eq_bind, Option.bind_some, hwhole, hcut, Text.uint8?_decimal,
    hrest, hpieces, Text.uint32?_decimal, hchannels, h.encoding_ne,
    Text.upper_of_isLower h.encoding_upper, if_false, bare]

/-- Only the payload types below 96 have a fixed meaning. -/
theorem lt_firstDynamic {payloadType : UInt8} (h : ofPayloadType? payloadType = some f) :
    payloadType < firstDynamic := by
  have hall : ∀ f ∈ fixed, f.payloadType < firstDynamic := by decide
  rw [← payloadType_of_ofPayloadType? h]
  exact hall f (List.mem_of_find?_eq_some h)

end Rtsp.Media.Format
