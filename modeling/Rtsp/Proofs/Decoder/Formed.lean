import Rtsp.Proofs.Decoder.RoundTrip
import Rtsp.Proofs.Message.Parsed

/-!
Units of any length, written one after another. One that a decoder takes is found as soon as its
bytes are there. One beyond the limit is refused as soon as its head is there, and stands in the way
from then on. In both cases nothing is taken of a part, so that what is taken of a stream of units
is whole units, in their order.
-/
namespace Rtsp

/-- What is written so that it would be read back if it were short enough. -/
structure Response.Formed (r : Response) : Prop where
  trimmed : Text.trim r.reason = r.reason
  unbroken : Text.Unbroken r.reason
  plain : r.header.Plain
  sized : Text.Utf8.size r.text < Text.bound 64

structure Request.Formed (r : Request) : Prop where
  worded : r.Worded
  plain : r.header.Plain
  sized : Text.Utf8.size r.text < Text.bound 64

/-- A unit that can be written, and whose length a word can hold. -/
def Message.Formed : Message → Prop
  | .response r => r.Formed
  | .request r => r.Formed
  | .frame f => f.payload.length < 0x10000

/-- The bytes of units, one after another. -/
def written (ms : List Message) : Bytes := ms.flatMap fun m => m.bytes?.getD []

theorem written_append (a b : List Message) : written (a ++ b) = written a ++ written b :=
  List.flatMap_append

theorem written_of_mapM {ms : List Message} {pieces : List Bytes}
    (h : ms.mapM Message.bytes? = some pieces) : written ms = pieces.flatten := by
  induction ms generalizing pieces with
  | nil =>
    rw [List.mapM_nil] at h
    obtain rfl := Option.some.inj h
    rfl
  | cons m ms ih =>
    obtain ⟨piece, hpiece, rest, hrest, rfl⟩ := exists_of_mapM_cons h
    have hcons : written (m :: ms) = piece ++ written ms := by simp [written, hpiece]
    rw [hcons, ih hrest, List.flatten_cons]

namespace Decoder

/-- Nothing is taken of the bytes. -/
structure Keeps (bytes : Bytes) : Prop where
  kept : (decode ⟨bytes⟩).2 = ⟨bytes⟩
  nothing : ∀ m, (decode ⟨bytes⟩).1 ≠ .message m

/-- Bytes that are taken for a unit, or stand in the way for good. -/
structure Bears (bytes : Bytes) (m : Message) : Prop where
  found : ∀ rest, decode ⟨bytes ++ rest⟩ = (.message m, ⟨rest⟩) ∨
    Keeps (bytes ++ rest) ∧ (decode ⟨bytes ++ rest⟩).1 ≠ .more
  awaited : ∀ u v, u ++ v = bytes → v ≠ [] → Keeps u

theorem keeps_of_eq_more {u : Bytes} (h : decode ⟨u⟩ = (.more, ⟨u⟩)) : Keeps u :=
  ⟨by rw [h], by simp [h]⟩

theorem Spells.bears {bytes : Bytes} {m : Message} (h : Spells bytes m) : Bears bytes m where
  found := fun rest => .inl (h.found rest)
  awaited := fun u v huv hv => keeps_of_eq_more (h.awaited u v huv hv)

section Oversized

variable {head body bytes : Bytes}

/-- A text beyond the limit is refused. -/
theorem keeps_of_oversized {k n : Nat} (hdecode : decode ⟨bytes⟩ = decodeText bytes)
    (ha : Announces bytes k n) (hover : limit < k + n) :
    Keeps bytes ∧ (decode ⟨bytes⟩).1 ≠ .more := by
  have hlook : decode ⟨bytes⟩ = (.overflow, ⟨bytes⟩) ∨
      decode ⟨bytes⟩ = (.refused .tooBig, ⟨bytes⟩) := by
    rw [hdecode, decodeText_of_announces ha, if_pos hover]
    by_cases hbound : Text.bound 64 ≤ k + n
    · exact .inl (if_pos hbound)
    · exact .inr (if_neg hbound)
  rcases hlook with h | h
  · exact ⟨⟨by rw [h], by simp [h]⟩, by simp [h]⟩
  · exact ⟨⟨by rw [h], by simp [h]⟩, by simp [h]⟩

theorem Heads.bears (h : Heads head body) (hover : limit < head.length + body.length)
    (m : Message) : Bears (head ++ body) m := by
  constructor
  · intro rest
    have hne : head ++ body ++ rest ≠ [] := by
      obtain ⟨b, tail, hcons, -⟩ := h.opens
      simp [hcons]
    have hwhole : head ++ body ++ rest ++ [] = head ++ (body ++ rest) := by simp
    have hdecode := h.decode_eq_decodeText hwhole hne
    have hannounces : Announces (head ++ body ++ rest) head.length body.length := by
      rw [List.append_assoc]
      exact h.whole _
    exact .inr (keeps_of_oversized hdecode hannounces hover)
  · intro u v huv hv
    by_cases hu : u = []
    · rw [hu]
      exact keeps_of_eq_more (decode_of_skip_eq_nil rfl)
    have hdecode := h.decode_eq_decodeText huv hu
    rcases h.part_or_whole huv with ⟨hpart, -⟩ | hwhole
    · have hlook := hdecode.trans (decodeText_of_headless hpart)
      refine ⟨by rw [hlook], fun m' => ?_⟩
      rw [hlook]
      dsimp only
      split <;> simp
    · exact (keeps_of_oversized hdecode hwhole hover).1

end Oversized

/-- A message that is read back from its head is borne by its text, however long it is. -/
theorem bears_text {h : Header} {start : Text} {body : Option Text} {m : Message}
    (hs : Opens start) (hc : ∀ f ∈ h, f.Legible)
    (hn : ∀ f ∈ h, f.isNamed Header.lengthName = false)
    (hsize : Text.Utf8.size ((h.told body).head start ++ body.getD []) < Text.bound 64)
    (hm : parse ((h.told body).head start) (body.filter (· != [])) = .ok m) :
    Bears (Text.Utf8.encode ((h.told body).head start ++ body.getD [])) m := by
  by_cases hfits : Text.Utf8.size ((h.told body).head start ++ body.getD []) ≤ limit
  · exact (spells_text hs hc hn hfits hm).bears
  · rw [Text.Utf8.size_append] at hsize hfits
    rw [Text.Utf8.encode_append]
    exact (heads_head hs hc hn (by omega)).bears (by
      simp only [Text.Utf8.size] at hfits
      omega) m

/-- Every unit that is formed is borne by its bytes. -/
theorem exists_bears {m : Message} (hm : m.Formed) :
    ∃ bytes, m.bytes? = some bytes ∧ Bears bytes m.received := by
  cases m with
  | response r =>
    have hr : r.Formed := hm
    have hlegible := Header.legible_told hr.plain.legible r.body
    refine ⟨_, rfl, ?_⟩
    rw [r.text_eq_head]
    exact bears_text (opens_statusLine hr.unbroken.oneLine) hr.plain.legible hr.plain.unnamed
      (r.text_eq_head ▸ hr.sized) (parse_response hr.trimmed hr.unbroken.oneLine hlegible _)
  | request r =>
    have hr : r.Formed := hm
    have hlegible := Header.legible_told hr.plain.legible r.body
    refine ⟨_, rfl, ?_⟩
    rw [r.text_eq_head]
    exact bears_text (opens_requestLine hr.worded) hr.plain.legible hr.plain.unnamed
      (r.text_eq_head ▸ hr.sized) (parse_request hr.worded hlegible _)
  | frame f =>
    have hf : f.payload.length < 0x10000 := hm
    have hbytes : ∃ bytes, f.bytes? = some bytes := by
      simp [Frame.bytes?, hf]
    obtain ⟨bytes, hbytes⟩ := hbytes
    exact ⟨bytes, hbytes, (spells_frame hbytes).bears⟩

end Decoder

end Rtsp
