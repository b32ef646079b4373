import Rtsp.Proofs.Decoder.Segmentation
import Rtsp.Proofs.Decoder.Spelling

/-!
Decoding undoes encoding. Units that are spelled one after another make a steady stream, so that
they come out in order, once each, however the stream is cut. What is written for a response, for a
request of any method, and for a frame spells that unit, up to the length field that a body adds to a
header.
-/
namespace Rtsp

/-- What can be written so that it is read back. -/
def Message.Writable : Message → Prop
  | .response r => r.Writable
  | .request r => r.Writable
  | .frame f => f.payload.length < 0x10000

/-- The unit as a reader finds it. -/
def Message.received : Message → Message
  | .response r => .response r.received
  | .request r => .request r.received
  | .frame f => .frame f

namespace Decoder

theorem opens_statusLine {r : Response} (hr : Text.OneLine r.reason) : Opens r.statusLine :=
  ⟨Response.oneLine_statusLine hr, 'R', _, rfl, by decide, by decide⟩

theorem opens_requestLine {r : Request} (hr : r.Worded) : Opens r.requestLine := by
  refine ⟨hr.oneLine_requestLine, ?_⟩
  obtain ⟨c, t, hmethod⟩ := List.exists_cons_of_ne_nil hr.called
  refine ⟨c, t ++ ' ' :: (r.uri ++ ' ' :: r.version), ?_, ?_, ?_⟩
  · rw [Request.requestLine, hmethod, List.cons_append]
  · rintro rfl
    exact hr.unmarked (by rw [hmethod, List.head?_cons])
  · rintro rfl
    exact absurd (hr.method '\r' (hmethod ▸ List.mem_cons_self)) (by decide)

/-- A response whose reason and fields are read back is spelled by its text. -/
theorem spells_response {r : Response} (ht : Text.trim r.reason = r.reason)
    (hr : Text.OneLine r.reason) (hc : ∀ f ∈ r.header, f.Legible)
    (hn : ∀ f ∈ r.header, f.isNamed Header.lengthName = false)
    (hfits : Text.Utf8.size r.text ≤ limit) :
    Spells (Text.Utf8.encode r.text) (.response r.received) := by
  rw [r.text_eq_head] at hfits ⊢
  apply spells_text (opens_statusLine hr) hc hn hfits
  exact parse_response ht hr (Header.legible_told hc r.body) _

theorem exists_spells {m : Message} (hm : m.Writable) :
    ∃ bytes, m.bytes? = some bytes ∧ Spells bytes m.received := by
  cases m with
  | response r =>
    have hr : r.Writable := hm
    exact ⟨_, rfl, spells_response hr.trimmed hr.unbroken.oneLine hr.plain.legible
      hr.plain.unnamed hr.fits⟩
  | request r =>
    have hr : r.Writable := hm
    refine ⟨_, rfl, ?_⟩
    rw [r.text_eq_head]
    apply spells_text (opens_requestLine hr.worded) hr.plain.legible hr.plain.unnamed
      (r.text_eq_head ▸ hr.fits)
    exact parse_request hr.worded (Header.legible_told hr.plain.legible r.body) _
  | frame f =>
    have hf : f.payload.length < 0x10000 := hm
    have hbytes : ∃ bytes, f.bytes? = some bytes := by
      simp [Frame.bytes?, hf]
    obtain ⟨bytes, hbytes⟩ := hbytes
    exact ⟨bytes, hbytes, spells_frame hbytes⟩

variable {bytes rest : Bytes} {m : Message}

theorem Spells.skip_append (h : Spells bytes m) (rest : Bytes) :
    skip (bytes ++ rest) = bytes ++ rest := by
  obtain ⟨b, tail, rfl, hb⟩ := h.begins
  exact skip_cons_of_not hb _

theorem Spells.firm (h : Spells bytes m) (rest : Bytes) : Firm (bytes ++ rest) := by
  apply firm_of_append
  intro u v _ huv outcome d hd hmore
  have hu := (List.prefix_append u v).trans huv
  by_cases hshort : u.length < bytes.length
  · obtain ⟨w, hw⟩ : u <+: bytes :=
      List.prefix_of_prefix_length_le hu (List.prefix_append bytes rest) (by omega)
    have hw' : w ≠ [] := by
      rintro rfl
      simp [← hw] at hshort
    rw [h.awaited u w hw hw'] at hd
    exact absurd (Prod.mk.inj hd).1.symm hmore
  · obtain ⟨w, rfl⟩ : bytes <+: u :=
      List.prefix_of_prefix_length_le (List.prefix_append bytes rest) hu (by omega)
    rw [h.found w] at hd
    obtain ⟨rfl, rfl⟩ := Prod.mk.inj hd
    rw [List.append_assoc, h.found]

/-- Spelled units make a steady stream. -/
theorem steady_of_spells {pieces : List Bytes} {units : List Message}
    (h : List.Forall₂ Spells pieces units) : Steady pieces.flatten := by
  induction h with
  | nil =>
    refine Steady.intro _ firm_nil ?_
    intro m d hd
    rw [decode_of_skip_eq_nil rfl] at hd
    simp at hd
  | @cons piece m pieces units hpiece _ ih =>
    rw [List.flatten_cons]
    refine Steady.intro _ ?_ ?_
    · rw [hpiece.skip_append]
      exact hpiece.firm _
    · intro m' d hd
      rw [hpiece.found] at hd
      obtain ⟨-, rfl⟩ := Prod.mk.inj hd
      exact ih

theorem exhaust_of_spells {pieces : List Bytes} {units : List Message}
    (h : List.Forall₂ Spells pieces units) : exhaust ⟨pieces.flatten⟩ = ⟨units, .ok .empty⟩ := by
  induction h with
  | nil => exact exhaust_of_skip_eq_nil rfl
  | cons hpiece _ ih =>
    rw [List.flatten_cons, exhaust_of_message (hpiece.found _), ih]
    rfl

theorem exists_pieces {units : List Message} (hw : ∀ m ∈ units, m.Writable) :
    ∃ pieces, units.mapM Message.bytes? = some pieces ∧
      List.Forall₂ Spells pieces (units.map Message.received) := by
  induction units with
  | nil => exact ⟨[], rfl, List.Forall₂.nil⟩
  | cons m units ih =>
    obtain ⟨bytes, hbytes, hspells⟩ := exists_spells (hw m List.mem_cons_self)
    obtain ⟨pieces, hpieces, hrest⟩ := ih fun m' hm' => hw m' (List.mem_cons_of_mem m hm')
    refine ⟨bytes :: pieces, ?_, List.Forall₂.cons hspells hrest⟩
    simp only [List.mapM_cons, hbytes, hpieces, Option.pure_def, Option.bind_eq_bind,
      Option.bind_some]

/-- Whatever writable units are written, and however their bytes are cut, exactly these units are
read, in order, and nothing is left. -/
theorem read_written (units : List Message) (hw : ∀ m ∈ units, m.Writable) :
    ∃ pieces, units.mapM Message.bytes? = some pieces ∧
      ∀ chunks : List Bytes, chunks.flatten = pieces.flatten →
        read chunks = ⟨units.map Message.received, .ok .empty⟩ := by
  obtain ⟨pieces, hpieces, hspells⟩ := exists_pieces hw
  refine ⟨pieces, hpieces, ?_⟩
  intro chunks hchunks
  have hsteady : Steady chunks.flatten := hchunks ▸ steady_of_spells hspells
  rw [read_eq_exhaust hsteady.resumes chunks (List.prefix_refl _), hchunks,
    exhaust_of_spells hspells]

/-- A body that looks like the end of a head, a payload that looks like a frame and the end of a
head, and an empty body. -/
theorem read_written_awkward :
    let reply : Response := ⟨200, "OK".toList, [⟨"CSeq".toList, "1".toList⟩],
      some "\r\n\r\n$\n\nRTSP/1.0 é".toList⟩
    let packet : Frame := ⟨1, [0x24, 0x00, 0x0D, 0x0A, 0x0D, 0x0A]⟩
    let demand : Request := { Request.make .getParameter "rtsp://camera/live".toList with
      header := [⟨"Session".toList, []⟩], body := some [] }
    let units : List Message := [.response reply, .frame packet, .request demand]
    (∀ m ∈ units, m.Writable) ∧ ∃ pieces, units.mapM Message.bytes? = some pieces ∧
      ∀ chunks : List Bytes, chunks.flatten = pieces.flatten →
        read chunks = ⟨units.map Message.received, .ok .empty⟩ := by
  intro reply packet demand units
  have hreply : reply.Writable := ⟨by decide, by decide, by decide, by decide +kernel⟩
  have hdemand : demand.Writable :=
    ⟨Request.worded_of_method .getParameter rfl rfl (by decide) (Text.blankless_of_all (by decide)),
      by decide, by decide +kernel⟩
  have hunits : ∀ m ∈ units, m.Writable := by
    intro m hm
    simp only [units, List.mem_cons, List.not_mem_nil, or_false] at hm
    rcases hm with rfl | rfl | rfl
    · exact hreply
    · exact show packet.payload.length < 0x10000 by decide
    · exact hdemand
  exact ⟨hunits, read_written units hunits⟩

end Decoder

end Rtsp
