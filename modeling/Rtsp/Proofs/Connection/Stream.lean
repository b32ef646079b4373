import Rtsp.Connection
import Rtsp.Proofs.Decoder.Spelling

/-!
What a connection finds in the bytes that come to it. As long as nothing goes wrong a poll either
brings the unit that is next, or brings nothing and takes something from what is still to arrive, so
that a unit whose bytes all arrive is found in the end, however they are cut into reads. What the
client sends meanwhile changes nothing in that.
-/
namespace Rtsp.Connection

open Decoder (Spells)

/-- The bytes that some arrivals bring. -/
def brought : List Arrival → Bytes
  | [] => []
  | .data bytes :: rest => bytes ++ brought rest
  | _ :: rest => brought rest

/-- A read goes well: bytes come, or none come before the next poll. -/
inductive Arrival.Smooth : Arrival → Prop
  | data (bytes : Bytes) : Smooth (.data bytes)
  | pause : Smooth (.silence false)
  | stall : Smooth (.failed .stalled)

/-- The bytes that are not made use of yet, those that are still to arrive included. -/
def stream (c : Connection) : Bytes := c.decoder.pending ++ brought c.arrivals

/-- How much is left for polls to take. -/
def remaining (c : Connection) : Nat := c.decoder.pending.length + weight c.arrivals

/-- The connection after a poll. -/
def moved (c : Connection) (d : Decoder) (arrivals : List Arrival) : Connection :=
  { c with decoder := d, arrivals := arrivals }

section Sending

/-- Nothing has changed but what concerns the sending. -/
structure Untouched (c c' : Connection) : Prop where
  decoder : c'.decoder = c.decoder
  arrivals : c'.arrivals = c.arrivals
  early : c'.early = c.early
  cancellation : c'.cancellation = c.cancellation

theorem Untouched.refl (c : Connection) : c.Untouched c := ⟨rfl, rfl, rfl, rfl⟩

theorem Untouched.trans {c c' c'' : Connection} (h : c.Untouched c') (h' : c'.Untouched c'') :
    c.Untouched c'' :=
  ⟨h'.decoder.trans h.decoder, h'.arrivals.trans h.arrivals, h'.early.trans h.early,
    h'.cancellation.trans h.cancellation⟩

theorem untouched_write (c : Connection) (m : Message) : c.Untouched (c.write m).2 := by
  unfold write
  dsimp only
  split <;> exact ⟨rfl, rfl, rfl, rfl⟩

theorem untouched_signed (c : Connection) (r : Request) : c.Untouched (c.signed r).2 := by
  unfold signed
  split <;> exact ⟨rfl, rfl, rfl, rfl⟩

theorem untouched_sendRequest (c : Connection) (r : Request) : c.Untouched (c.sendRequest r).2 := by
  have hcounted : c.Untouched { c with sequence := c.sequence + 1 } := ⟨rfl, rfl, rfl, rfl⟩
  have hsigned := hcounted.trans (untouched_signed { c with sequence := c.sequence + 1 }
    (named { c with sequence := c.sequence + 1 } (stamp { c with sequence := c.sequence + 1 } r)))
  unfold sendRequest
  dsimp only
  generalize signed _ _ = x at hsigned
  have hboth := hsigned.trans (untouched_write x.2 (.request x.1))
  split
  · rename_i heq
    rw [heq] at hboth
    exact hboth
  · rename_i heq
    rw [heq] at hboth
    exact hboth

theorem untouched_sendFrame (c : Connection) (f : Frame) : c.Untouched (c.sendFrame f).2 := by
  unfold sendFrame
  split
  · exact untouched_write c (.frame f)
  · exact .refl c

end Sending

/-- All that is to happen goes well, and requests are sent as they are but for their numbers. -/
structure Calm (c : Connection) : Prop where
  arrivals : ∀ a ∈ c.arrivals, a.Smooth
  writes : ∀ w ∈ c.writes, w = none
  requested : c.cancellation.requested = false
  sessionId : c.sessionId = none
  signer : c.signer = none

variable {c : Connection} {m : Message} {piece rest : Bytes}

/-- A write succeeds if nothing says otherwise. -/
theorem write_of_none (hwrites : ∀ w ∈ c.writes, w = none) (m : Message) :
    c.write m = (.ok (), { c with writes := c.writes.tail, sent := c.sent ++ [m] }) := by
  have hnone : c.writes.headD none = none := by
    cases hw : c.writes with
    | nil => rfl
    | cons w ws => exact hwrites w (hw ▸ List.mem_cons_self)
  simp only [Connection.write, hnone]

/-- A look at the pending bytes finds the unit, or leaves them as they are until more come. -/
theorem decode_spelled (hm : Spells piece m) {coming : Bytes}
    (hbytes : c.decoder.pending ++ coming = piece ++ rest) :
    (∃ w, c.decoder.pending = piece ++ w ∧ w ++ coming = rest ∧
      c.decode = (.ok (.unit m), c.moved ⟨w⟩ c.arrivals)) ∨
    (c.decode = (.ok (.nothing false), c) ∧ coming ≠ []) := by
  by_cases hshort : c.decoder.pending.length < piece.length
  · obtain ⟨v, hv⟩ : c.decoder.pending <+: piece := List.prefix_of_prefix_length_le
      ⟨coming, hbytes⟩ (List.prefix_append piece rest) (by omega)
    have hne : v ≠ [] := by
      rintro rfl
      simp [← hv] at hshort
    have hmore : c.decoder.decode = (.more, c.decoder) := hm.awaited _ v hv hne
    refine Or.inr ⟨by simp only [decode, hmore], fun hnil => ?_⟩
    rw [hnil, List.append_nil] at hbytes
    rw [hbytes, List.length_append] at hshort
    omega
  · obtain ⟨w, hw⟩ : piece <+: c.decoder.pending := List.prefix_of_prefix_length_le
      (List.prefix_append piece rest) ⟨coming, hbytes⟩ (by omega)
    have hfound : c.decoder.decode = (.message m, ⟨w⟩) := by
      have hfound := hm.found w
      rw [hw] at hfound
      exact hfound
    refine Or.inl ⟨w, hw.symm, ?_, by simp only [decode, hfound]; rfl⟩
    rw [← hw, List.append_assoc] at hbytes
    exact List.append_cancel_left hbytes

/-- What is pending and what comes in reads that go well make up some bytes, and after these reads
other things may come. -/
def Brings (c : Connection) (bytes : Bytes) (later : List Arrival) : Prop :=
  ∃ front, (∀ a ∈ front, a.Smooth) ∧ c.arrivals = front ++ later ∧
    c.decoder.pending ++ brought front = bytes

/-- What a poll brings where `piece` is next, which spells `m`: the unit, or nothing so far. In both
cases less is left to wait for. -/
inductive Advances (c : Connection) (m : Message) (piece rest : Bytes) (later : List Arrival) :
    Except Halt Poll × Connection → Prop
  | found {d : Decoder} {arrivals : List Arrival}
      (less : (c.moved d arrivals).remaining < c.remaining)
      (left : (c.moved d arrivals).Brings rest later) :
      Advances c m piece rest later (.ok (.unit m), c.moved d arrivals)
  | waiting {d : Decoder} {arrivals : List Arrival}
      (less : (c.moved d arrivals).remaining < c.remaining)
      (left : (c.moved d arrivals).Brings (piece ++ rest) later) :
      Advances c m piece rest later (.ok (.nothing false), c.moved d arrivals)

section Brings

variable {later front : List Arrival}

/-- A read that brings bytes is followed by a look at them. -/
theorem advances_data (hm : Spells piece m) {bytes : Bytes} (hfront : ∀ a ∈ front, a.Smooth)
    (harrivals : c.arrivals = .data bytes :: (front ++ later))
    (hbytes : c.decoder.pending ++ (bytes ++ brought front) = piece ++ rest) :
    Advances c m piece rest later
      (c.moved (c.decoder.push bytes) (front ++ later)).decode := by
  have hjoined : (c.decoder.push bytes).pending ++ brought front = piece ++ rest := by
    rw [Decoder.push, List.append_assoc, hbytes]
  rcases decode_spelled (c := c.moved (c.decoder.push bytes) (front ++ later)) hm hjoined with
    ⟨w, hpending, hleft, hdecode⟩ | ⟨hdecode, -⟩
  · rw [hdecode]
    refine .found ?_ ⟨front, hfront, rfl, hleft⟩
    have hpos := hm.length_pos
    have hlength := congrArg List.length hpending
    simp only [moved, Decoder.push, List.length_append] at hlength
    simp only [remaining, moved, harrivals, weight]
    omega
  · rw [hdecode]
    refine .waiting ?_ ⟨front, hfront, rfl, hjoined⟩
    simp only [remaining, moved, harrivals, weight, Decoder.push, List.length_append]
    omega

theorem Brings.poll (hm : Spells piece m) (h : c.Brings (piece ++ rest) later) :
    Advances c m piece rest later c.poll := by
  obtain ⟨front, hsmooth, harrivals, hbytes⟩ := h
  rcases decode_spelled hm hbytes with ⟨w, hpending, hleft, hdecode⟩ | ⟨hdecode, hne⟩
  · have hpoll : c.poll = (.ok (.unit m), c.moved ⟨w⟩ c.arrivals) := by
      simp only [Connection.poll, hdecode]
    rw [hpoll]
    refine .found ?_ ⟨front, hsmooth, harrivals, hleft⟩
    have hpos := hm.length_pos
    simp only [remaining, moved, hpending, List.length_append]
    omega
  have hpoll : c.poll = c.receive := by simp only [Connection.poll, hdecode]
  cases front with
  | nil => exact absurd rfl hne
  | cons a front =>
    obtain ⟨hsmooth, hfront⟩ := List.forall_mem_cons.mp hsmooth
    have hwait : brought (a :: front) = brought front →
        weight (a :: (front ++ later)) = 1 + weight (front ++ later) →
        Advances c m piece rest later
          (.ok (.nothing false), c.moved c.decoder (front ++ later)) := by
      intro hbrought hweight
      refine .waiting ?_ ⟨front, hfront, rfl, hbrought ▸ hbytes⟩
      simp only [remaining, moved, harrivals, List.cons_append, hweight]
      omega
    rw [hpoll]
    unfold receive
    rw [harrivals, List.cons_append]
    cases hsmooth with
    | data bytes => exact advances_data hm hfront harrivals hbytes
    | pause => exact hwait rfl rfl
    | stall => exact hwait rfl rfl

end Brings

end Rtsp.Connection
