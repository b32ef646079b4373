import Rtsp.Proofs.Connection.Units

/-!
Waiting for a response. What else the server says meanwhile is dealt with as it comes: a request is
answered, a frame is kept, and a response to another request is passed over. The first response that
will do ends the waiting, and nothing behind it is touched, so that it is found by the polls that
follow.
-/
namespace Rtsp

/-- The request that a unit is. -/
def Message.request? : Message → Option Request
  | .request q => some q
  | .response _ | .frame _ => none

/-- The requests among some units, in order. -/
def requestsOf (ms : List Message) : List Request := ms.filterMap Message.request?

theorem requestsOf_append (a b : List Message) :
    requestsOf (a ++ b) = requestsOf a ++ requestsOf b :=
  List.filterMap_append

/-- What a request of the server is told in a session: that all is well, under the number of the
request if it has one. -/
def Response.consent (session : Option Text) (q : Request) : Response :=
  { Response.ok with
    header := (q.sequence?.map (Header.Field.mk "CSeq".toList)).toList ++
      (session.map (Header.Field.mk "Session".toList)).toList }

namespace Connection

open Decoder (Spells)

variable {c c' c'' : Connection} {n : Nat}

theorem answerTo_eq (c : Connection) (q : Request) :
    c.answerTo q = .consent c.sessionId q := by
  unfold answerTo Response.consent
  cases q.sequence? <;> cases c.sessionId <;> rfl

/-- The same client is at the same point of its dialogue. -/
structure Abides (c c' : Connection) : Prop where
  sequence : c'.sequence = c.sequence
  sessionId : c'.sessionId = c.sessionId
  signer : c'.signer = c.signer

/-- The units have been dealt with: the requests among them are answered, and the frames are kept as
far as there is room. -/
structure Served (c : Connection) (units : List Message) (c' : Connection) : Prop
    extends Abides c c' where
  sent : c'.sent = c.sent ++ (requestsOf units).map fun q => .response (.consent c.sessionId q)
  early : c'.early = c.early ++ (framesOf units).take (earlyLimit - c.early.length)

/-- Units of which none is a request or a frame leave everything as it is. -/
theorem served_of_none {units : List Message} (requests : requestsOf units = [])
    (frames : framesOf units = []) (abides : c.Abides c') (sent : c'.sent = c.sent)
    (early : c'.early = c.early) : c.Served units c' := by
  refine ⟨abides, ?_, ?_⟩
  · rw [sent, requests, List.map_nil, List.append_nil]
  · rw [early, frames, List.take_nil, List.append_nil]

theorem Served.trans {a b : List Message} (h : c.Served a c') (h' : c'.Served b c'') :
    c.Served (a ++ b) c'' := by
  refine ⟨⟨h'.sequence.trans h.sequence, h'.sessionId.trans h.sessionId,
    h'.signer.trans h.signer⟩, ?_, ?_⟩
  · rw [h'.sent, h.sent, h.sessionId, requestsOf_append, List.map_append, List.append_assoc]
  · -- The second part finds the room that the first has left.
    have hroom : earlyLimit - c'.early.length =
        earlyLimit - c.early.length - (framesOf a).length := by
      rw [h.early, List.length_append, List.length_take]
      omega
    rw [h'.early, hroom, h.early, framesOf_append, List.take_append, List.append_assoc]

theorem Served.of_moved {units : List Message} {d : Decoder} {arrivals : List Arrival}
    (h : (c.moved d arrivals).Served units c') : c.Served units c' :=
  ⟨⟨h.sequence, h.sessionId, h.signer⟩, h.sent, h.early⟩

/-- Nothing but the server decides what happens: writes succeed, and nobody has cancelled. -/
structure Undisturbed (c : Connection) : Prop where
  writes : ∀ w ∈ c.writes, w = none
  requested : c.cancellation.requested = false

section Serve

/-- What is done about a unit that is not waited for. -/
def serve (c : Connection) : Message → Connection
  | .response _ => c
  | .request q => (c.answer q).2
  | .frame f => c.keep f

theorem keep_eq (c : Connection) (f : Frame) :
    c.keep f = { c with early := c.early ++ [f].take (earlyLimit - c.early.length) } := by
  unfold keep
  split
  · rw [List.take_of_length_le (by rw [List.length_singleton]; omega)]
  · rw [Nat.sub_eq_zero_of_le (by omega), List.take_zero, List.append_nil]

theorem Undisturbed.moved (hc : c.Undisturbed) (d : Decoder) (arrivals : List Arrival) :
    (c.moved d arrivals).Undisturbed :=
  ⟨hc.writes, hc.requested⟩

theorem Undisturbed.answer (hc : c.Undisturbed) (q : Request) :
    c.answer q = (.ok (), { c with
      writes := c.writes.tail
      sent := c.sent ++ [.response (.consent c.sessionId q)] }) := by
  rw [Connection.answer, answerTo_eq]
  exact write_of_none hc.writes _

theorem Undisturbed.serve (hc : c.Undisturbed) (m : Message) : (c.serve m).Undisturbed := by
  cases m with
  | response r => exact hc
  | request q =>
    rw [Connection.serve, hc.answer]
    exact ⟨fun w hw => hc.writes w (List.mem_of_mem_tail hw), hc.requested⟩
  | frame f =>
    rw [Connection.serve, keep_eq]
    exact ⟨hc.writes, hc.requested⟩

theorem Undisturbed.served (hc : c.Undisturbed) (m : Message) : c.Served [m] (c.serve m) := by
  cases m with
  | response r => exact served_of_none rfl rfl ⟨rfl, rfl, rfl⟩ rfl rfl
  | request q =>
    have hnone : framesOf [.request q] = [] := rfl
    rw [Connection.serve, hc.answer]
    refine ⟨⟨rfl, rfl, rfl⟩, rfl, ?_⟩
    rw [hnone, List.take_nil, List.append_nil]
  | frame f =>
    rw [Connection.serve, keep_eq]
    exact ⟨⟨rfl, rfl, rfl⟩, (List.append_nil c.sent).symm, rfl⟩

/-- What is still to be read is the same. -/
theorem Undisturbed.serve_brings (hc : c.Undisturbed) (m : Message) {bytes : Bytes}
    {later : List Arrival} (h : c.Brings bytes later) :
    (c.serve m).Brings bytes later ∧ (c.serve m).remaining = c.remaining := by
  cases m with
  | response r => exact ⟨h, rfl⟩
  | request q =>
    rw [Connection.serve, hc.answer]
    exact ⟨h, rfl⟩
  | frame f =>
    rw [Connection.serve, keep_eq]
    exact ⟨h, rfl⟩

/-- A unit that does not end the waiting is dealt with, and the waiting goes on. -/
theorem Undisturbed.readUpTo_serve {m : Message} {fuel : Nat} (hc : c.Undisturbed)
    (hother : ∀ r, m = .response r → isFor n r = false) {d : Decoder} {arrivals : List Arrival}
    (hpoll : c.poll = (.ok (.unit m), c.moved d arrivals)) :
    readUpTo n (fuel + 1) c = readUpTo n fuel ((c.moved d arrivals).serve m) := by
  rw [readUpTo, hc.requested, if_neg Bool.false_ne_true, hpoll]
  cases m with
  | response r => simp only [hother r rfl, Bool.false_eq_true, if_false, Connection.serve]
  | request q => simp only [(hc.moved d arrivals).answer, Connection.serve]
  | frame f => rfl

end Serve

section Wait

variable {pieces : List Bytes} {units : List Message} {piece rest : Bytes} {r : Response}
  {later : List Arrival}

/-- The waiting ends with the first response that will do. What comes before it is dealt with, and
what comes behind it is still to come. -/
theorem Undisturbed.readUpTo_first {fuel : Nat} (hc : c.Undisturbed)
    (hunits : List.Forall₂ Spells pieces units)
    (hothers : ∀ r', .response r' ∈ units → isFor n r' = false)
    (hr : Spells piece (.response r)) (hfirst : isFor n r = true) (hfuel : c.remaining < fuel)
    (hbrings : c.Brings (pieces.flatten ++ (piece ++ rest)) later) :
    ∃ c', readUpTo n fuel c = (.ok r, c') ∧ c.Served units c' ∧ c'.Undisturbed ∧
      c'.Brings rest later := by
  -- Every poll lessens what remains, whether it brings something or not, so that the fuel lasts.
  induction fuel generalizing c pieces units with
  | zero => omega
  | succ fuel ih =>
    have hagain : ∀ {d arrivals}, c.poll = (.ok (.nothing false), c.moved d arrivals) →
        (c.moved d arrivals).remaining < c.remaining →
        (c.moved d arrivals).Brings (pieces.flatten ++ (piece ++ rest)) later →
        ∃ c', readUpTo n (fuel + 1) c = (.ok r, c') ∧ c.Served units c' ∧ c'.Undisturbed ∧
          c'.Brings rest later := by
      intro d arrivals hpoll hless hleft
      obtain ⟨c', hread, hserved, hdone⟩ := ih (hc.moved d arrivals) hunits hothers (by omega) hleft
      refine ⟨c', ?_, hserved.of_moved, hdone⟩
      rw [readUpTo, hc.requested, if_neg Bool.false_ne_true, hpoll]
      exact hread
    cases hunits with
    | nil =>
      have hadvances := Brings.poll hr hbrings
      generalize hpoll : c.poll = result at hadvances
      cases hadvances with
      | waiting less left => exact hagain hpoll less left
      | @found d arrivals less left =>
        refine ⟨c.moved d arrivals, ?_, served_of_none rfl rfl ⟨rfl, rfl, rfl⟩ rfl rfl,
          hc.moved d arrivals, left⟩
        simp only [readUpTo, hc.requested, hpoll, hfirst, Bool.false_eq_true, if_false, if_true]
    | @cons first m pieces units hm hunits =>
      rw [List.flatten_cons, List.append_assoc] at hbrings hagain
      have hadvances := Brings.poll hm hbrings
      generalize hpoll : c.poll = result at hadvances
      cases hadvances with
      | waiting less left => exact hagain hpoll less left
      | @found d arrivals less left =>
        have hmoved := hc.moved d arrivals
        obtain ⟨hcoming, hsame⟩ := hmoved.serve_brings m left
        obtain ⟨c', hread, hserved, hdone⟩ := ih (hmoved.serve m) hunits
          (fun r' hr' => hothers r' (List.mem_cons_of_mem m hr')) (by omega) hcoming
        refine ⟨c', ?_, ((hmoved.served m).trans hserved).of_moved, hdone⟩
        rw [hc.readUpTo_serve (fun r' hr' => hothers r' (hr' ▸ List.mem_cons_self)) hpoll, hread]

/-- What a number of polls find, one after another. -/
def polls : Nat → Connection → List (Except Halt Poll) × Connection
  | 0, c => ([], c)
  | k + 1, c => (c.poll.1 :: (polls k c.poll.2).1, (polls k c.poll.2).2)

/-- Enough polls find all that is brought, in order, and otherwise nothing. -/
theorem Brings.exists_polls (hunits : List.Forall₂ Spells pieces units)
    (h : c.Brings pieces.flatten later) :
    ∃ k, (c.polls k).1.filter (· ≠ .ok (.nothing false)) =
        units.map (fun m => .ok (.unit m)) ∧ (c.polls k).2.Brings [] later := by
  induction hremaining : c.remaining using Nat.strong_induction_on
    generalizing c pieces units with
  | _ remaining ih =>
    cases hunits with
    | nil => exact ⟨0, rfl, h⟩
    | @cons piece m pieces units hm hrest =>
      have hadvances := Brings.poll hm h
      generalize hpoll : c.poll = result at hadvances
      cases hadvances with
      | waiting less left =>
        obtain ⟨k, hfound, hleft⟩ := ih _ (hremaining ▸ less) (.cons hm hrest) left rfl
        exact ⟨k + 1, by simpa [polls, hpoll] using hfound, by simpa [polls, hpoll] using hleft⟩
      | found less left =>
        obtain ⟨k, hfound, hleft⟩ := ih _ (hremaining ▸ less) hrest left rfl
        exact ⟨k + 1, by simpa [polls, hpoll] using hfound, by simpa [polls, hpoll] using hleft⟩

end Wait

theorem poll_of_refused {bytes : Bytes} {rest : List Arrival} {d : Decoder} {cause : ParseFault}
    (h : Decoder.decode ⟨bytes⟩ = (.refused cause, d)) (hempty : c.decoder = .empty)
    (harrivals : c.arrivals = .data bytes :: rest) :
    ∃ c', c.poll = (.error (.fault (.parse cause)), c') := by
  have hmore : Decoder.decode .empty = (.more, .empty) := rfl
  have hpushed : (Decoder.push .empty bytes).decode = (.refused cause, d) := h
  refine ⟨{ c with decoder := d, arrivals := rest }, ?_⟩
  simp only [poll, decode, hempty, hmore, receive, harrivals, hpushed]

/-- What is refused ends the waiting. -/
theorem readResponse_of_refused {bytes : Bytes} {rest : List Arrival} {d : Decoder}
    {cause : ParseFault} (h : Decoder.decode ⟨bytes⟩ = (.refused cause, d))
    (hempty : c.decoder = .empty) (harrivals : c.arrivals = .data bytes :: rest)
    (hrequested : c.cancellation.requested = false) (n : Nat) :
    ∃ c', c.readResponse n = (.error (.fault (.parse cause)), c') := by
  obtain ⟨c', hpoll⟩ := poll_of_refused h hempty harrivals
  refine ⟨c', ?_⟩
  simp only [readResponse, supply, readUpTo, hrequested, Bool.false_eq_true, if_false, hpoll]

end Connection

end Rtsp
