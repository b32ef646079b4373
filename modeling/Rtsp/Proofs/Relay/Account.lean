import Rtsp.Proofs.Relay.Traffic

/-!
The account of a relay. Without a cancellation every push is relayed, dropped, queued, or on its way
to the owner, and the owner is given what was not dropped in the order of the pushes. After a
cancellation the owner is given nothing more, but for a packet that was already admitted. When
nobody pushes any more the delivery can come to its end, whatever has happened before.
-/
namespace Rtsp.Relay.Traffic

variable {capacity : Nat} {t : Traffic}

/-- Every push is dropped, or is in the account of what was not. -/
theorem Sound.length_pushes (h : t.Sound capacity) (hno : t.relay.cancelled = false) :
    t.pushes.length =
      t.relay.relayed + t.relay.dropped + t.relay.queue.length + t.relay.held.toList.length +
        t.hand.packets.length := by
  have hwhole := congrArg List.length (h.whole hno)
  simp only [List.length_append] at hwhole
  have hcounted := h.counted
  rw [Traffic.length_pushes, h.dropped_eq]
  omega

/-- The queue drops a packet if and only if it is full. -/
theorem Sound.pushes_push (hcap : 0 < capacity) (h : t.Sound capacity) (p : Packet) :
    (t.push p).pushes = t.pushes ++ [(p, decide (t.relay.queue.length = capacity))] := by
  by_cases hroom : t.relay.queue.length < capacity
  · rw [push_of_room h hroom, decide_eq_false (by omega)]
  · have hbounded := h.bounded
    rw [push_of_full hcap h (by omega), decide_eq_true (by omega)]

section Cancelled

/-- What a move may do once there was a cancellation: nothing comes into the owner's hands that was
not admitted before, and nothing more is admitted. -/
theorem step_cancelled (h : t.relay.cancelled = true) (m : Move) :
    (t.step m).relay.cancelled = true ∧
      (((t.step m).relay.given = t.relay.given ∧
          ∀ p, (t.step m).hand = .admitted p → t.hand = .admitted p) ∨
        ∃ p, t.hand = .admitted p ∧ (t.step m).relay.given = t.relay.given ++ [p] ∧
          (t.step m).hand = .free) := by
  cases m with
  | clone =>
    simp only [step]
    split <;> exact ⟨h, Or.inl ⟨rfl, fun _ hp => hp⟩⟩
  | leave => exact ⟨h, Or.inl ⟨rfl, fun _ hp => hp⟩⟩
  | push p =>
    simp only [step]
    split
    · simp only [push, Relay.push]
      split
      · exact ⟨h, Or.inl ⟨rfl, fun _ hp => hp⟩⟩
      split
      · simp only [Relay.give, h, if_true]
        exact ⟨trivial, Or.inl ⟨trivial, fun _ hp => hp⟩⟩
      · exact ⟨h, Or.inl ⟨rfl, fun _ hp => hp⟩⟩
    · exact ⟨h, Or.inl ⟨rfl, fun _ hp => hp⟩⟩
  | fetch =>
    simp only [step, fetch]
    split
    · exact ⟨h, Or.inl ⟨rfl, fun _ hp => by simp at hp⟩⟩
    · exact ⟨h, Or.inl ⟨rfl, fun _ hp => hp⟩⟩
  | look =>
    simp only [step, look]
    split
    · exact ⟨h, Or.inl ⟨rfl, fun _ hp => by simp [h] at hp⟩⟩
    · exact ⟨h, Or.inl ⟨rfl, fun _ hp => hp⟩⟩
  | enter =>
    simp only [step, enter]
    split
    · rename_i p hp
      exact ⟨h, Or.inr ⟨p, hp, rfl, rfl⟩⟩
    · exact ⟨h, Or.inl ⟨rfl, fun _ hp => hp⟩⟩
  | release =>
    simp only [step, Relay.release]
    split <;> exact ⟨h, Or.inl ⟨rfl, fun _ hp => hp⟩⟩
  | cancel => exact ⟨rfl, Or.inl ⟨rfl, fun _ hp => hp⟩⟩
  | exit =>
    simp only [step]
    split <;> exact ⟨h, Or.inl ⟨rfl, fun _ hp => hp⟩⟩

/-- Of all that may follow a cancellation, at most the packet that was admitted before it is given. -/
theorem given_run_cancelled (h : t.relay.cancelled = true) (more : List Move) :
    (t.run more).relay.cancelled = true ∧
      (((t.run more).relay.given = t.relay.given ∧
          ∀ p, (t.run more).hand = .admitted p → t.hand = .admitted p) ∨
        ∃ p, t.hand = .admitted p ∧ (t.run more).relay.given = t.relay.given ++ [p] ∧
          ∀ q, (t.run more).hand ≠ .admitted q) := by
  induction more using List.reverseRecOn with
  | nil => exact ⟨h, Or.inl ⟨rfl, fun _ hp => hp⟩⟩
  | append_singleton more m ih =>
    rw [run_concat]
    obtain ⟨hcancelled, hsofar⟩ := ih
    obtain ⟨hstill, hstep⟩ := step_cancelled hcancelled m
    refine ⟨hstill, ?_⟩
    rcases hsofar with ⟨hgiven, hhand⟩ | ⟨p, hp, hgiven, hhand⟩
    · rcases hstep with ⟨hgiven', hhand'⟩ | ⟨p, hp, hgiven', hfree⟩
      · exact Or.inl ⟨hgiven'.trans hgiven, fun p hp => hhand p (hhand' p hp)⟩
      · refine Or.inr ⟨p, hhand p hp, by rw [hgiven', hgiven], fun q hq => ?_⟩
        simp [hfree] at hq
    · rcases hstep with ⟨hgiven', hhand'⟩ | ⟨q, hq, -, -⟩
      · exact Or.inr ⟨p, hp, hgiven'.trans hgiven, fun q hq => hhand q (hhand' q hq)⟩
      · exact absurd hq (hhand q)

end Cancelled

section End

/-- How many moves of the delivery are left at most. -/
def remaining (t : Traffic) : Nat :=
  4 * t.relay.queue.length + t.relay.held.toList.length +
    match t.hand with
    | .free => 0
    | .taken _ => 3
    | .admitted _ => 2

/-- The delivery is never stuck. -/
theorem exists_delivery_move (h : 0 < t.remaining) :
    ∃ m, (t.step m).remaining < t.remaining ∧ (t.step m).pushers = t.pushers ∧
      (t.step m).relay.cancelled = t.relay.cancelled := by
  obtain ⟨relay, hand, pushers, ended, pushes⟩ := t
  obtain ⟨capacity, queue, held, given, relayed, dropped, touched, cancelled⟩ := relay
  cases hand with
  | taken p =>
    refine ⟨.look, ?_, rfl, rfl⟩
    cases cancelled <;> simp [step, look, remaining]
  | admitted p =>
    refine ⟨.enter, ?_, rfl, rfl⟩
    simp only [step, enter, remaining, Option.toList_some, List.length_singleton]
    omega
  | free =>
    cases held with
    | some p => exact ⟨.release, by simp [step, Relay.release, remaining], rfl, rfl⟩
    | none =>
      cases queue with
      | nil => simp [remaining] at h
      | cons p rest =>
        refine ⟨.fetch, ?_, rfl, rfl⟩
        simp only [step, fetch, remaining, List.length_cons, Option.toList_none, List.length_nil]
        omega

/-- Once nobody pushes any more the delivery can come to its end. -/
theorem exists_run_ended (h : t.pushers = 0) :
    ∃ more, (t.run more).ended = true ∧ (t.run more).relay.cancelled = t.relay.cancelled := by
  induction hn : t.remaining using Nat.strongRecOn generalizing t with
  | ind n ih =>
    by_cases hpos : 0 < t.remaining
    · obtain ⟨m, hlt, hpushers, hcancelled⟩ := exists_delivery_move hpos
      obtain ⟨more, hended, hsame⟩ :=
        ih (t.step m).remaining (hn ▸ hlt) (hpushers.trans h) rfl
      exact ⟨m :: more, hended, hsame.trans hcancelled⟩
    · have hidle : t.Idle := by
        unfold remaining at hpos
        refine ⟨h, List.length_eq_zero_iff.mp (by omega), ?_, ?_⟩
        · cases hhand : t.hand with
          | free => rfl
          | taken p => simp [hhand] at hpos
          | admitted p => simp [hhand] at hpos
        · cases hheld : t.relay.held with
          | none => rfl
          | some p => simp [hheld] at hpos
      refine ⟨[.exit], ?_, ?_⟩
      · change (t.step .exit).ended = true
        simp only [step, if_pos hidle]
      · change (t.step .exit).relay.cancelled = t.relay.cancelled
        simp only [step, if_pos hidle]

end End

/-- At every moment of every schedule the queue is within its capacity and drops exactly when it is
full. Without a cancellation nothing is lost, doubled or reordered on its way to the owner, and
every push is accounted for; after one, at most a packet that was admitted before is given, and
what is discarded counts neither as relayed nor as dropped. -/
theorem run_accounts (hcap : 0 < capacity) (moves : List Move) :
    let t := (start capacity).run moves
    t.relay.queue.length ≤ capacity ∧
    (0 < t.pushers → ∀ p, (t.step (.push p)).pushes =
      t.pushes ++ [(p, decide (t.relay.queue.length = capacity))]) ∧
    (t.relay.cancelled = false →
      t.relay.given ++ t.hand.packets ++ t.relay.queue = t.accepted ∧
      t.pushes.length =
        t.relay.relayed + t.relay.dropped + t.relay.queue.length +
          t.relay.held.toList.length + t.hand.packets.length ∧
      (t.ended = true → t.relay.relayed + t.relay.dropped = t.pushes.length)) ∧
    (t.relay.cancelled = true → ∀ more,
      (t.run more).relay.given = t.relay.given ∨
        ∃ p, t.hand = .admitted p ∧ (t.run more).relay.given = t.relay.given ++ [p]) ∧
    t.relay.relayed + t.relay.held.toList.length = t.relay.given.length ∧
    t.relay.dropped = t.refused ∧
    (t.pushers = 0 → ∃ more, (t.run more).ended = true ∧
      (t.run more).relay.cancelled = t.relay.cancelled) := by
  intro t
  have hsound : t.Sound capacity := sound_run hcap moves
  refine ⟨hsound.bounded, ?_, ?_, ?_, hsound.counted, hsound.dropped_eq, exists_run_ended⟩
  · intro hp p
    rw [step, if_pos hp]
    exact hsound.pushes_push hcap p
  · intro hno
    refine ⟨hsound.whole hno, hsound.length_pushes hno, ?_⟩
    intro hended
    obtain ⟨-, hqueue, hhand, hheld⟩ := hsound.idle hended
    have hlength := hsound.length_pushes hno
    rw [hqueue, hhand, hheld] at hlength
    simpa [Hand.packets] using hlength.symm
  · intro hcancelled more
    rcases (given_run_cancelled hcancelled more).2 with ⟨hgiven, -⟩ | ⟨p, hp, hgiven, -⟩
    · exact Or.inl hgiven
    · exact Or.inr ⟨p, hp, hgiven⟩

/-- A cancellation between the look at a packet and its way to the owner: of three packets the first
is still given, the second never, and the third found the queue full. -/
theorem run_accounts_interrupted :
    let packet := fun n : UInt8 => (⟨0, .rtp, [n]⟩ : Packet)
    let t := (start 1).run
      [.push (packet 1), .fetch, .look, .clone, .push (packet 2), .push (packet 3), .cancel]
    0 < 1 ∧ t.pushes = [(packet 1, false), (packet 2, false), (packet 3, true)] ∧
      t.relay.queue = [packet 2] ∧ t.relay.dropped = 1 ∧
      (t.run [.enter, .release, .fetch, .look, .enter]).relay.given = [packet 1] ∧
      ∀ more, (t.run more).relay.given = [] ∨
        ∃ p, t.hand = .admitted p ∧ (t.run more).relay.given = [p] :=
  ⟨by decide, by decide, by decide, by decide, by decide,
    (run_accounts (by decide) [.push ⟨0, .rtp, [1]⟩, .fetch, .look, .clone, .push ⟨0, .rtp, [2]⟩,
      .push ⟨0, .rtp, [3]⟩, .cancel]).2.2.2.1 (by decide)⟩

end Rtsp.Relay.Traffic
