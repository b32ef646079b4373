import Rtsp.Proofs.Relay.Traffic

/-!
A relay whose delivery takes a packet and gives it, or discards it, in one go. Between two such
moves nothing is in hand, so that what was accepted is given or queued, whatever room the queue has,
and also if it has none. When nobody pushes any more the owner is given the rest, unless there was a
cancellation.
-/
namespace Rtsp.Relay

section Given

variable {r : Relay}

theorem given_give (r : Relay) (p : Packet) : r.given <+: (r.give p).given := by
  unfold give
  split
  · exact List.prefix_rfl
  · exact List.prefix_append _ _

theorem given_push (r : Relay) (p : Packet) : r.given <+: (r.push p).given := by
  unfold push
  dsimp only
  split
  · exact List.prefix_rfl
  split
  · exact given_give { r with touched := true } p
  · exact List.prefix_rfl

theorem given_take (r : Relay) : r.given <+: r.take.given := by
  unfold take
  split
  · rename_i p rest _ _
    exact given_give { r with queue := rest } p
  · exact List.prefix_rfl

theorem given_release (r : Relay) : r.release.given = r.given := by
  unfold release
  split <;> rfl

theorem cancelled_give (r : Relay) (p : Packet) : (r.give p).cancelled = r.cancelled := by
  unfold give
  split <;> rfl

theorem cancelled_push (r : Relay) (p : Packet) : (r.push p).cancelled = r.cancelled := by
  unfold push
  dsimp only
  split
  · rfl
  split
  · exact cancelled_give { r with touched := true } p
  · rfl

theorem cancelled_take (r : Relay) : r.take.cancelled = r.cancelled := by
  unfold take
  split
  · exact cancelled_give { r with queue := _ } _
  · rfl

theorem cancelled_release (r : Relay) : r.release.cancelled = r.cancelled := by
  unfold release
  split <;> rfl

end Given

section Close

variable {r : Relay} {P : Relay → Prop}

/-- What every taking and every release keeps is so after the end. -/
theorem settle_induction (htake : ∀ r, P r → P r.take) (h : P r) : P r.settle := by
  have hfold : ∀ (l : List Nat) (r : Relay), P r → P (l.foldl (fun r _ => r.take) r) := by
    intro l
    induction l with
    | nil => exact fun r hr => hr
    | cons i rest ih => exact fun r hr => ih _ (htake r hr)
  exact hfold _ r h

theorem close_induction (htake : ∀ r, P r → P r.take) (hrelease : ∀ r, P r → P r.release)
    (h : P r) : P r.close := by
  have hfold : ∀ (l : List Nat) (r : Relay), P r →
      P (l.foldl (fun r _ => r.settle.release) r) := by
    intro l
    induction l with
    | nil => exact fun r hr => hr
    | cons i rest ih => exact fun r hr => ih _ (hrelease _ (settle_induction htake hr))
  exact hfold _ r h

theorem given_close (r : Relay) : r.given <+: r.close.given :=
  close_induction (P := fun r' => r.given <+: r'.given)
    (fun r' h => h.trans r'.given_take) (fun r' h => (given_release r').symm ▸ h) List.prefix_rfl

theorem cancelled_close (r : Relay) : r.close.cancelled = r.cancelled :=
  close_induction (P := fun r' => r'.cancelled = r.cancelled)
    (fun r' h => (cancelled_take r').trans h) (fun r' h => (cancelled_release r').trans h) rfl

theorem take_of_held {p : Packet} (h : r.held = some p) : r.take = r := by
  unfold take
  split
  · rename_i hnone _
    rw [h] at hnone
    cases hnone
  · rfl

/-- A delivery that holds a packet takes no other. -/
theorem settle_of_held {p : Packet} (h : r.held = some p) : r.settle = r :=
  settle_induction (P := fun r' => r' = r) (fun r' hr' => by rw [hr', take_of_held h]) rfl

theorem settle_of_queue {p : Packet} {rest : List Packet} (hno : r.cancelled = false)
    (hheld : r.held = none) (hqueue : r.queue = p :: rest) :
    r.settle = { r with queue := rest, held := some p, given := r.given ++ [p] } := by
  have htake : r.take = { r with queue := rest, held := some p, given := r.given ++ [p] } := by
    simp only [take, hheld, hqueue, give, hno, Bool.false_eq_true, if_false]
  have hrest : ∀ l : List Nat, l.foldl (fun r _ => r.take) r.take = r.take := by
    intro l
    induction l with
    | nil => rfl
    | cons i l ih =>
      have hsame : r.take.take = r.take := take_of_held (p := p) (by rw [htake])
      rw [List.foldl_cons, hsame, ih]
  unfold settle
  rw [hqueue, List.length_cons, List.range_succ_eq_map, List.foldl_cons, hrest, htake]

/-- What is still to be delivered. -/
def load (r : Relay) : Nat := r.queue.length + r.held.toList.length

/-- The owner is done with a packet more. -/
theorem load_settle_release (hno : r.cancelled = false) :
    r.settle.release.load = r.load - 1 := by
  cases hheld : r.held with
  | some p => simp [settle_of_held hheld, release, hheld, load]
  | none =>
    cases hqueue : r.queue with
    | nil => simp [settle, hqueue, release, hheld, load]
    | cons p rest => simp [settle_of_queue hno hheld hqueue, release, hqueue, hheld, load]

/-- In the end nothing is left in the queue. -/
theorem queue_close (hno : r.cancelled = false) : r.close.queue = [] := by
  have hfold : ∀ (l : List Nat) (r : Relay), r.cancelled = false →
      (l.foldl (fun r _ => r.settle.release) r).load = r.load - l.length := by
    intro l
    induction l with
    | nil => exact fun r _ => rfl
    | cons i rest ih =>
      intro r hr
      have hkept : r.settle.release.cancelled = false := by
        rw [cancelled_release]
        exact settle_induction (P := fun r => r.cancelled = false)
          (fun r hr => (cancelled_take r).trans hr) hr
      rw [List.foldl_cons, ih _ hkept, load_settle_release hr, List.length_cons]
      omega
  have hload : r.close.load = 0 := by
    unfold close
    rw [hfold _ r hno, List.length_range]
    have hheld : r.held.toList.length ≤ 1 := by cases r.held <;> simp
    unfold load
    omega
  exact List.length_eq_zero_iff.mp (Nat.eq_zero_of_add_eq_zero_right hload)

end Close

namespace Traffic

variable {t : Traffic}

theorem run_append (t : Traffic) (a b : List Move) : t.run (a ++ b) = (t.run a).run b :=
  List.foldl_append

theorem run_cons (t : Traffic) (m : Move) (moves : List Move) :
    t.run (m :: moves) = (t.step m).run moves := rfl

/-- Between two events: the delivery has nothing in hand, and somebody is there to push. Whatever
room the queue has, and if it has none, nothing is given or queued that was not accepted, and
without a cancellation all that was. -/
structure Resting (t : Traffic) : Prop where
  free : t.hand = .free
  pushers : 0 < t.pushers
  bounded : t.relay.queue.length ≤ t.relay.capacity
  ordered : List.Sublist (t.relay.given ++ t.relay.queue) t.accepted
  whole : t.relay.cancelled = false → t.relay.given ++ t.relay.queue = t.accepted

theorem resting_start (capacity : Nat) : (start capacity).Resting where
  free := rfl
  pushers := Nat.one_pos
  bounded := Nat.zero_le capacity
  ordered := List.Sublist.slnil
  whole := fun _ => rfl

/-- What a push does to the relay: the packet is queued, or given at once, or it is dropped; after
a cancellation it may be discarded instead of being given. -/
theorem push_cases (r : Relay) (p : Packet) :
    (r.queue.length < r.capacity ∧ r.push p = { r with touched := true, queue := r.queue ++ [p] }) ∨
    (r.capacity = 0 ∧ r.cancelled = false ∧
      r.push p = { r with touched := true, held := some p, given := r.given ++ [p] }) ∨
    (r.cancelled = true ∧ r.push p = { r with touched := true }) ∨
    r.push p = { r with touched := true, dropped := r.dropped + 1 } := by
  unfold Relay.push
  by_cases hroom : r.queue.length < r.capacity
  · exact .inl ⟨hroom, if_pos hroom⟩
  by_cases hwaits : r.capacity = 0 ∧ r.held = none
  · cases hcancelled : r.cancelled with
    | false =>
      refine .inr (.inl ⟨hwaits.1, rfl, ?_⟩)
      simp only [if_neg hroom, if_pos hwaits, Relay.give, Bool.false_eq_true, if_false]
    | true =>
      refine .inr (.inr (.inl ⟨rfl, ?_⟩))
      simp only [if_neg hroom, if_pos hwaits, Relay.give, if_true]
  · exact .inr (.inr (.inr (by simp only [if_neg hroom, if_neg hwaits])))

/-- A push is on record, and accepted unless it was dropped. -/
theorem accepted_push (t : Traffic) (p : Packet) :
    (t.push p).accepted =
      t.accepted ++ if t.relay.dropped < (t.relay.push p).dropped then [] else [p] := by
  simp only [accepted, push, List.filter_append, List.map_append]
  by_cases h : t.relay.dropped < (t.relay.push p).dropped <;> simp [h]

theorem Resting.push (h : t.Resting) (p : Packet) : (t.push p).Resting := by
  have haccepted := t.accepted_push p
  have hrelay : (t.push p).relay = t.relay.push p := rfl
  obtain ⟨hroom, hpush⟩ | ⟨hnone, hno, hpush⟩ | ⟨hcancelled, hpush⟩ | hpush :=
    push_cases t.relay p
  · rw [hpush, if_neg (Nat.lt_irrefl _)] at haccepted
    rw [hpush] at hrelay
    refine ⟨h.free, h.pushers, ?_, ?_, ?_⟩
    · rw [hrelay]
      simp only [List.length_append, List.length_singleton]
      omega
    · rw [hrelay, haccepted, ← List.append_assoc]
      exact h.ordered.append (List.Sublist.refl [p])
    · intro hno
      rw [hrelay] at hno
      rw [hrelay, haccepted, ← List.append_assoc, h.whole hno]
  · have hqueue : t.relay.queue = [] := by
      have hbounded := h.bounded
      rw [hnone] at hbounded
      exact List.length_eq_zero_iff.mp (Nat.le_zero.mp hbounded)
    have hwhole := h.whole hno
    rw [hqueue, List.append_nil] at hwhole
    rw [hpush, if_neg (Nat.lt_irrefl _)] at haccepted
    rw [hpush] at hrelay
    have hall : (t.push p).relay.given ++ (t.push p).relay.queue = (t.push p).accepted := by
      rw [hrelay, haccepted, ← hwhole, hqueue, List.append_nil]
    refine ⟨h.free, h.pushers, ?_, hall ▸ List.Sublist.refl _, fun _ => hall⟩
    rw [hrelay]
    exact h.bounded
  · rw [hpush, if_neg (Nat.lt_irrefl _)] at haccepted
    rw [hpush] at hrelay
    refine ⟨h.free, h.pushers, by rw [hrelay]; exact h.bounded, ?_, ?_⟩
    · rw [hrelay, haccepted]
      exact h.ordered.trans (List.sublist_append_left _ _)
    · intro hno
      rw [hrelay] at hno
      exact absurd hcancelled (Bool.eq_false_iff.mp hno)
  · rw [hpush, if_pos (Nat.lt_succ_self _), List.append_nil] at haccepted
    rw [hpush] at hrelay
    refine ⟨h.free, h.pushers, by rw [hrelay]; exact h.bounded, ?_, ?_⟩
    · rw [hrelay, haccepted]
      exact h.ordered
    · intro hno
      rw [hrelay] at hno
      rw [hrelay, haccepted]
      exact h.whole hno

/-- What the delivery takes goes from the queue to the owner, or is discarded. -/
theorem Resting.take (h : t.Resting) : ({ t with relay := t.relay.take } : Traffic).Resting := by
  unfold Relay.take
  split
  · rename_i p rest hheld hqueue
    have hbounded := h.bounded
    have hordered := h.ordered
    have hwhole := h.whole
    rw [hqueue] at hbounded hordered hwhole
    cases hcancelled : t.relay.cancelled with
    | true =>
      simp only [Relay.give, if_true]
      refine ⟨h.free, h.pushers, Nat.le_of_succ_le hbounded, ?_, fun hno => by simp at hno⟩
      exact ((List.Sublist.refl _).append (List.sublist_cons_self p rest)).trans hordered
    | false =>
      have hmove : t.relay.given ++ [p] ++ rest = t.relay.given ++ p :: rest := by simp
      simp only [Relay.give, Bool.false_eq_true, if_false]
      refine ⟨h.free, h.pushers, Nat.le_of_succ_le hbounded, ?_, fun _ => ?_⟩
      · exact hmove ▸ hordered
      · exact hmove.trans (hwhole hcancelled)
  · exact h

theorem Resting.release (h : t.Resting) :
    ({ t with relay := t.relay.release } : Traffic).Resting := by
  unfold Relay.release
  split <;> exact ⟨h.free, h.pushers, h.bounded, h.ordered, h.whole⟩

theorem Resting.cancel (h : t.Resting) : ({ t with relay := t.relay.cancel } : Traffic).Resting :=
  ⟨h.free, h.pushers, h.bounded, h.ordered, fun hno => by simp [Relay.cancel] at hno⟩

/-- When nobody pushes any more, the owner is given what was accepted, unless there was a
cancellation. -/
theorem Resting.close (h : t.Resting) : ({ t with relay := t.relay.close } : Traffic).Resting :=
  close_induction (P := fun r => ({ t with relay := r } : Traffic).Resting)
    (fun _ hr => hr.take) (fun _ hr => hr.release) h

theorem Resting.given_close (h : t.Resting) (hno : t.relay.cancelled = false) :
    t.relay.close.given = t.accepted := by
  have hwhole : t.relay.close.given ++ t.relay.close.queue = t.accepted :=
    h.close.whole ((cancelled_close t.relay).trans hno)
  rwa [queue_close hno, List.append_nil] at hwhole

end Traffic

end Rtsp.Relay
