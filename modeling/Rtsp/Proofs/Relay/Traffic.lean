import Mathlib.Data.List.Induction
import Rtsp.Relay

/-!
A relay at work between those who push into it and the delivery, which go on independently of each
other. The delivery takes the head of the queue, looks whether there was a cancellation, gives the
packet to the owner and waits until the owner is done with it; each of these is a move of its own,
between any two of which others push, come or go, or a cancellation is requested. A move that is
not possible changes nothing, so that every list of moves is a schedule.

Whatever the schedule, the queue keeps within its capacity, what was given, held and queued is what
was pushed and not dropped, and every packet is counted where it belongs.
-/
namespace Rtsp.Relay

/-- What the delivery has taken and not yet given to the owner. A packet is admitted once there was
no cancellation to be seen. -/
inductive Hand
  | free
  | taken (p : Packet)
  | admitted (p : Packet)
  deriving DecidableEq, Repr

def Hand.packets : Hand → List Packet
  | .free => []
  | .taken p => [p]
  | .admitted p => [p]

/-- A relay, what its delivery has in hand, how many there are to push, whether the delivery has
come to its end, and all pushes so far, each with whether it was dropped. -/
structure Traffic where
  relay : Relay
  hand : Hand
  pushers : Nat
  ended : Bool
  pushes : List (Packet × Bool)
  deriving DecidableEq, Repr

inductive Move
  | clone
  | leave
  | push (p : Packet)
  | fetch
  | look
  | enter
  | release
  | cancel
  | exit
  deriving DecidableEq, Repr

namespace Traffic

def start (capacity : Nat) : Traffic := ⟨.start capacity, .free, 1, false, []⟩

/-- A push counts as dropped if it raises the number of dropped packets. -/
def push (t : Traffic) (p : Packet) : Traffic :=
  let relay := t.relay.push p
  { t with relay := relay, pushes := t.pushes ++ [(p, decide (t.relay.dropped < relay.dropped))] }

/-- The head of the queue is taken; nothing is decided about it. -/
def fetch (t : Traffic) : Traffic :=
  match t.hand, t.relay.held, t.relay.queue with
  | .free, none, p :: rest => { t with relay := { t.relay with queue := rest }, hand := .taken p }
  | _, _, _ => t

/-- After a cancellation a packet that was taken is discarded. -/
def look (t : Traffic) : Traffic :=
  match t.hand with
  | .taken p => { t with hand := if t.relay.cancelled then .free else .admitted p }
  | _ => t

/-- The owner is given the packet, whatever happens meanwhile. -/
def enter (t : Traffic) : Traffic :=
  match t.hand with
  | .admitted p =>
    { t with relay := { t.relay with held := some p, given := t.relay.given ++ [p] }, hand := .free }
  | _ => t

/-- Nobody is left to push, and nothing is left to deliver. -/
def Idle (t : Traffic) : Prop :=
  t.pushers = 0 ∧ t.relay.queue = [] ∧ t.hand = .free ∧ t.relay.held = none

instance (t : Traffic) : Decidable t.Idle :=
  inferInstanceAs (Decidable (t.pushers = 0 ∧ t.relay.queue = [] ∧ t.hand = .free ∧
    t.relay.held = none))

def step (t : Traffic) : Move → Traffic
  | .clone => if 0 < t.pushers then { t with pushers := t.pushers + 1 } else t
  | .leave => { t with pushers := t.pushers - 1 }
  | .push p => if 0 < t.pushers then t.push p else t
  | .fetch => t.fetch
  | .look => t.look
  | .enter => t.enter
  | .release => { t with relay := t.relay.release }
  | .cancel => { t with relay := t.relay.cancel }
  | .exit => if t.Idle then { t with ended := true } else t

def run (t : Traffic) (moves : List Move) : Traffic := moves.foldl step t

theorem run_concat (t : Traffic) (moves : List Move) (m : Move) :
    t.run (moves ++ [m]) = (t.run moves).step m := by
  simp [run]

/-- The packets that were pushed and not dropped, in order. -/
def accepted (t : Traffic) : List Packet := (t.pushes.filter fun x => !x.2).map Prod.fst

/-- How many pushes were dropped. -/
def refused (t : Traffic) : Nat := t.pushes.countP fun x => x.2

theorem length_pushes (t : Traffic) : t.pushes.length = t.accepted.length + t.refused := by
  have hsplit := List.length_eq_countP_add_countP (fun x : Packet × Bool => x.2) (l := t.pushes)
  simp only [accepted, refused, List.length_map, ← List.countP_eq_length_filter]
  simpa [Nat.add_comm] using hsplit

/-- Taking a packet in one go is three moves of the delivery. -/
theorem run_take {t : Traffic} (h : t.hand = .free) :
    t.run [.fetch, .look, .enter] = { t with relay := t.relay.take } := by
  obtain ⟨relay, hand, pushers, ended, pushes⟩ := t
  obtain ⟨capacity, queue, held, given, relayed, dropped, touched, cancelled⟩ := relay
  simp only at h
  subst h
  cases held with
  | some p => rfl
  | none =>
    cases queue with
    | nil => rfl
    | cons p rest => cases cancelled <;> rfl

/-- What holds at every moment of every schedule. -/
structure Sound (capacity : Nat) (t : Traffic) : Prop where
  capacity_eq : t.relay.capacity = capacity
  bounded : t.relay.queue.length ≤ capacity
  counted : t.relay.relayed + t.relay.held.toList.length = t.relay.given.length
  dropped_eq : t.relay.dropped = t.refused
  single : t.hand ≠ .free → t.relay.held = none
  ordered : List.Sublist (t.relay.given ++ t.hand.packets ++ t.relay.queue) t.accepted
  whole : t.relay.cancelled = false →
    t.relay.given ++ t.hand.packets ++ t.relay.queue = t.accepted
  idle : t.ended = true → t.Idle

theorem sound_start (capacity : Nat) : (start capacity).Sound capacity where
  capacity_eq := rfl
  bounded := Nat.zero_le capacity
  counted := rfl
  dropped_eq := rfl
  single := fun h => absurd rfl h
  ordered := List.Sublist.slnil
  whole := fun _ => rfl
  idle := fun h => absurd h Bool.false_ne_true

variable {capacity : Nat} {t : Traffic}

/-- While there is room a push is queued. -/
theorem push_of_room (h : t.Sound capacity) (hroom : t.relay.queue.length < capacity)
    (p : Packet) :
    t.push p =
      { t with
        relay := { t.relay with touched := true, queue := t.relay.queue ++ [p] }
        pushes := t.pushes ++ [(p, false)] } := by
  have hlt : t.relay.queue.length < t.relay.capacity := by rwa [h.capacity_eq]
  simp only [push, Relay.push, if_pos hlt, Nat.lt_irrefl, decide_false]

/-- A push into a full queue is dropped. -/
theorem push_of_full (hcap : 0 < capacity) (h : t.Sound capacity)
    (hfull : t.relay.queue.length = capacity) (p : Packet) :
    t.push p =
      { t with
        relay := { t.relay with touched := true, dropped := t.relay.dropped + 1 }
        pushes := t.pushes ++ [(p, true)] } := by
  have hno : ¬ t.relay.queue.length < t.relay.capacity := by rw [h.capacity_eq]; omega
  have hroom : ¬ (t.relay.capacity = 0 ∧ t.relay.held = none) := by rw [h.capacity_eq]; omega
  simp only [push, Relay.push, if_neg hno, if_neg hroom, Nat.lt_succ_self, decide_true]

theorem Sound.push (hcap : 0 < capacity) (h : t.Sound capacity) (hp : 0 < t.pushers)
    (p : Packet) : (t.push p).Sound capacity := by
  have hended : t.ended = true → False := fun he => by
    have := (h.idle he).1
    omega
  by_cases hroom : t.relay.queue.length < capacity
  · rw [push_of_room h hroom]
    have haccepted : (t.pushes ++ [(p, false)]).filter (fun x => !x.2) =
        t.pushes.filter (fun x => !x.2) ++ [(p, false)] := by simp
    constructor
    · exact h.capacity_eq
    · simp only [List.length_append, List.length_cons, List.length_nil]
      omega
    · exact h.counted
    · simp only [refused, List.countP_append, List.countP_singleton]
      exact h.dropped_eq
    · exact h.single
    · simp only [accepted, haccepted, List.map_append]
      rw [← List.append_assoc]
      exact h.ordered.append (List.Sublist.refl [p])
    · intro hcancelled
      simp only [accepted, haccepted, List.map_append]
      rw [← List.append_assoc, h.whole hcancelled]
      rfl
    · exact fun he => (hended he).elim
  · have hfull : t.relay.queue.length = capacity := by
      have := h.bounded
      omega
    rw [push_of_full hcap h hfull]
    have haccepted : (t.pushes ++ [(p, true)]).filter (fun x => !x.2) =
        t.pushes.filter (fun x => !x.2) := by simp
    constructor
    · exact h.capacity_eq
    · exact h.bounded
    · exact h.counted
    · simp only [refused, List.countP_append, List.countP_singleton, h.dropped_eq]
      rfl
    · exact h.single
    · simp only [accepted, haccepted]
      exact h.ordered
    · intro hcancelled
      simp only [accepted, haccepted]
      exact h.whole hcancelled
    · exact fun he => (hended he).elim

theorem Sound.fetch (h : t.Sound capacity) : t.fetch.Sound capacity := by
  unfold Traffic.fetch
  split
  · rename_i p rest hhand hheld hqueue
    have hmove : t.relay.given ++ [p] ++ rest =
        t.relay.given ++ t.hand.packets ++ t.relay.queue := by
      rw [hhand, hqueue]
      simp [Hand.packets]
    constructor
    · exact h.capacity_eq
    · have := h.bounded
      rw [hqueue, List.length_cons] at this
      exact Nat.le_of_succ_le this
    · exact h.counted
    · exact h.dropped_eq
    · exact fun _ => hheld
    · exact hmove ▸ h.ordered
    · exact fun hcancelled => hmove.trans (h.whole hcancelled)
    · intro he
      have := (h.idle he).2.1
      simp [hqueue] at this
  · exact h

theorem Sound.look (h : t.Sound capacity) : t.look.Sound capacity := by
  unfold Traffic.look
  split
  · rename_i p hhand
    have hended : t.ended = true → False := fun he => by
      have := (h.idle he).2.2.1
      simp [hhand] at this
    by_cases hcancelled : t.relay.cancelled = true
    · rw [if_pos hcancelled]
      refine ⟨h.capacity_eq, h.bounded, h.counted, h.dropped_eq, fun hne => absurd rfl hne, ?_, ?_,
        fun he => (hended he).elim⟩
      · have hless : List.Sublist (t.relay.given ++ [] ++ t.relay.queue)
            (t.relay.given ++ t.hand.packets ++ t.relay.queue) :=
          ((List.Sublist.refl _).append (List.nil_sublist _)).append (List.Sublist.refl _)
        exact hless.trans h.ordered
      · intro hno
        exact absurd hcancelled (Bool.eq_false_iff.mp hno)
    · rw [if_neg hcancelled]
      have hsame : Hand.packets (.admitted p) = t.hand.packets := by rw [hhand]; rfl
      refine ⟨h.capacity_eq, h.bounded, h.counted, h.dropped_eq, ?_, ?_, ?_,
        fun he => (hended he).elim⟩
      · exact fun _ => h.single (by simp [hhand])
      · rw [hsame]
        exact h.ordered
      · rw [hsame]
        exact h.whole
  · exact h

theorem Sound.enter (h : t.Sound capacity) : t.enter.Sound capacity := by
  unfold Traffic.enter
  split
  · rename_i p hhand
    have hheld : t.relay.held = none := h.single (by simp [hhand])
    have hmove : t.relay.given ++ [p] ++ [] ++ t.relay.queue =
        t.relay.given ++ t.hand.packets ++ t.relay.queue := by
      rw [hhand, List.append_nil]
      rfl
    have hcounted := h.counted
    rw [hheld] at hcounted
    refine ⟨h.capacity_eq, h.bounded, ?_, h.dropped_eq, fun hne => absurd rfl hne, ?_, ?_, ?_⟩
    · simpa using hcounted
    · exact hmove ▸ h.ordered
    · exact fun hcancelled => hmove.trans (h.whole hcancelled)
    · intro he
      have := (h.idle he).2.2.1
      simp [hhand] at this
  · exact h

theorem Sound.release (h : t.Sound capacity) :
    ({ t with relay := t.relay.release } : Traffic).Sound capacity := by
  unfold Relay.release
  split
  · rename_i p hheld
    have hcounted := h.counted
    rw [hheld] at hcounted
    refine ⟨h.capacity_eq, h.bounded, ?_, h.dropped_eq, fun _ => rfl, h.ordered, h.whole, ?_⟩
    · simpa using hcounted
    · intro he
      have := (h.idle he).2.2.2
      simp [hheld] at this
  · exact h

theorem Sound.clone (h : t.Sound capacity) (hp : 0 < t.pushers) :
    ({ t with pushers := t.pushers + 1 } : Traffic).Sound capacity where
  __ := h
  idle he := by
    have := (h.idle he).1
    omega

theorem Sound.leave (h : t.Sound capacity) :
    ({ t with pushers := t.pushers - 1 } : Traffic).Sound capacity where
  __ := h
  idle he := by
    obtain ⟨hp, hrest⟩ := h.idle he
    refine ⟨?_, hrest⟩
    change t.pushers - 1 = 0
    omega

/-- One move. -/
theorem Sound.step (hcap : 0 < capacity) (h : t.Sound capacity) (m : Move) :
    (t.step m).Sound capacity := by
  cases m with
  | clone =>
    simp only [Traffic.step]
    split
    · rename_i hp
      exact h.clone hp
    · exact h
  | leave => exact h.leave
  | push p =>
    simp only [Traffic.step]
    split
    · rename_i hp
      exact h.push hcap hp p
    · exact h
  | fetch => exact h.fetch
  | look => exact h.look
  | enter => exact h.enter
  | release => exact h.release
  | cancel => exact { h with whole := fun hno => absurd hno (by simp [Traffic.step, Relay.cancel]) }
  | exit =>
    simp only [Traffic.step]
    split
    · rename_i hidle
      exact { h with idle := fun _ => hidle }
    · exact h

/-- A whole schedule. -/
theorem sound_run (hcap : 0 < capacity) (moves : List Move) :
    ((start capacity).run moves).Sound capacity := by
  induction moves using List.reverseRecOn with
  | nil => exact sound_start capacity
  | append_singleton moves m ih =>
    rw [run_concat]
    exact ih.step hcap m

end Traffic

end Rtsp.Relay
