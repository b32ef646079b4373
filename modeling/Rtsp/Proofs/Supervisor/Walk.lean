import Mathlib.Data.List.Chain
import Mathlib.Data.List.DropRight
import Rtsp.Supervisor

/-!
A supervisor that is told anything in any order: events whether they fit or not, failures, sessions
that play, and questions to the owner. What it publishes is a walk along the arrows of a life, and
what it shares is where the walk has come to; an event for which there is no arrow is as if it had
not been. The record of failures is that of the calls that were made, whatever the state was.

The diagram of a life has no arrow for an attempt that fails before there is a connection. Such an
attempt closes like every other, so that the walks are those of the diagram with one arrow more.
-/
namespace Rtsp

namespace Lifecycle

/-- The diagram of a life, arrow by arrow. -/
inductive Drawn : State → Event → State → Prop
  | connected : Drawn .connecting .connected .handshaking
  | played : Drawn .handshaking .played .playing
  | refused : Drawn .handshaking .failed .closing
  | broken : Drawn .playing .failed .closing
  | again : Drawn .closing (.released true) .connecting
  | ended : Drawn .closing (.released false) .terminated
  | stopped {s : State} (h : s ≠ .terminated) : Drawn s .stop .terminated

/-- The arrows along which a source goes: those of the diagram, and one for an attempt that comes to
no connection. -/
inductive Arrow : State → Event → State → Prop
  | drawn {s next : State} {e : Event} (h : Drawn s e next) : Arrow s e next
  | undialled : Arrow .connecting .failed .closing

variable {s next : State} {e : Event}

theorem arrow_of_next? (h : next? s e = some next) : Arrow s e next := by
  cases s with
  | terminated => cases h
  | connecting =>
    cases e with
    | connected => exact Option.some.inj h ▸ .drawn .connected
    | failed => exact Option.some.inj h ▸ .undialled
    | stop => exact Option.some.inj h ▸ .drawn (.stopped fun hs => by cases hs)
    | _ => cases h
  | handshaking =>
    cases e with
    | played => exact Option.some.inj h ▸ .drawn .played
    | failed => exact Option.some.inj h ▸ .drawn .refused
    | stop => exact Option.some.inj h ▸ .drawn (.stopped fun hs => by cases hs)
    | _ => cases h
  | playing =>
    cases e with
    | failed => exact Option.some.inj h ▸ .drawn .broken
    | stop => exact Option.some.inj h ▸ .drawn (.stopped fun hs => by cases hs)
    | _ => cases h
  | closing =>
    cases e with
    | released retry =>
      cases retry with
      | true => exact Option.some.inj h ▸ .drawn .again
      | false => exact Option.some.inj h ▸ .drawn .ended
    | stop => exact Option.some.inj h ▸ .drawn (.stopped fun hs => by cases hs)
    | _ => cases h

theorem next?_of_arrow (h : Arrow s e next) : next? s e = some next := by
  cases h with
  | undialled => rfl
  | drawn h =>
    cases h with
    | stopped h =>
      cases s with
      | terminated => exact absurd rfl h
      | _ => rfl
    | _ => rfl

/-- An event fits where an arrow for it starts. -/
theorem next?_eq_some_iff : next? s e = some next ↔ Arrow s e next :=
  ⟨arrow_of_next?, next?_of_arrow⟩

theorem next?_eq_none_iff : next? s e = none ↔ ∀ next, ¬ Arrow s e next := by
  rw [Option.eq_none_iff_forall_ne_some]
  exact forall_congr' fun next => not_congr next?_eq_some_iff

theorem Arrow.from_handshaking (h : Arrow s e .playing) : s = .handshaking := by
  cases h with
  | drawn h => cases h; rfl

theorem Arrow.not_terminated (h : Arrow s e next) : s ≠ .terminated := by
  rintro rfl
  cases h with
  | drawn h =>
    cases h with
    | stopped h => exact h rfl

end Lifecycle

namespace Supervisor

open Lifecycle (Arrow)

/-- Anything that a supervisor may be told. -/
inductive Operation
  | fire (e : Lifecycle.Event)
  | fail (f : Fault)
  | play
  | pause (policy : Policy) (usual : Duration) (now : Clock)

namespace Operation

def fault? : Operation → Option Fault
  | .fail f => some f
  | _ => none

def isPlay : Operation → Bool
  | .play => true
  | _ => false

end Operation

/-- A question whose answer leads to a moment that the clock cannot tell leaves the supervisor as it
was. -/
def perform (s : Supervisor) : Operation → Supervisor
  | .fire e => s.fire e
  | .fail f => s.recordFailure f
  | .play => s.recordPlay
  | .pause policy usual now =>
    match s.pause policy usual now with
    | .ok (_, s) => s
    | .error _ => s

def run (s : Supervisor) (ops : List Operation) : Supervisor := ops.foldl perform s

/-- The faults that were recorded, in order. -/
def faultsOf (ops : List Operation) : List Fault := ops.filterMap Operation.fault?

/-- What was done since a session last began to play. -/
def sincePlay (ops : List Operation) : List Operation := ops.rtakeWhile fun o => !o.isPlay

variable {s : Supervisor} {e : Lifecycle.Event} {next : Lifecycle.State}

theorem run_concat (s : Supervisor) (ops : List Operation) (o : Operation) :
    s.run (ops ++ [o]) = (s.run ops).perform o :=
  List.foldl_concat ..

/-- An event that fits takes the supervisor along its arrow, and is published. -/
theorem fire_of_arrow (h : Arrow s.state e next) :
    s.fire e = ⟨next, next, s.published ++ [next], s.reconnect⟩ := by
  simp only [fire, Lifecycle.next?_eq_some_iff.mpr h, publish]

theorem fire_of_none (h : ∀ next, ¬ Arrow s.state e next) : s.fire e = s := by
  simp only [fire, Lifecycle.next?_eq_none_iff.mpr h]

theorem reconnect_fire (s : Supervisor) (e : Lifecycle.Event) :
    (s.fire e).reconnect = s.reconnect := by
  unfold fire
  split <;> rfl

section Pause

variable {policy : Policy} {usual : Duration} {now : Clock}

/-- A question changes nothing but the pause that is remembered, and that only if the owner wants one.
The clock can tell when it is over. -/
theorem pause_eq_ok {answer : Option Duration} {s' : Supervisor}
    (h : s.pause policy usual now = .ok (answer, s')) :
    policy s.reconnect usual = answer ∧
      (∀ pause, answer = some pause → (now.after? pause).isSome) ∧
      s' = { s with
        reconnect := { s.reconnect with pause := answer.or s.reconnect.pause } } := by
  unfold pause at h
  split at h
  · rename_i hnone
    obtain ⟨rfl, rfl⟩ := Prod.mk.inj (Except.ok.inj h)
    refine ⟨hnone, ?_, rfl⟩
    rintro _ ⟨⟩
  · rename_i pause hsome
    split at h
    · rename_i moment hmoment
      obtain ⟨rfl, rfl⟩ := Prod.mk.inj (Except.ok.inj h)
      refine ⟨hsome, ?_, rfl⟩
      rintro _ ⟨⟩
      exact hmoment ▸ rfl
    · cases h

theorem pause_eq_error {halt : Halt} (h : s.pause policy usual now = .error halt) :
    ∃ pause, policy s.reconnect usual = some pause ∧ now.after? pause = none := by
  unfold pause at h
  split at h
  · cases h
  · rename_i pause hsome
    split at h
    · cases h
    · rename_i hnone
      exact ⟨pause, hsome, hnone⟩

theorem exists_perform_pause (s : Supervisor) (policy : Policy) (usual : Duration) (now : Clock) :
    ∃ pause, s.perform (.pause policy usual now) =
      { s with reconnect := { s.reconnect with pause := pause } } := by
  unfold perform
  dsimp only
  split
  · rename_i heq
    exact ⟨_, (pause_eq_ok heq).2.2⟩
  · exact ⟨s.reconnect.pause, rfl⟩

end Pause

section Walk

/-- What is shared is the state, and so is the last of what was published, which is a walk from the
beginning of a life. -/
structure Walks (s : Supervisor) : Prop where
  shared : s.shared = s.state
  last : s.published.getLast? = some s.state
  first : s.published.head? = some .connecting
  chain : s.published.IsChain fun a b => ∃ e, Arrow a e b

theorem walks_start (r : Reconnect) : (start r).Walks :=
  ⟨rfl, rfl, rfl, List.isChain_singleton _⟩

theorem Walks.fire (h : s.Walks) (e : Lifecycle.Event) : (s.fire e).Walks := by
  cases hnext : Lifecycle.next? s.state e with
  | none => rwa [fire_of_none (Lifecycle.next?_eq_none_iff.mp hnext)]
  | some next =>
    have harrow := Lifecycle.next?_eq_some_iff.mp hnext
    rw [fire_of_arrow harrow]
    refine ⟨rfl, List.getLast?_concat, ?_, ?_⟩
    · rw [List.head?_append, h.first, Option.some_or]
    · refine h.chain.append (List.isChain_singleton next) fun a ha b hb => ?_
      rw [h.last, Option.mem_some] at ha
      rw [List.head?_cons, Option.mem_some] at hb
      exact ⟨e, ha ▸ hb ▸ harrow⟩

/-- The record of failures has no part in the walk. -/
theorem Walks.congr {s' : Supervisor} (h : s.Walks) (hstate : s'.state = s.state)
    (hshared : s'.shared = s.shared) (hpublished : s'.published = s.published) : s'.Walks := by
  refine ⟨?_, ?_, ?_, ?_⟩
  · rw [hshared, hstate, h.shared]
  · rw [hpublished, hstate, h.last]
  · rw [hpublished, h.first]
  · rw [hpublished]
    exact h.chain

theorem Walks.perform (h : s.Walks) (o : Operation) : (s.perform o).Walks := by
  cases o with
  | fire e => exact h.fire e
  | fail f => exact h.congr rfl rfl rfl
  | play => exact h.congr rfl rfl rfl
  | pause policy usual now =>
    obtain ⟨pause, hpause⟩ := s.exists_perform_pause policy usual now
    rw [hpause]
    exact h.congr rfl rfl rfl

theorem Walks.run (h : s.Walks) (ops : List Operation) : (s.run ops).Walks := by
  induction ops generalizing s with
  | nil => exact h
  | cons o rest ih => exact ih (h.perform o)

/-- The states that were published one after the other. -/
theorem Walks.arrow (h : s.Walks) {a b : Lifecycle.State} (hab : [a, b] <:+: s.published) :
    ∃ e, Arrow a e b := by
  rw [← List.isChain_pair (R := fun a b => ∃ e, Arrow a e b)]
  exact List.IsChain.infix h.chain hab

end Walk

section Record

/-- The record is that of the calls: the failures since a session last began to play, added to those
at the beginning if none ever did, the kind of the last failure, and whether UDP was given up. -/
structure Accounts (r : Reconnect) (ops : List Operation) (r' : Reconnect) : Prop where
  failures : r'.failures =
    (faultsOf (sincePlay ops)).length + if ops.any Operation.isPlay then 0 else r.failures
  lastFault : r'.lastFault = ((faultsOf ops).getLast?.map Fault.kind).or r.lastFault
  forceTcp : r'.forceTcp = true ↔ r.forceTcp = true ∨ ∃ reason, .fallback reason ∈ faultsOf ops

variable {r r' : Reconnect} {ops : List Operation} {o : Operation}

theorem accounts_nil (r : Reconnect) : Accounts r [] r where
  failures := (Nat.zero_add _).symm
  lastFault := rfl
  forceTcp := by simp [faultsOf]

theorem faultsOf_concat (ops : List Operation) (o : Operation) :
    faultsOf (ops ++ [o]) = faultsOf ops ++ o.fault?.toList := by
  rw [faultsOf, List.filterMap_append]
  cases ho : o.fault? <;> simp [faultsOf, ho]

theorem sincePlay_concat (ops : List Operation) (o : Operation) :
    sincePlay (ops ++ [o]) = if o.isPlay then [] else sincePlay ops ++ [o] := by
  rw [sincePlay, List.rtakeWhile_concat]
  cases o.isPlay <;> rfl

theorem any_isPlay_concat (ops : List Operation) (o : Operation) :
    (ops ++ [o]).any Operation.isPlay = (ops.any Operation.isPlay || o.isPlay) := by
  simp

/-- What is neither a failure nor the beginning of a session leaves the record alone. -/
theorem Accounts.keep (h : Accounts r ops r') (hfault : o.fault? = none) (hplay : o.isPlay = false)
    {r'' : Reconnect} (hkept : r''.failures = r'.failures ∧ r''.lastFault = r'.lastFault ∧
      r''.forceTcp = r'.forceTcp) : Accounts r (ops ++ [o]) r'' := by
  have hfaults : faultsOf (ops ++ [o]) = faultsOf ops := by
    rw [faultsOf_concat, hfault]
    exact List.append_nil _
  have hsince : faultsOf (sincePlay (ops ++ [o])) = faultsOf (sincePlay ops) := by
    rw [sincePlay_concat, hplay, if_neg Bool.false_ne_true, faultsOf_concat, hfault]
    exact List.append_nil _
  refine ⟨?_, ?_, ?_⟩
  · rw [hkept.1, h.failures, hsince, any_isPlay_concat, hplay, Bool.or_false]
  · rw [hkept.2.1, h.lastFault, hfaults]
  · rw [hkept.2.2, h.forceTcp, hfaults]

theorem Accounts.fail (h : Accounts r ops r') (f : Fault) :
    Accounts r (ops ++ [.fail f]) (r'.fail f) := by
  have hfaults : faultsOf (ops ++ [.fail f]) = faultsOf ops ++ [f] := faultsOf_concat ops _
  have hsince : faultsOf (sincePlay (ops ++ [.fail f])) = faultsOf (sincePlay ops) ++ [f] := by
    rw [sincePlay_concat]
    exact faultsOf_concat _ _
  have hkind : (f.kind == .fallback) = true ↔ ∃ reason, .fallback reason = f := by
    cases f <;> simp [Fault.kind]
  refine ⟨?_, ?_, ?_⟩
  · have hany : (ops ++ [Operation.fail f]).any Operation.isPlay = ops.any Operation.isPlay :=
      (any_isPlay_concat ops _).trans (Bool.or_false _)
    rw [hsince, hany, List.length_append, List.length_singleton, Nat.add_right_comm, ← h.failures]
    rfl
  · rw [hfaults, List.getLast?_concat]
    rfl
  · rw [hfaults]
    simp only [Reconnect.fail, Bool.or_eq_true, h.forceTcp, hkind, List.mem_append,
      List.mem_singleton, exists_or, or_assoc]

theorem Accounts.play (h : Accounts r ops r') : Accounts r (ops ++ [.play]) r'.play := by
  have hfaults : faultsOf (ops ++ [.play]) = faultsOf ops :=
    (faultsOf_concat ops _).trans (List.append_nil _)
  refine ⟨?_, ?_, ?_⟩
  · rw [sincePlay_concat, any_isPlay_concat]
    simp [Operation.isPlay, faultsOf, Reconnect.play]
  · rw [hfaults]
    exact h.lastFault
  · rw [hfaults]
    exact h.forceTcp

theorem Accounts.perform (h : Accounts r ops s.reconnect) (o : Operation) :
    Accounts r (ops ++ [o]) (s.perform o).reconnect := by
  cases o with
  | fire e =>
    have hfire : (s.perform (.fire e)).reconnect = s.reconnect := s.reconnect_fire e
    exact h.keep rfl rfl (hfire ▸ ⟨rfl, rfl, rfl⟩)
  | fail f => exact h.fail f
  | play => exact h.play
  | pause policy usual now =>
    obtain ⟨pause, hpause⟩ := s.exists_perform_pause policy usual now
    rw [hpause]
    exact h.keep rfl rfl ⟨rfl, rfl, rfl⟩

theorem accounts_run (s : Supervisor) (ops : List Operation) :
    Accounts s.reconnect ops (s.run ops).reconnect := by
  induction ops using List.reverseRecOn with
  | nil => exact accounts_nil s.reconnect
  | append_singleton ops o ih =>
    rw [run_concat]
    exact ih.perform o

end Record

/-- Whatever a supervisor has been told: what it shares is its state and the last that it published.
What it published is a walk along the arrows from the state of connecting, in which that of playing
comes only after that of handshaking, and nothing after the end. The next event takes it along an
arrow and is published, or there is no arrow for it and nothing changes. The failures are those
since a session last began to play, the last fault is that of the last failure, and UDP is given up
once a failure was that it is of no use. -/
theorem run_walks_arrows (r : Reconnect) (ops : List Operation) :
    let s := (start r).run ops
    (s.shared = s.state ∧ s.published.getLast? = some s.state) ∧
    (s.published.head? = some .connecting ∧ ∀ a b, [a, b] <:+: s.published →
      (∃ e, Arrow a e b) ∧ (b = .playing → a = .handshaking) ∧ a ≠ .terminated) ∧
    (∀ e, (∀ next, Arrow s.state e next →
        s.fire e = ⟨next, next, s.published ++ [next], s.reconnect⟩) ∧
      ((∀ next, ¬ Arrow s.state e next) → s.fire e = s)) ∧
    s.reconnect.failures =
      (faultsOf (sincePlay ops)).length + (if ops.any Operation.isPlay then 0 else r.failures) ∧
    s.reconnect.lastFault = ((faultsOf ops).getLast?.map Fault.kind).or r.lastFault ∧
    (s.reconnect.forceTcp = true ↔
      r.forceTcp = true ∨ ∃ reason, .fallback reason ∈ faultsOf ops) := by
  intro s
  have hwalks : s.Walks := (walks_start r).run ops
  have haccounts : Accounts r ops s.reconnect := accounts_run (start r) ops
  refine ⟨⟨hwalks.shared, hwalks.last⟩, ⟨hwalks.first, fun a b hab => ?_⟩,
    fun e => ⟨fun next => fire_of_arrow, fire_of_none⟩, haccounts.failures, haccounts.lastFault,
    haccounts.forceTcp⟩
  obtain ⟨e, harrow⟩ := hwalks.arrow hab
  refine ⟨⟨e, harrow⟩, ?_, harrow.not_terminated⟩
  rintro rfl
  exact harrow.from_handshaking

/-- An attempt that fails before there is a connection. The diagram has no arrow for what is
published then. -/
theorem undialled_not_drawn :
    let s := (start .fresh).run [.fire .failed]
    s.published = [.connecting, .closing] ∧
      ¬ s.published.IsChain fun a b => ∃ e, Lifecycle.Drawn a e b := by
  intro s
  have hpublished : s.published = [.connecting, .closing] := rfl
  refine ⟨hpublished, fun hchain => ?_⟩
  rw [hpublished, List.isChain_pair] at hchain
  obtain ⟨e, hdrawn⟩ := hchain
  cases hdrawn

end Supervisor

end Rtsp
