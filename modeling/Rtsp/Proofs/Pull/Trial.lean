import Rtsp.Proofs.Supervisor.Walk
import Rtsp.Pull.Source

/-!
The attempts of a run one by one. Each meets a fate: it fails for some reason, and a stop was requested
by then or not. A fault without a stop goes on record. If it is terminal it is told to the owner, as the
last thing before the end; else the owner is asked when to try again, and the next attempt is waited
for, unless the owner declines.

A worker can be lost on the way, and then leaves everything as it is. What a server sends can take it
away in the midst of an attempt, and what the owner wants can do so after one: a pause that is over at
a moment that the clock cannot tell. Every other attempt is survived.
-/
namespace Rtsp.Pull

structure Fate where
  halt : Halt
  stopped : Bool

namespace Fate

/-- The attempt failed, and the worker was not lost to what is no fault. -/
def IsFault (x : Fate) : Prop := ∃ f, x.halt = .fault f

/-- The fault that the owner is told of. -/
def reported? (x : Fate) : Option Fault :=
  match x.halt with
  | .fault f => if x.stopped = false ∧ f.isTerminal then some f else none
  | .overflow | .stray => none

end Fate

def Worker.fate (w : Worker) (a : Attempt) : Fate :=
  ⟨(w.attempt a).1, (w.attempt a).2.1 || a.stopped⟩

/-- An attempt, the worker that makes it, and the answers that the owner gives. -/
structure Trial where
  policies : Policies
  worker : Worker
  attempt : Attempt

namespace Trial

def fate (t : Trial) : Fate := t.worker.fate t.attempt

/-- What follows from the attempt. -/
def stage (t : Trial) : Worker.Stage := t.worker.step t.policies t.attempt

/-- The worker as the attempt leaves it. -/
def left (t : Trial) : Worker := (t.worker.attempt t.attempt).2.2

/-- The worker with the failure of the attempt on record. -/
def failed (t : Trial) (f : Fault) : Worker := (t.left.fire .failed).recordFailure f

/-- The fault that goes on record: that of an attempt that was not stopped. -/
def recorded? (t : Trial) : Option Fault :=
  match t.fate.halt with
  | .fault f => if f = .cancelled ∨ t.fate.stopped then none else some f
  | .overflow | .stray => none

/-- The fault that the owner is told of. -/
def reported? (t : Trial) : Option Fault := t.fate.reported?

/-- The pause that the owner wants after the attempt, if it is asked. -/
def wanted? (t : Trial) : Option Duration :=
  t.recorded?.bind fun f => if f.isTerminal then none else (t.failed f).wish t.policies

/-- The clock can tell when the pause is over that the owner wants, both when it has answered and when
the waiting begins. -/
def Waits (t : Trial) : Prop :=
  ∀ pause, t.wanted? = some pause →
    (t.attempt.times.answered.after? pause).isSome ∧
      (t.attempt.times.waiting.after? pause).isSome

/-- The worker is lost neither in the attempt nor after it. -/
structure Survived (t : Trial) : Prop where
  fault : t.fate.IsFault
  waits : t.Waits

end Trial

namespace Worker

/-- The owner wants a pause, and it is remembered. -/
def grant (w : Worker) (pause : Duration) : Worker :=
  { w with
    supervisor :=
      { w.supervisor with reconnect := { w.supervisor.reconnect with pause := some pause } } }

/-- What can follow a failure that is on record: it is told and ends the work, the owner declines to
try again, the clock cannot tell the end of the pause that the owner wants, be it at once or when the
waiting begins, or there is another attempt. -/
inductive Recovers (policies : Policies) (times : Times) (w : Worker) (f : Fault) : Stage → Prop
  | reported (hf : f.isTerminal = true) :
      Recovers policies times w f (.finished ((w.report f).fire (.released false)).finish)
  | declined (hf : f.isTerminal = false) (hwish : w.wish policies = none) :
      Recovers policies times w f (.finished ((w.question policies).fire (.released false)).finish)
  | untold {pause : Duration} (hf : f.isTerminal = false) (hwish : w.wish policies = some pause)
      (hanswered : times.answered.after? pause = none) :
      Recovers policies times w f (.lost (w.question policies).abandon)
  | late {pause : Duration} (hf : f.isTerminal = false) (hwish : w.wish policies = some pause)
      (hanswered : (times.answered.after? pause).isSome)
      (hwaiting : times.waiting.after? pause = none) :
      Recovers policies times w f
        (.lost (((w.question policies).grant pause).fire (.released true)).abandon)
  | again {pause : Duration} (hf : f.isTerminal = false) (hwish : w.wish policies = some pause)
      (hanswered : (times.answered.after? pause).isSome)
      (hwaiting : (times.waiting.after? pause).isSome) :
      Recovers policies times w f
        (.waiting (((w.question policies).grant pause).fire (.released true)))

variable {policies : Policies} {times : Times} {w : Worker}

theorem recovers (policies : Policies) (times : Times) (w : Worker) (f : Fault) :
    Recovers policies times ((w.fire .failed).recordFailure f) f (w.recover policies times f) := by
  unfold recover
  dsimp only
  generalize (w.fire .failed).recordFailure f = w
  cases hf : f.isTerminal with
  | true => exact .reported hf
  | false =>
    rw [if_neg Bool.false_ne_true]
    unfold ask
    cases hpause : w.supervisor.pause (policies w.source.asked) w.source.settings.retryPause
        times.answered with
    | error halt =>
      obtain ⟨pause, hwish, hnone⟩ := Supervisor.pause_eq_error hpause
      exact .untold hf hwish hnone
    | ok x =>
      obtain ⟨answer, supervisor⟩ := x
      obtain ⟨hwish, hanswered, rfl⟩ := Supervisor.pause_eq_ok hpause
      cases answer with
      | none => exact .declined hf hwish
      | some pause =>
        dsimp only [await]
        split
        · rename_i hwaiting
          exact .again hf hwish (hanswered pause rfl) (hwaiting ▸ rfl)
        · rename_i hnone
          exact .late hf hwish (hanswered pause rfl) hnone

end Worker

namespace Trial

variable {t : Trial} {f : Fault}

/-- What can follow an attempt: its failure goes on record and is recovered from, or it was stopped and
ends the work, or what broke it off is no fault and takes the worker away. -/
inductive LeadsTo (t : Trial) : Worker.Stage → Prop
  | failed {f : Fault} {stage : Worker.Stage} (hrecorded : t.recorded? = some f)
      (hfault : t.fate.IsFault)
      (h : Worker.Recovers t.policies t.attempt.times (t.failed f) f stage) : LeadsTo t stage
  | stopped (hrecorded : t.recorded? = none) (hfault : t.fate.IsFault) :
      LeadsTo t (.finished t.left.stop)
  | lost (hrecorded : t.recorded? = none) (hfault : ¬ t.fate.IsFault) :
      LeadsTo t (.lost t.left.abandon)

theorem leadsTo (t : Trial) : t.LeadsTo t.stage := by
  have hstopped : (t.fate.stopped = true) =
      ((t.worker.attempt t.attempt).2.1 = true ∨ t.attempt.stopped = true) := by
    simp [fate, Worker.fate]
  rcases hattempt : t.worker.attempt t.attempt with ⟨halt, cancelled, w⟩
  have hleft : t.left = w := by rw [left, hattempt]
  have hhalt : t.fate.halt = halt := by rw [fate, Worker.fate, hattempt]
  rw [hattempt] at hstopped
  unfold stage Worker.step
  rw [hattempt, ← hleft]
  cases halt with
  | overflow => exact .lost (by simp [recorded?, hhalt]) (by simp [Fate.IsFault, hhalt])
  | stray => exact .lost (by simp [recorded?, hhalt]) (by simp [Fate.IsFault, hhalt])
  | fault f =>
    have hfault : t.fate.IsFault := ⟨f, hhalt⟩
    have hrecorded : t.recorded? = if f = .cancelled ∨ cancelled ∨ t.attempt.stopped then none
        else some f := by
      simp only [recorded?, hhalt, hstopped]
    dsimp only
    split
    · rename_i hstop
      exact .stopped (hrecorded.trans (if_pos hstop)) hfault
    · rename_i hgo
      exact .failed (hrecorded.trans (if_neg hgo)) hfault (Worker.recovers _ _ _ f)

/-- What is told of is what is on record and terminal. -/
theorem reported?_eq (t : Trial) : t.reported? = t.recorded?.filter Fault.isTerminal := by
  unfold reported? Fate.reported? recorded?
  cases t.fate.halt with
  | overflow => rfl
  | stray => rfl
  | fault f =>
    by_cases hcancelled : f = .cancelled
    · subst hcancelled
      simp [Fault.isTerminal, Fault.Kind.isTerminal, Fault.kind]
    · cases t.fate.stopped <;> simp [hcancelled, Option.filter]

theorem wanted?_of_terminal (h : t.recorded? = some f) (hf : f.isTerminal = true) :
    t.wanted? = none := by
  rw [wanted?, h, Option.bind_some, if_pos hf]

theorem wanted?_of_transient (h : t.recorded? = some f) (hf : f.isTerminal = false) :
    t.wanted? = (t.failed f).wish t.policies := by
  rw [wanted?, h, Option.bind_some, hf, if_neg Bool.false_ne_true]

theorem wanted?_of_unrecorded (h : t.recorded? = none) : t.wanted? = none := by
  rw [wanted?, h, Option.bind_none]

/-- Where no pause is wanted, there is no moment to tell. -/
theorem waits_of_unwanted (h : t.wanted? = none) : t.Waits := by
  intro pause hwanted
  rw [h] at hwanted
  cases hwanted

theorem waits_iff_of_wanted {pause : Duration} (h : t.wanted? = some pause) :
    t.Waits ↔ (t.attempt.times.answered.after? pause).isSome ∧
      (t.attempt.times.waiting.after? pause).isSome := by
  refine ⟨fun hwaits => hwaits pause h, fun hwaits pause' hwanted => ?_⟩
  obtain rfl := Option.some.inj (h.symm.trans hwanted)
  exact hwaits

/-- An attempt is survived unless the worker is lost to it. -/
theorem survived_iff : t.Survived ↔ ∀ s, t.stage ≠ .lost s := by
  have hleads := t.leadsTo
  generalize t.stage = stage at hleads
  cases hleads with
  | lost hrecorded hfault =>
    exact iff_of_false (fun h => hfault h.fault) fun h => h _ rfl
  | stopped hrecorded hfault =>
    have hwaits := waits_of_unwanted (wanted?_of_unrecorded hrecorded)
    exact iff_of_true ⟨hfault, hwaits⟩ fun _ => nofun
  | failed hrecorded hfault hrecovers =>
    cases hrecovers with
    | reported hf =>
      have hwaits := waits_of_unwanted (wanted?_of_terminal hrecorded hf)
      exact iff_of_true ⟨hfault, hwaits⟩ fun _ => nofun
    | declined hf hwish =>
      have hwaits := waits_of_unwanted ((wanted?_of_transient hrecorded hf).trans hwish)
      exact iff_of_true ⟨hfault, hwaits⟩ fun _ => nofun
    | @untold pause hf hwish hanswered =>
      have hwaits := waits_iff_of_wanted ((wanted?_of_transient hrecorded hf).trans hwish)
      refine iff_of_false (fun h => ?_) fun h => h _ rfl
      have hsome := (hwaits.mp h.waits).1
      rw [hanswered] at hsome
      cases hsome
    | @late pause hf hwish hanswered hwaiting =>
      have hwaits := waits_iff_of_wanted ((wanted?_of_transient hrecorded hf).trans hwish)
      refine iff_of_false (fun h => ?_) fun h => h _ rfl
      have hsome := (hwaits.mp h.waits).2
      rw [hwaiting] at hsome
      cases hsome
    | @again pause hf hwish hanswered hwaiting =>
      have hwaits := waits_iff_of_wanted ((wanted?_of_transient hrecorded hf).trans hwish)
      exact iff_of_true ⟨hfault, hwaits.mpr ⟨hanswered, hwaiting⟩⟩ fun _ => nofun

theorem survived_of_waiting {w : Worker} (h : t.stage = .waiting w) : t.Survived :=
  survived_iff.mpr fun s hs => by cases h.symm.trans hs

theorem survived_of_finished {s : Source} (h : t.stage = .finished s) : t.Survived :=
  survived_iff.mpr fun s' hs => by cases h.symm.trans hs

theorem not_survived_of_lost {s : Source} (h : t.stage = .lost s) : ¬ t.Survived :=
  fun hsurvived => survived_iff.mp hsurvived s h

instance (t : Trial) : Decidable t.Survived :=
  match h : t.stage with
  | .waiting _ => .isTrue (survived_of_waiting h)
  | .finished _ => .isTrue (survived_of_finished h)
  | .lost _ => .isFalse (not_survived_of_lost h)

end Trial

/-- The attempts of a run that are made, up to the one that ends it. -/
def Worker.trials (policies : Policies) : Worker → List Attempt → List Trial
  | _, [] => []
  | w, a :: rest =>
    ⟨policies, w, a⟩ ::
      match w.step policies a with
      | .waiting w' => trials policies w' rest
      | .finished _ | .lost _ => []

end Rtsp.Pull
