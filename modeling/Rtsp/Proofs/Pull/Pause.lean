import Rtsp.Proofs.Pull.Bracket

/-!
The pause that a source remembers. It is set when the owner wants the source to try again, and it
is meant to be there while the next attempt is waited for. Yet the end of the waiting does not take
it away: a session that begins to play does, and the end of the run. So the first attempt of a run
begins without a pause and every other one with that of the waiting before it, which is there until
the attempt plays. If it fails before that, the owner is shown the pause that is over when it is
asked again. Nothing of it is left for the next run.
-/
namespace Rtsp.Pull

/-- The record of failures that comes with a question to the owner. -/
def Notice.asked? : Notice → Option Reconnect
  | .asked r _ _ => some r
  | _ => none

/-- The records that the owner was asked with, in order. -/
def questionsOf (ns : List Notice) : List Reconnect := ns.filterMap Notice.asked?

theorem questionsOf_append (a b : List Notice) :
    questionsOf (a ++ b) = questionsOf a ++ questionsOf b :=
  List.filterMap_append

theorem questionsOf_states (states : List Lifecycle.State) :
    questionsOf (states.map .state) = [] := by
  simp [questionsOf, Notice.asked?]

theorem questionsOf_packets (packets : List Packet) : questionsOf (packets.map .packet) = [] := by
  simp [questionsOf, Notice.asked?]

namespace Worker

variable {w w' w'' : Worker}

def pause (w : Worker) : Option Duration := w.supervisor.reconnect.pause

/-- Nothing was asked, and what the source remembers from run to run was left alone. -/
structure Unasked (w w' : Worker) : Prop where
  questions : questionsOf w'.source.notices = questionsOf w.source.notices
  reconnect : w'.source.reconnect = w.source.reconnect

theorem Unasked.trans (h : w.Unasked w') (h' : w'.Unasked w'') : w.Unasked w'' :=
  ⟨h'.questions.trans h.questions, h'.reconnect.trans h.reconnect⟩

section Attempt

theorem pause_fire (w : Worker) (e : Lifecycle.Event) : (w.fire e).pause = w.pause :=
  congrArg Reconnect.pause (w.fire_keeps e).2.2

theorem unasked_fire (w : Worker) (e : Lifecycle.Event) : w.Unasked (w.fire e) where
  questions := by
    simp only [fire, share, questionsOf_append, questionsOf_states, List.append_nil]
  reconnect := rfl

theorem pause_connected (w : Worker) : (w.note.fire .connected).pause = w.pause :=
  w.note.pause_fire .connected

theorem unasked_connected (w : Worker) : w.Unasked (w.note.fire .connected) := by
  have hnote : w.Unasked w.note := ⟨rfl, rfl⟩
  exact hnote.trans (w.note.unasked_fire .connected)

/-- A session that begins to play takes the pause away. -/
theorem pause_begin (w : Worker) (session : Session) : (w.begin session).pause = none := rfl

theorem unasked_begin (w : Worker) (session : Session) : w.Unasked (w.begin session) := by
  refine (w.unasked_fire .played).trans ⟨?_, rfl⟩
  exact (questionsOf_append _ _).trans (List.append_nil _)

theorem pause_leave (w : Worker) (p : Playing) (halt : Halt) : (w.leave p halt).pause = w.pause :=
  congrArg (fun s => s.reconnect.pause) (w.leave_keeps p halt).2.2

/-- A session tells of packets and of its end. -/
theorem unasked_leave {session : Session} {ports : List Handshake.Pair} {t : Relay.Traffic}
    {p : Playing} (h : Playing.Mirrors session ports t p) (w : Worker) (halt : Halt) :
    w.Unasked (w.leave p halt) := by
  have hopen : questionsOf p.notices = [] := by rw [h.told, questionsOf_packets]
  have hclosed : questionsOf p.close.notices = [] := by
    rw [h.close, questionsOf_append, questionsOf_packets]
    rfl
  have hrecord : ∀ p' : Playing, questionsOf p'.notices = [] → w.Unasked (w.record p') := by
    intro p' hp'
    refine ⟨?_, rfl⟩
    simp only [record, questionsOf_append, hp', List.append_nil]
  cases halt with
  | fault f => exact (hrecord p.close hclosed).trans ⟨rfl, rfl⟩
  | overflow => exact hrecord p hopen
  | stray => exact hrecord p hopen

/-- What an attempt leaves behind: no pause if it played, and else the one that it began with. -/
theorem pause_attempt (w : Worker) (a : Attempt) :
    (w.attempt a).2.2.pause = if (w.session? a).isSome then none else w.pause := by
  cases hsession : w.session? a with
  | none =>
    rcases attempt_of_none hsession with hleft | hleft
    · rw [hleft]
      rfl
    · rw [hleft]
      exact w.pause_connected
  | some x =>
    rw [attempt_eq hsession]
    exact (pause_leave _ _ _).trans (pause_begin _ _)

theorem unasked_attempt (w : Worker) (a : Attempt) : w.Unasked (w.attempt a).2.2 := by
  cases hsession : w.session? a with
  | none =>
    rcases attempt_of_none hsession with hleft | hleft
    · rw [hleft]
      exact ⟨rfl, rfl⟩
    · rw [hleft]
      exact w.unasked_connected
  | some x =>
    obtain ⟨session, ports, c⟩ := x
    have hmirrors := Playing.mirrors_schedule w.source.settings (ports_le_of_session? hsession) c
      a.events
    rw [attempt_eq hsession]
    exact (w.unasked_connected.trans (unasked_begin _ session)).trans (unasked_leave hmirrors _ _)

end Attempt

end Worker

namespace Trial

variable {t : Trial}

/-- The attempt comes to a session that plays. -/
def played (t : Trial) : Bool := (t.worker.session? t.attempt).isSome

/-- The record that the owner is asked with after the attempt: its failure is on it. Nothing is
asked after a stop or a terminal fault. -/
def asked? (t : Trial) : Option Reconnect :=
  t.recorded?.bind fun f =>
    if f.isTerminal then none
    else some (t.left.supervisor.reconnect.fail f)

/-- The worker from the moment when an attempt starts to connect until it has ended, and whether
the attempt has played by then. What happens while a session plays is nothing to the worker. -/
inductive Moment (t : Trial) : Bool → Worker → Prop
  | dialling : t.Moment false t.worker.note
  | shaking (x : List Connection.Arrival × List (Option Fault.Trouble))
      (dialled : t.worker.dial t.attempt = .ok x) : t.Moment false (t.worker.note.fire .connected)
  | playing (session : Session) (ports : List Handshake.Pair) (c : Connection)
      (shaken : t.worker.session? t.attempt = some (session, ports, c)) :
      t.Moment true ((t.worker.note.fire .connected).begin session)
  | ended : t.Moment t.played t.left

/-- There is no pause while the attempt lasts, nor when the owner is asked after it. -/
def Clear (t : Trial) : Prop :=
  (∀ played w, t.Moment played w → w.pause = none) ∧ ∀ r, t.asked? = some r → r.pause = none

/-- Nothing but the beginning of a session changes the pause while an attempt lasts. -/
theorem Moment.pause {played : Bool} {w : Worker} (h : t.Moment played w) :
    w.pause = if played then none else t.worker.pause := by
  cases h with
  | dialling => rfl
  | shaking x dialled => exact t.worker.pause_connected
  | playing session ports c shaken => exact Worker.pause_begin _ session
  | ended => exact t.worker.pause_attempt t.attempt

/-- The owner is shown the pause that the attempt leaves behind. -/
theorem pause_of_asked? {r : Reconnect} (h : t.asked? = some r) :
    r.pause = if t.played then none else t.worker.pause := by
  obtain ⟨f, -, hask⟩ := Option.bind_eq_some_iff.mp h
  split at hask
  · cases hask
  · rw [← Option.some.inj hask]
    exact t.worker.pause_attempt t.attempt

/-- It is all about the pause with which the attempt begins. -/
theorem clear_iff (t : Trial) : t.Clear ↔ t.worker.pause = none := by
  constructor
  · exact fun h => h.1 false t.worker.note .dialling
  · intro h
    refine ⟨fun played w hw => ?_, fun r hr => ?_⟩
    · rw [hw.pause, h, ite_self]
    · rw [pause_of_asked? hr, h, ite_self]

end Trial

namespace Worker

variable {policies : Policies} {w : Worker}

section Step

/-- What is remembered of the pause after an attempt, if the source remembered this from the runs
before. A worker that is lost leaves no word about its run. -/
def Stage.Remembers (r : Reconnect) : Stage → Prop
  | .waiting w => w.pause.isSome ∧ w.source.reconnect = r
  | .finished s => s.reconnect.pause = none
  | .lost s => s.reconnect = r

theorem unasked_report (w : Worker) (f : Fault) : w.Unasked (w.report f) :=
  ⟨(questionsOf_append _ _).trans (List.append_nil _), rfl⟩

/-- The owner is asked with the record as it is. -/
theorem questions_question (policies : Policies) (w : Worker) :
    questionsOf (w.question policies).source.notices =
      questionsOf w.source.notices ++ [w.supervisor.reconnect] :=
  questionsOf_append _ _

/-- After a failure the owner is asked once, unless the failure is terminal. -/
theorem recovers_keeps {times : Times} {f : Fault} {stage : Stage}
    (h : Recovers policies times w f stage) :
    questionsOf stage.notices = questionsOf w.source.notices ++
        (if f.isTerminal then none else some w.supervisor.reconnect).toList ∧
      stage.Remembers w.source.reconnect := by
  have hasked := w.questions_question policies
  cases h with
  | reported hf =>
    have hended := (w.unasked_report f).trans (unasked_fire _ (.released false))
    rw [if_pos hf]
    exact ⟨hended.questions.trans (List.append_nil _).symm, rfl⟩
  | declined hf =>
    have hended := unasked_fire (w.question policies) (.released false)
    rw [hf, if_neg Bool.false_ne_true]
    exact ⟨hended.questions.trans hasked, rfl⟩
  | untold hf =>
    rw [hf, if_neg Bool.false_ne_true]
    exact ⟨hasked, rfl⟩
  | @late pause hf =>
    have hagain := unasked_fire ((w.question policies).grant pause) (.released true)
    rw [hf, if_neg Bool.false_ne_true]
    exact ⟨hagain.questions.trans hasked, hagain.reconnect⟩
  | @again pause hf =>
    have hagain := unasked_fire ((w.question policies).grant pause) (.released true)
    rw [hf, if_neg Bool.false_ne_true]
    refine ⟨hagain.questions.trans hasked, ?_, hagain.reconnect⟩
    rw [pause_fire]
    rfl

/-- An attempt and what follows it. -/
theorem stage_keeps (t : Trial) :
    questionsOf t.stage.notices =
        questionsOf t.worker.source.notices ++ t.asked?.toList ∧
      t.stage.Remembers t.worker.source.reconnect := by
  have hleft : t.worker.Unasked t.left := t.worker.unasked_attempt t.attempt
  rw [← hleft.questions, ← hleft.reconnect]
  have hleads := t.leadsTo
  generalize t.stage = stage at hleads ⊢
  cases hleads with
  | @failed f _ hrecorded _ hrecovers =>
    have hfailed : t.left.Unasked (t.failed f) := (t.left.unasked_fire .failed).trans ⟨rfl, rfl⟩
    have hrecord : (t.failed f).supervisor.reconnect = t.left.supervisor.reconnect.fail f :=
      congrArg (Reconnect.fail · f) (t.left.fire_keeps .failed).2.2
    rw [Trial.asked?, hrecorded, Option.bind_some, ← hrecord, ← hfailed.questions,
      ← hfailed.reconnect]
    exact recovers_keeps hrecovers
  | stopped hrecorded =>
    rw [Trial.asked?, hrecorded]
    exact ⟨(unasked_fire _ .stop).questions.trans (List.append_nil _).symm, rfl⟩
  | lost hrecorded =>
    rw [Trial.asked?, hrecorded]
    exact ⟨(List.append_nil _).symm, rfl⟩

end Step

section Run

variable {attempts : List Attempt} {earlier later : List Trial} {t : Trial}

/-- Every attempt but the first begins with the pause that was waited for. -/
theorem pause_of_trials (h : w.trials policies attempts = earlier ++ t :: later) :
    earlier = [] ∧ t.worker = w ∨ earlier ≠ [] ∧ t.worker.pause.isSome := by
  induction attempts generalizing w earlier with
  | nil => simp [trials] at h
  | cons a rest ih =>
    have hremembers := (stage_keeps ⟨policies, w, a⟩).2
    unfold Trial.stage at hremembers
    unfold trials at h
    cases earlier with
    | nil =>
      obtain ⟨rfl, -⟩ := List.cons.inj h
      exact .inl ⟨rfl, rfl⟩
    | cons first earlier =>
      obtain ⟨-, hrest⟩ := List.cons.inj h
      refine .inr ⟨List.cons_ne_nil _ _, ?_⟩
      split at hrest
      · rename_i w' hstep
        rw [hstep] at hremembers
        rcases ih hrest with ⟨-, hworker⟩ | ⟨-, hset⟩
        · rw [hworker]
          exact hremembers.1
        · exact hset
      · simp at hrest
      · simp at hrest

theorem pause_eq_none_iff (hw : w.pause = none)
    (h : w.trials policies attempts = earlier ++ t :: later) :
    t.worker.pause = none ↔ earlier = [] := by
  rcases pause_of_trials h with ⟨hfirst, hworker⟩ | ⟨hlater, hset⟩
  · rw [hworker]
    exact iff_of_true hw hfirst
  · exact iff_of_false (Option.isSome_iff_ne_none.mp hset) hlater

/-- What is left of that pause, if a session that plays takes it away. -/
theorem left_eq_none_iff (hw : w.pause = none)
    (h : w.trials policies attempts = earlier ++ t :: later) (played : Bool) :
    (if played then none else t.worker.pause) = none ↔ earlier = [] ∨ played = true := by
  have hbegins := pause_eq_none_iff hw h
  cases played with
  | false => simpa using hbegins
  | true => simp

/-- A second attempt dials with a pause. -/
theorem clear_trials_iff (hw : w.pause = none) :
    (∀ t ∈ w.trials policies attempts, t.Clear) ↔ (w.trials policies attempts).length ≤ 1 := by
  rcases htrials : w.trials policies attempts with _ | ⟨first, _ | ⟨second, later⟩⟩
  · simp
  · have hfirst : w.trials policies attempts = [] ++ first :: [] := htrials
    simpa [Trial.clear_iff] using (pause_eq_none_iff hw hfirst).mpr rfl
  · have hsecond : w.trials policies attempts = [first] ++ second :: later := htrials
    refine iff_of_false (fun hclear => ?_) (by simp)
    have hnone := (Trial.clear_iff second).mp (hclear second (by simp))
    exact List.cons_ne_nil _ _ ((pause_eq_none_iff hw hsecond).mp hnone)

/-- A run asks with the record that each of its attempts leaves, and remembers no pause. -/
theorem run_keeps (policies : Policies) (w : Worker) (attempts : List Attempt)
    (hw : w.source.reconnect.pause = none) :
    questionsOf (w.run policies attempts).notices =
        questionsOf w.source.notices ++ (w.trials policies attempts).filterMap Trial.asked? ∧
      (w.run policies attempts).reconnect.pause = none := by
  induction attempts generalizing w with
  | nil => exact ⟨(w.unasked_fire .stop).questions.trans (List.append_nil _).symm, rfl⟩
  | cons a rest ih =>
    obtain ⟨hquestions, hremembers⟩ := stage_keeps ⟨policies, w, a⟩
    unfold Trial.stage at hquestions hremembers
    have hone : ∀ (t : Trial) later, (t :: later).filterMap Trial.asked? =
        t.asked?.toList ++ later.filterMap Trial.asked? := by
      intro t later
      rw [List.filterMap_cons]
      cases t.asked? <;> rfl
    unfold trials run
    rw [hone, ← List.append_assoc, ← hquestions]
    cases hstep : w.step policies a with
    | waiting w' =>
      rw [hstep] at hremembers
      have hw' : w'.source.reconnect.pause = none := by rw [hremembers.2, hw]
      exact ih w' hw'
    | finished s =>
      rw [hstep] at hremembers
      exact ⟨(List.append_nil _).symm, hremembers⟩
    | lost s =>
      rw [hstep] at hremembers
      have hs : s.reconnect = w.source.reconnect := hremembers
      exact ⟨(List.append_nil _).symm, hs ▸ hw⟩

end Run

end Worker

namespace Source

/-- No pause is left after any number of runs. -/
theorem live_clears (s : Source) (hs : s.running = false) (hpause : s.reconnect.pause = none)
    (runs : List (Policies × List Attempt)) :
    ∃ s', s.live runs = .ok s' ∧ s'.running = false ∧ s'.reconnect.pause = none := by
  induction runs generalizing s with
  | nil => exact ⟨s, rfl, hs, hpause⟩
  | cons r rest ih =>
    rw [live, run_eq_ok hs]
    exact ih _ (Worker.running_run r.1 _ r.2) (Worker.run_keeps r.1 (Worker.start s) r.2 hpause).2

/-- After any number of runs of a source, in any further run: while an attempt lasts there is no
pause exactly if it is the first of the run or has played by then, and the same is so when the owner
is asked after it. Each question is one after an attempt, the run leaves no pause behind, and it is
free of stale ones exactly if it makes no second attempt. -/
theorem pause_clear_iff (settings : Settings) (runs : List (Policies × List Attempt))
    (policies : Policies) (attempts : List Attempt) :
    ∃ s done, (make settings).live runs = .ok s ∧ s.run policies attempts = .ok done ∧
      let trials := (Worker.start s).trials policies attempts
      (∀ earlier t later, trials = earlier ++ t :: later →
        (∀ played w, t.Moment played w → (w.pause = none ↔ earlier = [] ∨ played = true)) ∧
        ∀ r, t.asked? = some r → (r.pause = none ↔ earlier = [] ∨ t.played = true)) ∧
      questionsOf done.notices = questionsOf s.notices ++ trials.filterMap Trial.asked? ∧
      done.reconnect.pause = none ∧
      ((∀ t ∈ trials, t.Clear) ↔ trials.length ≤ 1) := by
  obtain ⟨s, hlive, hs, hpause⟩ := (make settings).live_clears rfl rfl runs
  obtain ⟨hquestions, hdone⟩ := Worker.run_keeps policies (Worker.start s) attempts hpause
  have hstart : questionsOf (Worker.start s).source.notices = questionsOf s.notices :=
    (questionsOf_append _ _).trans (List.append_nil _)
  rw [hstart] at hquestions
  refine ⟨s, _, hlive, run_eq_ok hs policies attempts, fun earlier t later htrials => ⟨?_, ?_⟩,
    hquestions, hdone, Worker.clear_trials_iff hpause⟩
  · intro played w hw
    rw [hw.pause]
    exact Worker.left_eq_none_iff (w := Worker.start s) hpause htrials played
  · intro r hr
    rw [Trial.pause_of_asked? hr]
    exact Worker.left_eq_none_iff (w := Worker.start s) hpause htrials t.played

/-- A server that cannot be reached twice in a row. The owner is asked the second time with the
pause that it chose the first time, and which was over when the attempt began. -/
theorem pause_stale :
    let unreached : Attempt := { showing [] with dial := .error (.connection "refused".toList) }
    let policies : Policies := fun asked _ usual => if asked = 0 then some usual else none
    let w := Worker.start (make watching)
    (w.trials policies [unreached, unreached]).map (fun t => t.worker.note.pause) =
        [none, some (.ofSeconds 5)] ∧
      questionsOf (w.run policies [unreached, unreached]).notices =
        [⟨1, some .connection, none, false⟩,
          ⟨2, some .connection, some (.ofSeconds 5), false⟩] := by
  decide +kernel

end Source

end Rtsp.Pull
