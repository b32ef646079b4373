import Rtsp.Proofs.Pull.Attempt
import Rtsp.Proofs.Pull.Run

/-!
The fallback to TCP over the whole life of a source, which is run after run, each with the owner's
answers and the attempts that are made. What the source remembers is handed on from attempt to
attempt and from run to run, so that UDP is given up once at most: an attempt that gives it up finds
that it has not been given up before, and every later one, in the same run or another, is over TCP.
-/
namespace Rtsp.Pull

namespace Trial

/-- UDP is given up. -/
def fallsBack (t : Trial) : Bool := t.recorded?.any fun f => f.kind == .fallback

/-- What an attempt leaves on record. -/
def entries (t : Trial) : List Entry :=
  .attempt t.worker.mode t.worker.supervisor.reconnect :: (t.recorded?.map .failure).toList

/-- The attempt is over TCP: that is its mode, nothing else is asked for, and nothing else is set
up. -/
def OverTcp (t : Trial) : Prop :=
  t.worker.mode = .tcp ∧ ∀ arrivals writes, t.attempt.dial = .ok (arrivals, writes) →
    (∀ r ∈ (t.worker.shake t.attempt arrivals writes).2.requests,
      r.method = Method.name .setup → ∃ rtp rtcp,
        r.header.values "Transport".toList = [(Transport.ofChannels rtp rtcp).text]) ∧
    ∀ n, (t.worker.shake t.attempt arrivals writes).1 = .ok n →
      ∀ track ∈ n.session.tracks, track.carrier.mode = .tcp

end Trial

/-- The failure on record is that UDP was of no use. -/
def Entry.isFallback : Entry → Bool
  | .attempt _ _ => false
  | .failure f => f.kind == .fallback

namespace Source

/-- Run after run. -/
def live (s : Source) : List (Policies × List Attempt) → Except Fault Source
  | [] => .ok s
  | r :: rest => (s.run r.1 r.2).bind fun s => s.live rest

/-- The attempts of a life. -/
def trials (s : Source) : List (Policies × List Attempt) → List Trial
  | [] => []
  | r :: rest =>
    (Worker.start s).trials r.1 r.2 ++ ((Worker.start s).run r.1 r.2).trials rest

end Source

/-- What outlasts an attempt. -/
structure Memory where
  settings : Settings
  journal : List Entry
  forced : Bool

def Memory.after (m : Memory) (t : Trial) : Memory :=
  { m with journal := m.journal ++ t.entries, forced := m.forced || t.fallsBack }

def Worker.memory (w : Worker) : Memory := ⟨w.source.settings, w.source.journal, w.forced⟩

def Source.memory (s : Source) : Memory := ⟨s.settings, s.journal, s.reconnect.forceTcp⟩

def Worker.Stage.memory : Worker.Stage → Memory
  | .waiting w => w.memory
  | .finished s | .lost s => s.memory

theorem Worker.memory_fire (w : Worker) (e : Lifecycle.Event) : (w.fire e).memory = w.memory := by
  obtain ⟨hsettings, hjournal, hreconnect⟩ := w.fire_keeps e
  simp only [Worker.memory, forced, hsettings, hjournal, hreconnect]

theorem Worker.memory_finish (w : Worker) : w.finish.memory = w.memory := rfl

namespace Trial

variable {t : Trial} {f : Fault}

/-- The failure goes on record, and UDP may be given up for it. -/
theorem memory_failed (t : Trial) (f : Fault) :
    (t.failed f).memory =
      { t.left.memory with
        journal := t.left.memory.journal ++ [.failure f]
        forced := t.left.memory.forced || f.kind == .fallback } := by
  rw [← t.left.memory_fire .failed]
  rfl

/-- What the attempt leaves in memory before it is looked at. -/
theorem memory_left (t : Trial) :
    t.left.memory =
      { t.worker.memory with
        journal := t.worker.memory.journal ++
          [.attempt t.worker.mode t.worker.supervisor.reconnect] } := by
  obtain ⟨hsettings, hjournal, hforced⟩ := t.worker.attempt_keeps t.attempt
  simp only [left, Worker.memory, hsettings, hjournal, hforced]

/-- One attempt and what follows it, unless the worker is lost. -/
theorem memory_stage (hsurvived : t.Survived) : t.stage.memory = t.worker.memory.after t := by
  have hleads := t.leadsTo
  rw [survived_iff] at hsurvived
  generalize t.stage = stage at hleads hsurvived
  cases hleads with
  | lost => exact absurd rfl (hsurvived _)
  | stopped hrecorded =>
    have hstop := (t.left.memory_fire .stop).trans t.memory_left
    simpa [Worker.Stage.memory, Worker.stop, Worker.memory_finish, Memory.after, entries, fallsBack,
      hrecorded] using hstop
  | @failed f _ hrecorded _ hrecovers =>
    have hafter : (t.failed f).memory = t.worker.memory.after t := by
      rw [memory_failed, memory_left]
      simp [Memory.after, entries, fallsBack, hrecorded]
    cases hrecovers with
    | reported => exact (Worker.memory_fire _ _).trans hafter
    | declined => exact (Worker.memory_fire _ _).trans hafter
    | untold => exact absurd rfl (hsurvived _)
    | late => exact absurd rfl (hsurvived _)
    | again => exact (Worker.memory_fire _ _).trans hafter

end Trial

/-- Each attempt begins with what those before it have left. -/
inductive Carries : Memory → List Trial → Memory → Prop
  | nil (m : Memory) : Carries m [] m
  | cons (t : Trial) {rest : List Trial} {m : Memory} (h : Carries (t.worker.memory.after t) rest m) :
      Carries t.worker.memory (t :: rest) m

namespace Carries

variable {m m' m'' : Memory} {ts ts' : List Trial} {t : Trial}

theorem append (h : Carries m ts m') (h' : Carries m' ts' m'') : Carries m (ts ++ ts') m'' := by
  induction h with
  | nil m => exact h'
  | cons t h ih => exact .cons t (ih h')

theorem settings_eq (h : Carries m ts m') : ∀ t ∈ ts, t.worker.source.settings = m.settings := by
  induction h with
  | nil m => exact fun t ht => absurd ht List.not_mem_nil
  | cons t h ih => exact List.forall_mem_cons.mpr ⟨rfl, ih⟩

theorem journal_eq (h : Carries m ts m') : m'.journal = m.journal ++ ts.flatMap Trial.entries := by
  induction h with
  | nil m => exact (List.append_nil _).symm
  | cons t h ih => rw [ih, Memory.after, List.flatMap_cons, List.append_assoc]

/-- UDP stays given up. -/
theorem forced (h : Carries m ts m') (hm : m.forced = true) :
    ∀ t ∈ ts, t.worker.forced = true := by
  induction h with
  | nil m => exact fun t ht => absurd ht List.not_mem_nil
  | cons t h ih =>
    refine List.forall_mem_cons.mpr ⟨hm, ih ?_⟩
    simp only [Memory.after, hm, Bool.true_or]

end Carries

namespace Worker

theorem carries_trials (policies : Policies) (w : Worker) (attempts : List Attempt)
    (hsurvived : ∀ t ∈ w.trials policies attempts, t.Survived) :
    Carries w.memory (w.trials policies attempts) (w.run policies attempts).memory := by
  induction attempts generalizing w with
  | nil => exact (memory_fire w .stop).symm ▸ .nil w.memory
  | cons a rest ih =>
    have hstage := Trial.memory_stage (hsurvived ⟨policies, w, a⟩ List.mem_cons_self)
    unfold Trial.stage at hstage
    unfold trials at hsurvived
    unfold trials run
    have hend : ∀ s : Source, s.memory = w.memory.after ⟨policies, w, a⟩ →
        Carries w.memory [⟨policies, w, a⟩] s.memory := by
      intro s hs
      rw [hs]
      exact .cons ⟨policies, w, a⟩ (.nil _)
    cases hstep : w.step policies a with
    | waiting w' =>
      rw [hstep] at hstage hsurvived
      have hrest := ih w' fun t ht => hsurvived t (List.mem_cons_of_mem _ ht)
      have hw' : w'.memory = w.memory.after ⟨policies, w, a⟩ := hstage
      rw [hw'] at hrest
      exact .cons ⟨policies, w, a⟩ hrest
    | finished s =>
      rw [hstep] at hstage
      exact hend s hstage
    | lost s =>
      rw [hstep] at hstage
      exact hend s hstage

/-- Where the work is over, the source does not run any more. -/
def Stage.AtRest : Stage → Prop
  | .waiting _ => True
  | .finished s | .lost s => s.running = false

theorem atRest_stage (t : Trial) : t.stage.AtRest := by
  have hleads := t.leadsTo
  generalize t.stage = stage at hleads ⊢
  cases hleads with
  | lost => rfl
  | stopped => rfl
  | failed _ _ hrecovers => cases hrecovers <;> trivial

/-- A run leaves a source that can be started again. -/
theorem running_run (policies : Policies) (w : Worker) (attempts : List Attempt) :
    (w.run policies attempts).running = false := by
  induction attempts generalizing w with
  | nil => rfl
  | cons a rest ih =>
    have hrest := atRest_stage ⟨policies, w, a⟩
    unfold Trial.stage at hrest
    unfold run
    cases hstep : w.step policies a with
    | waiting w' => exact ih w'
    | finished s =>
      rw [hstep] at hrest
      exact hrest
    | lost s =>
      rw [hstep] at hrest
      exact hrest

end Worker

namespace Source

/-- A run of a source at rest, from start to end. -/
theorem run_eq_ok {s : Source} (hs : s.running = false) (policies : Policies)
    (attempts : List Attempt) :
    s.run policies attempts = .ok ((Worker.start s).run policies attempts) := by
  simp only [run, start, hs, Bool.false_eq_true, if_false, Except.map]

/-- A source that is at rest lives through every run. -/
theorem live_eq_ok (s : Source) (hs : s.running = false) (runs : List (Policies × List Attempt))
    (hsurvived : ∀ t ∈ s.trials runs, t.Survived) :
    ∃ s', s.live runs = .ok s' ∧ Carries s.memory (s.trials runs) s'.memory := by
  induction runs generalizing s with
  | nil => exact ⟨s, rfl, .nil s.memory⟩
  | cons r rest ih =>
    unfold trials at hsurvived
    have hfirst := (Worker.start s).carries_trials r.1 r.2 fun t ht =>
      hsurvived t (List.mem_append_left _ ht)
    obtain ⟨s', hlive, hrest⟩ := ih _ (Worker.running_run r.1 (Worker.start s) r.2) fun t ht =>
      hsurvived t (List.mem_append_right _ ht)
    refine ⟨s', ?_, ?_⟩
    · rw [live, run_eq_ok hs]
      exact hlive
    · exact hfirst.append hrest

end Source

section Once

variable {t : Trial} {m m' : Memory} {ts : List Trial}

/-- UDP is given up where nobody has asked for it, the connection does not rule it out, and it has
not been given up before. -/
theorem Trial.of_fallsBack (ht : t.attempt.Possible) (h : t.fallsBack = true) :
    t.worker.source.settings.transport = .auto ∧
      t.worker.source.settings.locator.isSecure = false ∧ t.worker.forced = false := by
  unfold fallsBack recorded? at h
  split at h
  · rename_i f hhalt
    split at h
    · cases h
    · have hkind : f.kind = .fallback := by simpa using h
      have hwarranted := Worker.attempt_warranted (w := t.worker) ht
      cases f with
      | fallback reason => exact Worker.mayFallBack_iff.mp (hwarranted reason hhalt)
      | _ => cases hkind
  · cases h
  · cases h

theorem Trial.overTcp (hmode : t.worker.mode = .tcp) : t.OverTcp := by
  refine ⟨hmode, fun arrivals writes _ => ?_⟩
  obtain ⟨hrequests, hok, -⟩ := t.worker.shake_keeps t.attempt arrivals writes
  rw [hmode] at hrequests hok
  refine ⟨?_, fun n hn => (hok n hn).2.1⟩
  intro r hr hmethod
  obtain ⟨proposal, hproposal, hvalues⟩ := hrequests r hr hmethod
  cases proposal with
  | ports rtp rtcp => cases hproposal
  | channels rtp rtcp => exact ⟨rtp, rtcp, hvalues⟩

/-- Where there is no wish, an attempt is over TCP once UDP was given up. -/
theorem Trial.overTcp_of_forced (hauto : t.worker.source.settings.transport = .auto)
    (hforced : t.worker.forced = true) : t.OverTcp := by
  apply Trial.overTcp
  have hforced' : t.worker.supervisor.reconnect.forceTcp = true := hforced
  simp only [Worker.mode, Settings.mode, Settings.Preference.mode, hauto, hforced', if_true,
    ite_self]

/-- Every attempt after one that gives UDP up is over TCP. -/
theorem Carries.pairwise (h : Carries m ts m') (hts : ∀ t ∈ ts, t.attempt.Possible) :
    ts.Pairwise fun t t' => t.fallsBack = true → t'.OverTcp := by
  induction h with
  | nil m => exact List.Pairwise.nil
  | cons t h ih =>
    refine List.Pairwise.cons ?_ (ih fun t ht => hts t (List.mem_cons_of_mem _ ht))
    intro t' ht' hfalls
    obtain ⟨hauto, -, -⟩ := Trial.of_fallsBack (hts t List.mem_cons_self) hfalls
    have hsettings : t'.worker.source.settings = t.worker.source.settings := h.settings_eq t' ht'
    apply Trial.overTcp_of_forced
    · rw [hsettings, hauto]
    · apply h.forced _ t' ht'
      simp only [Memory.after, hfalls, Bool.or_true]

/-- UDP is given up once at most, and not at all if it had been before. -/
theorem Carries.count_le (h : Carries m ts m') (hts : ∀ t ∈ ts, t.attempt.Possible) :
    ts.countP Trial.fallsBack + m.forced.toNat ≤ 1 := by
  induction h with
  | nil m => cases m.forced <;> decide
  | cons t h ih =>
    have hrest := ih fun t ht => hts t (List.mem_cons_of_mem _ ht)
    have hforced : t.worker.memory.forced = t.worker.forced := rfl
    rw [List.countP_cons]
    cases hfalls : t.fallsBack with
    | false => simpa [Memory.after, hfalls] using hrest
    | true =>
      obtain ⟨-, -, hnot⟩ := Trial.of_fallsBack (hts t List.mem_cons_self) hfalls
      simpa [Memory.after, hfalls, hforced, hnot] using hrest

theorem countP_entries (t : Trial) : t.entries.countP Entry.isFallback = t.fallsBack.toNat := by
  unfold Trial.entries Trial.fallsBack
  cases t.recorded? with
  | none => rfl
  | some f =>
    cases hkind : f.kind == Fault.Kind.fallback <;>
      simp [Entry.isFallback, hkind]

theorem countP_journal (ts : List Trial) :
    (ts.flatMap Trial.entries).countP Entry.isFallback = ts.countP Trial.fallsBack := by
  induction ts with
  | nil => rfl
  | cons t rest ih =>
    rw [List.flatMap_cons, List.countP_append, countP_entries, ih, List.countP_cons, Nat.add_comm]
    cases t.fallsBack <;> rfl

end Once

namespace Source

theorem possible_of_mem_trials {s : Source} {runs : List (Policies × List Attempt)}
    (h : ∀ r ∈ runs, ∀ a ∈ r.2, a.Possible) : ∀ t ∈ s.trials runs, t.attempt.Possible := by
  have hworker : ∀ (policies : Policies) (attempts : List Attempt) (w : Worker),
      ∀ t ∈ w.trials policies attempts, t.attempt ∈ attempts := by
    intro policies attempts
    induction attempts with
    | nil => exact fun w t ht => absurd ht List.not_mem_nil
    | cons a rest ih =>
      intro w t ht
      unfold Worker.trials at ht
      rcases List.mem_cons.mp ht with rfl | ht
      · exact List.mem_cons_self
      · split at ht
        · exact List.mem_cons_of_mem a (ih _ t ht)
        · cases ht
        · cases ht
  induction runs generalizing s with
  | nil => exact fun t ht => absurd ht List.not_mem_nil
  | cons r rest ih =>
    intro t ht
    rcases List.mem_append.mp ht with ht | ht
    · exact h r List.mem_cons_self _ (hworker r.1 r.2 _ t ht)
    · exact ih (fun r' hr' => h r' (List.mem_cons_of_mem r hr')) t ht

/-- Over the whole life of a source that loses no worker UDP is given up once at most, and every
attempt after that, in the same run or a later one, is over TCP. With a secure connection, or where a
transport is asked for, it is never given up. -/
theorem live_falls_back_once (settings : Settings) (runs : List (Policies × List Attempt))
    (hsurvived : ∀ t ∈ (make settings).trials runs, t.Survived)
    (hpossible : ∀ r ∈ runs, ∀ a ∈ r.2, a.Possible) :
    ∃ s, (make settings).live runs = .ok s ∧
      s.journal = ((make settings).trials runs).flatMap Trial.entries ∧
      s.journal.countP Entry.isFallback ≤ 1 ∧
      ((make settings).trials runs).Pairwise (fun t t' => t.fallsBack = true → t'.OverTcp) ∧
      (settings.locator.isSecure = true ∨ settings.transport ≠ .auto →
        s.journal.countP Entry.isFallback = 0) := by
  obtain ⟨s, hlive, hcarries⟩ := (make settings).live_eq_ok rfl runs hsurvived
  have hts := possible_of_mem_trials (s := make settings) hpossible
  have hjournal : s.journal = ((make settings).trials runs).flatMap Trial.entries :=
    hcarries.journal_eq
  refine ⟨s, hlive, hjournal, ?_, hcarries.pairwise hts, ?_⟩
  · rw [hjournal, countP_journal]
    exact hcarries.count_le hts
  · intro hnever
    rw [hjournal, countP_journal, List.countP_eq_zero]
    intro t ht hfalls
    obtain ⟨hauto, hplain, -⟩ := Trial.of_fallsBack (hts t ht) hfalls
    have hsettings : t.worker.source.settings = settings := hcarries.settings_eq t ht
    rw [hsettings] at hauto hplain
    rcases hnever with hsecure | hwish
    · rw [hsecure] at hplain
      cases hplain
    · exact hwish hauto

/-- A server that offers a stream but not over UDP, met twice in a first run, the second time over
TCP, which it does not offer either; and then, in a second run, not met at all. -/
def refusals : Settings × List (Policies × List Attempt) :=
  let url : Url := ⟨"rtsp".toList, [], none, some (.name "cam".toList), none, "/live".toList, none⟩
  let settings : Settings :=
    { locator := ⟨.rtsp, url, "cam".toList, none⟩
      readTimeout := .ofSeconds 10
      writeTimeout := .ofSeconds 10
      queueSize := 512
      transport := .auto
      rangeKind := .none
      range := none
      pin := none
      retryPause := .ofSeconds 5 }
  let described := "RTSP/1.0 200 OK\r\nCSeq: 1\r\nContent-Length: 45\r\n\r\n".toList ++
    "v=0\r\no=- 0 0 IN IP4 0\r\nm=video 0 RTP/AVP 33\r\n".toList
  let replies := described ++ "RTSP/1.0 461 No\r\nCSeq: 2\r\n\r\n".toList
  let refused : Attempt :=
    { dial := .ok ([.data (Text.Utf8.encode replies)], [])
      ports := fun n => some (2 * n.toUInt16 + 5000, 2 * n.toUInt16 + 5001)
      entropy := .counting 0
      events := []
      stopped := false
      times := .zero }
  let unreached : Attempt := { refused with dial := .error (.connection "refused".toList) }
  (settings, [(fun _ _ d => some d, [refused, refused]), (fun _ _ d => some d, [unreached])])

theorem live_falls_back_once_refused :
    let trials := (make refusals.1).trials refusals.2
    (∀ t ∈ trials, t.Survived) ∧ (∀ r ∈ refusals.2, ∀ a ∈ r.2, a.Possible) ∧
      trials.map (fun t => (t.worker.mode, t.fallsBack)) =
        [(.udp, true), (.tcp, false), (.tcp, false)] ∧
      ∃ s, (make refusals.1).live refusals.2 = .ok s ∧ s.journal.countP Entry.isFallback ≤ 1 ∧
        trials.Pairwise fun t t' => t.fallsBack = true → t'.OverTcp := by
  have hsurvived : ∀ t ∈ (make refusals.1).trials refusals.2, t.Survived := by decide +kernel
  have hpossible : ∀ r ∈ refusals.2, ∀ a ∈ r.2, a.Possible := by
    simp only [refusals, List.forall_mem_cons, List.not_mem_nil, false_imp_iff, implies_true,
      and_true, and_self]
    have hquiet : ∀ f, .fault f ∈ ([] : List Event) → Unsent f :=
      fun f hf => absurd hf List.not_mem_nil
    refine ⟨⟨fun f hf => (by cases hf), hquiet⟩, ⟨?_, hquiet⟩⟩
    rintro f ⟨⟩
    exact .connection _
  obtain ⟨s, hlive, -, honce, hafter, -⟩ := live_falls_back_once refusals.1 refusals.2
    hsurvived hpossible
  exact ⟨hsurvived, hpossible, by decide +kernel, s, hlive, honce, hafter⟩

end Source

end Rtsp.Pull
