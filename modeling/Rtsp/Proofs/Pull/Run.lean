import Rtsp.Proofs.Pull.Life
import Rtsp.Proofs.Pull.Trial

/-!
A run of a worker from its start to its end. Whatever the attempts, the answers of the owner, and the
moment of a stop, the states that are published are a life from its beginning. A worker that survives
all its attempts publishes the end of that life once, as the last thing that it tells; one that is lost
publishes no end at all. A terminal fault without a stop is told to the owner directly before the end,
and nothing else is told as a fault.
-/
namespace Rtsp.Pull

namespace Worker

/-- The moments of a run at which the states may have changed. -/
inductive Passes (policies : Policies) : Worker → List Attempt → Worker → Prop
  | waiting (w : Worker) (attempts : List Attempt) : Passes policies w attempts w
  | connected (w : Worker) (a : Attempt) (rest : List Attempt)
      (x : List Connection.Arrival × List (Option Fault.Trouble)) (dialled : w.dial a = .ok x) :
      Passes policies w (a :: rest) (w.note.fire .connected)
  | playing (w : Worker) (a : Attempt) (rest : List Attempt)
      (x : List Connection.Arrival × List (Option Fault.Trouble)) (dialled : w.dial a = .ok x)
      (n : Handshake.Negotiated) (c : Connection) (shaken : w.shake a x.1 x.2 = (.ok n, c)) :
      Passes policies w (a :: rest) ((w.note.fire .connected).begin n.session)
  | failed (w : Worker) (a : Attempt) (rest : List Attempt) :
      Passes policies w (a :: rest) (w.attempt a).2.2
  | closing (w : Worker) (a : Attempt) (rest : List Attempt) (f : Fault)
      (fate : w.fate a = ⟨.fault f, false⟩) :
      Passes policies w (a :: rest) ((w.attempt a).2.2.fire .failed)
  | later (w : Worker) (a : Attempt) (rest : List Attempt) (w' w'' : Worker)
      (again : w.step policies a = .waiting w') (h : Passes policies w' rest w'') :
      Passes policies w (a :: rest) w''

/-- What is told from some point of a run to its end, in the light of the attempts that follow. -/
structure Concludes (trials : List Trial) (told : List Notice) : Prop where
  reports : faultsOf told = trials.filterMap Trial.reported?
  once : (faultsOf told).length ≤ 1
  before : ∀ f ∈ faultsOf told, f.isTerminal = true ∧
    ∃ earlier, told = earlier ++ [.fault f, .state .terminated]
  ended : (∀ t ∈ trials, t.Survived) →
    ∃ earlier, told = earlier ++ [.state .terminated] ∧ .terminated ∉ statesOf earlier
  lost : (∃ t ∈ trials, ¬ t.Survived) → .terminated ∉ statesOf told

variable {before told : List Notice} {w : Worker}

/-- The source of a worker that has done its last. -/
def Leaves (before told : List Notice) (trials : List Trial) (s : Source) : Prop :=
  ∃ w ns, InLine before w (told ++ ns) ∧ s.notices = w.source.notices ∧ s.state = w.source.state ∧
    Concludes trials ns

section Concludes

variable {trials : List Trial} {t : Trial} {ns more : List Notice}

/-- A stop ends the work at once. -/
theorem concludes_stop (hr : trials.filterMap Trial.reported? = [])
    (hsurvived : ∀ t ∈ trials, t.Survived) (hns : Ongoing ns) :
    Concludes trials (ns ++ [.state .terminated]) := by
  have hfaults : faultsOf (ns ++ [.state .terminated]) = [] := by
    rw [faultsOf_append, hns.1]
    rfl
  constructor
  · rw [hfaults, hr]
  · simp [hfaults]
  · simp [hfaults]
  · exact fun _ => ⟨ns, rfl, hns.2⟩
  · rintro ⟨t, ht, hnot⟩
    exact absurd (hsurvived t ht) hnot

theorem concludes_fault {f : Fault} (hr : t.reported? = some f) (hf : f.isTerminal = true)
    (hsurvived : t.Survived) (hns : Ongoing ns) :
    Concludes [t] (ns ++ [.fault f, .state .terminated]) := by
  have hfaults : faultsOf (ns ++ [.fault f, .state .terminated]) = [f] := by
    rw [faultsOf_append, hns.1]
    rfl
  constructor
  · rw [hfaults, List.filterMap_cons_some hr, List.filterMap_nil]
  · simp [hfaults]
  · rw [hfaults]
    intro g hg
    rw [List.mem_singleton.mp hg]
    exact ⟨hf, ns, rfl⟩
  · intro _
    refine ⟨ns ++ [.fault f], by simp, ?_⟩
    rw [statesOf_append]
    exact List.not_mem_append hns.2 List.not_mem_nil
  · rintro ⟨u, hu, hnot⟩
    rw [List.mem_singleton.mp hu] at hnot
    exact absurd hsurvived hnot

/-- A worker that is lost says no more. -/
theorem concludes_lost (hr : t.reported? = none) (hlost : ¬ t.Survived) (hns : Ongoing ns) :
    Concludes [t] ns := by
  constructor
  · rw [hns.1, List.filterMap_cons_none hr, List.filterMap_nil]
  · simp [hns.1]
  · simp [hns.1]
  · exact fun hall => absurd (hall t List.mem_cons_self) hlost
  · exact fun _ => hns.2

/-- What was told before does not matter for the end. -/
theorem Concludes.prepend (h : Concludes trials more) (hns : Ongoing ns) :
    Concludes trials (ns ++ more) := by
  have hfaults : faultsOf (ns ++ more) = faultsOf more := by
    rw [faultsOf_append, hns.1, List.nil_append]
  constructor
  · rw [hfaults, h.reports]
  · rw [hfaults]
    exact h.once
  · rw [hfaults]
    intro f hmem
    obtain ⟨hterminal, earlier, rfl⟩ := h.before f hmem
    exact ⟨hterminal, ns ++ earlier, (List.append_assoc ..).symm⟩
  · intro hall
    obtain ⟨earlier, rfl, hnot⟩ := h.ended hall
    refine ⟨ns ++ earlier, (List.append_assoc ..).symm, ?_⟩
    rw [statesOf_append]
    exact List.not_mem_append hns.2 hnot
  · intro hlost
    rw [statesOf_append]
    exact List.not_mem_append hns.2 (h.lost hlost)

/-- Nor does an attempt that was survived without ending the work. -/
theorem Concludes.cons (h : Concludes trials told) (hr : t.reported? = none)
    (hsurvived : t.Survived) : Concludes (t :: trials) told where
  reports := by rw [h.reports, List.filterMap_cons_none hr]
  once := h.once
  before := h.before
  ended := fun hall => h.ended fun u hu => hall u (List.mem_cons_of_mem t hu)
  lost := by
    rintro ⟨u, hu, hnot⟩
    rcases List.mem_cons.mp hu with rfl | hu
    · exact absurd hsurvived hnot
    · exact h.lost ⟨u, hu, hnot⟩

end Concludes

/-- What an attempt may lead to. -/
def Settles (before told : List Notice) (t : Trial) : Stage → Prop
  | .waiting w => ∃ ns, InLine before w (told ++ ns) ∧ Ongoing ns ∧
      w.supervisor.state = .connecting ∧ t.reported? = none ∧ t.Survived
  | .finished s => Leaves before told [t] s
  | .lost s => Leaves before told [t] s

/-- A stop is possible wherever an attempt can fail. -/
theorem leaves_stop {trials : List Trial} {ns : List Notice} (h : InLine before w (told ++ ns))
    (hw : Lifecycle.next? w.supervisor.state .stop = some .terminated) (hns : Ongoing ns)
    (hr : trials.filterMap Trial.reported? = []) (hsurvived : ∀ t ∈ trials, t.Survived) :
    Leaves before told trials w.stop := by
  have hstop := h.fire hw
  rw [List.append_assoc] at hstop
  exact ⟨_, _, hstop, rfl, rfl, concludes_stop hr hsurvived hns⟩

/-- A lost worker leaves its source as it is. -/
theorem leaves_abandon {t : Trial} {ns : List Notice} (h : InLine before w (told ++ ns))
    (hns : Ongoing ns) (hr : t.reported? = none) (hlost : ¬ t.Survived) :
    Leaves before told [t] w.abandon :=
  ⟨w, ns, h, rfl, rfl, concludes_lost hr hlost hns⟩

section Recover

variable {t : Trial} {f : Fault} {ns : List Notice}

theorem InLine.question (h : InLine before w told) (policies : Policies) :
    ∃ n : Notice, n.Quiet ∧ InLine before (w.question policies) (told ++ [n]) :=
  ⟨.asked w.supervisor.reconnect w.source.settings.retryPause (w.wish policies), ⟨rfl, rfl⟩,
    h.extend _ [_] rfl rfl rfl ⟨rfl, rfl, rfl⟩⟩

theorem InLine.grant (h : InLine before w told) (pause : Duration) :
    InLine before (w.grant pause) told := by
  have hgrant := h.extend (w.grant pause) [] rfl (List.append_nil _).symm rfl ⟨rfl, rfl, rfl⟩
  rwa [List.append_nil] at hgrant

/-- What was held is let go, for another attempt or for good. -/
theorem InLine.released (h : InLine before w told) (hw : w.supervisor.state = .closing)
    (again : Bool) :
    InLine before (w.fire (.released again))
        (told ++ [.state (if again then .connecting else .terminated)]) ∧
      (w.fire (.released again)).supervisor.state =
        if again then .connecting else .terminated := by
  have hnext : Lifecycle.next? w.supervisor.state (.released again) =
      some (if again then .connecting else .terminated) := by
    rw [hw]
    cases again <;> rfl
  exact ⟨h.fire hnext, state_fire hnext⟩

/-- A terminal fault is told, and then the end. -/
theorem leaves_report (h : InLine before w (told ++ ns)) (hns : Ongoing ns)
    (hw : w.supervisor.state = .closing) (hr : t.reported? = some f) (hf : f.isTerminal = true)
    (hsurvived : t.Survived) :
    Leaves before told [t] ((w.report f).fire (.released false)).finish := by
  have hreported : InLine before (w.report f) (told ++ ns ++ [.fault f]) := h.tell rfl
  obtain ⟨hend, -⟩ := hreported.released hw false
  rw [List.append_assoc, List.append_assoc] at hend
  exact ⟨_, _, hend, rfl, rfl, concludes_fault hr hf hsurvived hns⟩

/-- After a failure without a stop a terminal fault is told and ends the work, and any other leads
to a question: the work goes on if the owner wants it to and the clock can tell when. -/
theorem settles_recovers (h : InLine before t.left (told ++ ns)) (hns : Ongoing ns)
    (hfallible : t.left.supervisor.state.Fallible) (hrecorded : t.recorded? = some f)
    {stage : Stage} (hstage : t.stage = stage)
    (hrecovers : Recovers t.policies t.attempt.times (t.failed f) f stage) :
    Settles before told t stage := by
  have hclosing : InLine before (t.failed f) (told ++ ns ++ [.state .closing]) :=
    (h.fire hfallible).recordFailure f
  have hstate : (t.failed f).supervisor.state = .closing := state_fire hfallible
  have hreported : t.reported? = if f.isTerminal then some f else none := by
    rw [t.reported?_eq, hrecorded, Option.filter_some]
  obtain ⟨n, hn, hasked⟩ := hclosing.question t.policies
  have hongoing : Ongoing (ns ++ [.state .closing] ++ [n]) := by
    refine ongoing_append (ongoing_append hns ⟨rfl, by decide⟩) (ongoing_quiet fun m hm => ?_)
    exact List.mem_singleton.mp hm ▸ hn
  rw [List.append_assoc, List.append_assoc, ← List.append_assoc ns] at hasked
  cases hrecovers with
  | reported hf =>
    rw [if_pos hf] at hreported
    rw [List.append_assoc] at hclosing
    exact leaves_report hclosing (ongoing_append hns ⟨rfl, by decide⟩) hstate hreported hf
      (Trial.survived_of_finished hstage)
  | declined hf hwish =>
    rw [hf, if_neg Bool.false_ne_true] at hreported
    obtain ⟨hend, -⟩ := hasked.released hstate false
    rw [List.append_assoc] at hend
    exact ⟨_, _, hend, rfl, rfl, concludes_stop (List.filterMap_cons_none hreported)
      (List.forall_mem_singleton.mpr (Trial.survived_of_finished hstage)) hongoing⟩
  | untold hf =>
    rw [hf, if_neg Bool.false_ne_true] at hreported
    exact leaves_abandon hasked hongoing hreported (Trial.not_survived_of_lost hstage)
  | @late pause hf =>
    rw [hf, if_neg Bool.false_ne_true] at hreported
    obtain ⟨hagain, -⟩ := (hasked.grant pause).released hstate true
    rw [List.append_assoc] at hagain
    exact leaves_abandon hagain (ongoing_append hongoing ⟨rfl, by decide⟩) hreported
      (Trial.not_survived_of_lost hstage)
  | @again pause hf =>
    rw [hf, if_neg Bool.false_ne_true] at hreported
    obtain ⟨hagain, hconnecting⟩ := (hasked.grant pause).released hstate true
    rw [List.append_assoc] at hagain
    exact ⟨_, hagain, ongoing_append hongoing ⟨rfl, by decide⟩, hconnecting, hreported,
      Trial.survived_of_waiting hstage⟩

end Recover

/-- One attempt and what follows it. -/
theorem settles_stage {t : Trial} (h : InLine before t.worker told)
    (hw : t.worker.supervisor.state = .connecting) : Settles before told t t.stage := by
  obtain ⟨ns, hline, hns, hfallible⟩ := h.attempt hw t.attempt
  have hsilent : t.recorded? = none → t.reported? = none := fun hnone => by
    rw [t.reported?_eq, hnone]
    rfl
  have hleads := t.leadsTo
  generalize hstage : t.stage = stage at hleads
  cases hleads with
  | failed hrecorded _ hrecovers =>
    exact settles_recovers hline hns hfallible hrecorded hstage hrecovers
  | stopped hrecorded =>
    exact leaves_stop hline hfallible.next?_stop hns
      (List.filterMap_cons_none (hsilent hrecorded))
      (List.forall_mem_singleton.mpr (Trial.survived_of_finished hstage))
  | lost hrecorded =>
    exact leaves_abandon hline hns (hsilent hrecorded) (Trial.not_survived_of_lost hstage)

/-- The whole run. -/
theorem leaves_run (h : InLine before w told) (hw : w.supervisor.state = .connecting)
    (policies : Policies) (attempts : List Attempt) :
    Leaves before told (trials policies w attempts) (run policies w attempts) := by
  induction attempts generalizing w told with
  | nil =>
    have hstop : Lifecycle.next? w.supervisor.state .stop = some .terminated := by
      rw [hw]
      rfl
    have h' : InLine before w (told ++ []) := by rwa [List.append_nil]
    exact leaves_stop h' hstop ⟨rfl, List.not_mem_nil⟩ rfl (by simp [trials])
  | cons a rest ih =>
    have hsettles := settles_stage (t := ⟨policies, w, a⟩) h hw
    unfold Trial.stage at hsettles
    unfold trials run
    cases hstep : w.step policies a with
    | waiting w' =>
      rw [hstep] at hsettles
      obtain ⟨ns, hline, hns, hw', hr, hsurvived⟩ := hsettles
      obtain ⟨w'', more, hline', hnotices, hstate, hconcludes⟩ := ih hline hw'
      rw [List.append_assoc] at hline'
      exact ⟨w'', ns ++ more, hline', hnotices, hstate,
        (hconcludes.cons hr hsurvived).prepend hns⟩
    | finished s =>
      rw [hstep] at hsettles
      exact hsettles
    | lost s =>
      rw [hstep] at hsettles
      exact hsettles

/-- The worker is in line at every moment of its run. -/
theorem InLine.passes {w w' : Worker} {attempts : List Attempt} {policies : Policies}
    (hp : Passes policies w attempts w') (h : InLine before w told)
    (hw : w.supervisor.state = .connecting) : ∃ ns, InLine before w' (told ++ ns) := by
  induction hp generalizing told with
  | waiting w attempts => exact ⟨[], by rwa [List.append_nil]⟩
  | connected w a rest x dialled => exact ⟨_, h.connected hw⟩
  | playing w a rest x dialled n c shaken =>
    have hbegin := (h.connected hw).begin (state_connected hw) n.session
    rw [List.append_assoc, List.append_assoc] at hbegin
    exact ⟨_, hbegin⟩
  | failed w a rest =>
    obtain ⟨ns, hline, -, -⟩ := h.attempt hw a
    exact ⟨ns, hline⟩
  | closing w a rest f fate =>
    obtain ⟨ns, hline, -, hfallible⟩ := h.attempt hw a
    have hclosing := hline.fire hfallible
    rw [List.append_assoc] at hclosing
    exact ⟨_, hclosing⟩
  | later w a rest w' w'' again hrest ih =>
    have hsettles := settles_stage (t := ⟨policies, w, a⟩) h hw
    rw [Trial.stage, again] at hsettles
    obtain ⟨ns, hline, -, hw', -, -⟩ := hsettles
    obtain ⟨more, hmore⟩ := ih hline hw'
    rw [List.append_assoc] at hmore
    exact ⟨_, hmore⟩

/-- The owner of a source is told a life: it begins by connecting, each state follows from the one
before, and the shared state is the last one told, at every moment and at the end. The terminal fault
of an attempt that was not stopped is told directly before the end of that life, and no other fault
ever is. The end is told once, as the last of all, if every attempt was survived, and not at all if the
worker was lost to one. -/
theorem run_tells_life (policies : Policies) (s : Source) (attempts : List Attempt) :
    (∃ told, ((start s).run policies attempts).notices = s.notices ++ told ∧
      (statesOf told).head? = some .connecting ∧
      (statesOf told).IsChain Lifecycle.Follows ∧
      (statesOf told).getLast? = some ((start s).run policies attempts).state ∧
      Concludes ((start s).trials policies attempts) told) ∧
    ∀ w, Passes policies (start s) attempts w →
      ∃ told, w.source.notices = s.notices ++ told ∧
        (statesOf told).getLast? = some w.source.state := by
  have hstart := inLine_start s
  constructor
  · obtain ⟨w, ns, hline, hnotices, hstate, hconcludes⟩ := leaves_run hstart rfl policies attempts
    refine ⟨_, hnotices.trans hline.notices, hline.first, hline.allowed, ?_, ?_⟩
    · rw [hstate]
      exact hline.getLast?_statesOf
    · exact hconcludes.prepend ⟨rfl, by decide⟩
  · intro w hp
    obtain ⟨ns, hline⟩ := hstart.passes hp rfl
    exact ⟨_, hline.notices, hline.getLast?_statesOf⟩

end Worker

namespace Source

/-- A stream that is asked for over TCP. -/
def watching : Settings :=
  let url : Url := ⟨"rtsp".toList, [], none, some (.name "cam".toList), none, "/live".toList, none⟩
  { locator := ⟨.rtsp, url, "cam".toList, none⟩
    readTimeout := .ofSeconds 10
    writeTimeout := .ofSeconds 10
    queueSize := 1
    transport := .tcp
    rangeKind := .none
    range := none
    pin := none
    retryPause := .ofSeconds 5 }

/-- A server that offers one stream and plays it, and what it does then. -/
def showing (more : List Connection.Arrival) : Attempt :=
  let described := "RTSP/1.0 200 OK\r\nContent-Length: 45\r\n\r\n".toList ++
    "v=0\r\no=- 0 0 IN IP4 0\r\nm=video 0 RTP/AVP 33\r\n".toList
  let played := "RTSP/1.0 200 OK\r\nSession: 41\r\n\r\nRTSP/1.0 200 OK\r\n\r\n".toList
  { dial := .ok (.data (Text.Utf8.encode (described ++ played)) :: more, [])
    ports := fun _ => none
    entropy := .counting 0
    events := [.turn false, .turn false, .turn false]
    stopped := false
    times := .zero }

/-- Two workers that are lost. A server cannot be reached, and its owner wants to wait for as long as
can be said in seconds of 64 bits, which ends at no moment that the clock can tell; and a server
answers with a head whose length and that of the body do not add up in a word. The end of neither life
is told. -/
theorem life_breaks_off :
    let heavy := "RTSP/1.0 200 OK\r\nContent-Length: 18446744073709551615\r\n\r\n".toList
    let longest : Duration := ⟨18446744073709551615999999999⟩
    let unreached : Attempt := { showing [] with dial := .error (.connection "refused".toList) }
    let answered : Attempt := { showing [] with dial := .ok ([.data (Text.Utf8.encode heavy)], []) }
    let waiting := (Worker.start (make watching)).run (fun _ _ _ => some longest) [unreached]
    let reading := (Worker.start (make watching)).run (fun _ _ usual => some usual) [answered]
    (statesOf waiting.notices = [.connecting, .closing] ∧ waiting.state = .closing ∧
        waiting.running = false) ∧
      statesOf reading.notices = [.connecting, .handshaking] ∧ reading.state = .handshaking ∧
        reading.running = false := by
  decide +kernel

end Source

end Rtsp.Pull
