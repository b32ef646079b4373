import Mathlib.Data.List.Chain
import Rtsp.Proofs.Pull.Notices

/-!
The life of a worker as its owner sees it. A worker is in line with what was told if the states
that were published are a life from its beginning up to the state that the supervisor is in, and if
the state that is shared is that one. Everything that a worker does keeps this: an event that fits
publishes one more state, and nothing else touches the states.
-/
namespace Rtsp

/-- Some event leads from one state to the next. -/
def Lifecycle.Follows (a b : State) : Prop := ∃ e, next? a e = some b

theorem Lifecycle.next?_stop {s : State} (h : s ≠ .terminated) :
    next? s .stop = some .terminated := by
  cases s with
  | terminated => exact absurd rfl h
  | _ => rfl

/-- An attempt can fail in the state. -/
def Lifecycle.State.Fallible (s : State) : Prop := next? s .failed = some .closing

theorem Lifecycle.State.Fallible.next?_stop {s : State} (h : s.Fallible) :
    next? s .stop = some .terminated := by
  apply Lifecycle.next?_stop
  rintro rfl
  simp [Fallible, next?] at h

namespace Pull.Worker

structure InLine (before : List Notice) (w : Worker) (told : List Notice) : Prop where
  notices : w.source.notices = before ++ told
  published : w.supervisor.published = statesOf told
  first : (statesOf told).head? = some .connecting
  allowed : (statesOf told).IsChain Lifecycle.Follows
  last : (statesOf told).getLast? = some w.supervisor.state
  shared : w.supervisor.shared = w.supervisor.state
  state : w.source.state = w.supervisor.state

variable {before told : List Notice} {w : Worker} {s : Lifecycle.State} {e : Lifecycle.Event}

/-- The shared state is the last one that was published. -/
theorem InLine.getLast?_statesOf (h : InLine before w told) :
    (statesOf told).getLast? = some w.source.state := by
  rw [h.state, h.last]

theorem inLine_start (s : Source) : InLine s.notices (start s) [.state .connecting] where
  notices := rfl
  published := rfl
  first := rfl
  allowed := List.isChain_singleton _
  last := rfl
  shared := rfl
  state := rfl

theorem state_fire (he : Lifecycle.next? w.supervisor.state e = some s) :
    (w.fire e).supervisor.state = s := by
  simp only [fire, share, Supervisor.fire, he, Supervisor.publish]

/-- An event that fits publishes one state. -/
theorem InLine.fire (h : InLine before w told)
    (he : Lifecycle.next? w.supervisor.state e = some s) :
    InLine before (w.fire e) (told ++ [.state s]) := by
  have hone : statesOf [Notice.state s] = [s] := rfl
  have hdrop : (w.supervisor.published ++ [s]).drop w.supervisor.published.length = [s] :=
    List.drop_left
  constructor
  · simp only [Worker.fire, share, Supervisor.fire, he, Supervisor.publish, hdrop, h.notices,
      List.map_cons, List.map_nil, List.append_assoc]
  · simp only [Worker.fire, share, Supervisor.fire, he, Supervisor.publish, h.published,
      statesOf_append, hone]
  · rw [statesOf_append, List.head?_append, h.first, Option.some_or]
  · rw [statesOf_append, hone]
    refine h.allowed.append (List.isChain_singleton s) ?_
    intro a ha b hb
    rw [h.last, Option.mem_some] at ha
    rw [List.head?_cons, Option.mem_some] at hb
    exact ⟨e, by rw [← ha, ← hb, he]⟩
  · rw [statesOf_append, hone, List.getLast?_concat, state_fire he]
  · simp only [Worker.fire, share, Supervisor.fire, he, Supervisor.publish]
  · simp only [Worker.fire, share, Supervisor.fire, he, Supervisor.publish]

/-- What leaves the states alone, and tells of none, changes nothing. -/
theorem InLine.extend (h : InLine before w told) (w' : Worker) (ns : List Notice)
    (hns : statesOf ns = []) (hnotices : w'.source.notices = w.source.notices ++ ns)
    (hstate : w'.source.state = w.source.state)
    (hsupervisor : w'.supervisor.state = w.supervisor.state ∧
      w'.supervisor.shared = w.supervisor.shared ∧
      w'.supervisor.published = w.supervisor.published) :
    InLine before w' (told ++ ns) := by
  obtain ⟨hs, hsh, hp⟩ := hsupervisor
  have hstates : statesOf (told ++ ns) = statesOf told := by
    rw [statesOf_append, hns, List.append_nil]
  constructor
  · rw [hnotices, h.notices, List.append_assoc]
  · rw [hp, h.published, hstates]
  · rw [hstates, h.first]
  · rw [hstates]
    exact h.allowed
  · rw [hstates, h.last, hs]
  · rw [hsh, h.shared, hs]
  · rw [hstate, h.state, hs]

theorem InLine.note (h : InLine before w told) : InLine before w.note told := by
  have hnote := h.extend w.note [] rfl (List.append_nil _).symm rfl ⟨rfl, rfl, rfl⟩
  rwa [List.append_nil] at hnote

theorem InLine.recordFailure (h : InLine before w told) (f : Fault) :
    InLine before (w.recordFailure f) told := by
  have hrecord := h.extend (w.recordFailure f) [] rfl (List.append_nil _).symm rfl
    ⟨rfl, rfl, rfl⟩
  rwa [List.append_nil] at hrecord

theorem InLine.tell (h : InLine before w told) {n : Notice} (hn : n.state? = none) :
    InLine before { w with source := w.source.tell n } (told ++ [n]) := by
  have hns : statesOf [n] = [] := by
    unfold statesOf
    rw [List.filterMap_cons_none hn, List.filterMap_nil]
  exact h.extend _ [n] hns rfl rfl ⟨rfl, rfl, rfl⟩

theorem InLine.connected (h : InLine before w told) (hw : w.supervisor.state = .connecting) :
    InLine before (w.note.fire .connected) (told ++ [.state .handshaking]) := by
  apply h.note.fire
  change Lifecycle.next? w.supervisor.state .connected = _
  rw [hw]
  rfl

theorem state_connected (hw : w.supervisor.state = .connecting) :
    (w.note.fire .connected).supervisor.state = .handshaking := by
  apply state_fire
  change Lifecycle.next? w.supervisor.state .connected = _
  rw [hw]
  rfl

theorem InLine.begin (h : InLine before w told) (hw : w.supervisor.state = .handshaking)
    (session : Session) :
    InLine before (w.begin session) (told ++ [.state .playing] ++ [.ready session]) := by
  have hplaying : InLine before (w.fire .played) (told ++ [.state .playing]) := by
    apply h.fire
    rw [hw]
    rfl
  exact hplaying.extend _ [.ready session] rfl rfl rfl ⟨rfl, rfl, rfl⟩

theorem state_begin (hw : w.supervisor.state = .handshaking) (session : Session) :
    (w.begin session).supervisor.state = .playing := by
  have hfire : (w.fire .played).supervisor.state = .playing := by
    apply state_fire
    rw [hw]
    rfl
  exact hfire

theorem InLine.leave (h : InLine before w told) {p : Playing} (hp : p.Quiet) (halt : Halt) :
    ∃ ns, InLine before (w.leave p halt) (told ++ ns) ∧ (∀ n ∈ ns, n.Quiet) ∧
      (w.leave p halt).supervisor = w.supervisor := by
  cases halt with
  | fault f =>
    exact ⟨_, h.extend _ _ (statesOf_quiet hp.close) rfl rfl ⟨rfl, rfl, rfl⟩, hp.close, rfl⟩
  | overflow => exact ⟨_, h.extend _ _ (statesOf_quiet hp) rfl rfl ⟨rfl, rfl, rfl⟩, hp, rfl⟩
  | stray => exact ⟨_, h.extend _ _ (statesOf_quiet hp) rfl rfl ⟨rfl, rfl, rfl⟩, hp, rfl⟩

/-- Nothing among what is told is about an end. -/
def Ongoing (ns : List Notice) : Prop := faultsOf ns = [] ∧ .terminated ∉ statesOf ns

theorem ongoing_append {a b : List Notice} (ha : Ongoing a) (hb : Ongoing b) : Ongoing (a ++ b) := by
  constructor
  · rw [faultsOf_append, ha.1, hb.1, List.append_nil]
  · rw [statesOf_append]
    exact List.not_mem_append ha.2 hb.2

theorem ongoing_quiet {ns : List Notice} (h : ∀ n ∈ ns, n.Quiet) : Ongoing ns := by
  refine ⟨faultsOf_quiet h, ?_⟩
  rw [statesOf_quiet h]
  exact List.not_mem_nil

/-- While a session plays, the worker is in the state of playing and tells of no end. -/
theorem InLine.play (h : InLine before w told) (hw : w.supervisor.state = .handshaking)
    (a : Attempt) (n : Handshake.Negotiated) (c : Connection) :
    ∃ ns, InLine before (w.play a n c).2.2 (told ++ ns) ∧ Ongoing ns ∧
      (w.play a n c).2.2.supervisor.state = .playing := by
  unfold Worker.play
  dsimp only
  generalize hrun : Playing.run _ _ _ = outcome
  have hquiet : outcome.2.Quiet := by
    rw [← hrun]
    exact (Playing.quiet_start _ _ _ _).run _ _
  obtain ⟨ns, hleave, hns, hsupervisor⟩ := (h.begin hw n.session).leave hquiet outcome.1
  rw [List.append_assoc, List.append_assoc] at hleave
  refine ⟨_, hleave, ?_, ?_⟩
  · apply ongoing_append
    · exact ⟨rfl, by decide⟩
    apply ongoing_append
    · exact ⟨rfl, List.not_mem_nil⟩
    · exact ongoing_quiet hns
  · rw [hsupervisor]
    exact state_begin hw n.session

/-- An attempt goes as far as it goes and leaves the worker in a state in which it can fail. -/
theorem InLine.attempt (h : InLine before w told) (hw : w.supervisor.state = .connecting)
    (a : Attempt) :
    ∃ ns, InLine before (w.attempt a).2.2 (told ++ ns) ∧ Ongoing ns ∧
      (w.attempt a).2.2.supervisor.state.Fallible := by
  unfold Worker.attempt
  cases w.dial a with
  | error halt =>
    refine ⟨[], ?_, ⟨rfl, List.not_mem_nil⟩, ?_⟩
    · rw [List.append_nil]
      exact h.note
    · change Lifecycle.State.Fallible w.supervisor.state
      rw [hw]
      rfl
  | ok x =>
    have hconnected := h.connected hw
    have hstate := state_connected hw
    dsimp only
    rcases w.shake a x.1 x.2 with ⟨result, c⟩
    cases result with
    | error halt =>
      refine ⟨_, hconnected, ⟨rfl, by decide⟩, ?_⟩
      dsimp only
      rw [hstate]
      rfl
    | ok n =>
      obtain ⟨ns, hplay, hns, hplaying⟩ := hconnected.play hstate a n c
      rw [List.append_assoc] at hplay
      refine ⟨_, hplay, ongoing_append ⟨rfl, by decide⟩ hns, ?_⟩
      dsimp only
      rw [hplaying]
      rfl

end Pull.Worker

end Rtsp
