import Rtsp.Proofs.Connection.Host
import Rtsp.Proofs.Handshake.Rules
import Rtsp.Pull.Source

/-!
What an attempt can end in. Neither the dialling nor a sign of life that could not be sent is a
reason to give UDP up, and the control connection knows none either. So there are two: a server
that refuses UDP for a medium, and a session over UDP in which nothing has ever come. In both cases
the attempt was one over UDP that nobody had asked for.
-/
namespace Rtsp.Pull

/-- What can come of dialling instead of a connection: no route to the server, no time left, no
trust in it, or a stop. -/
inductive Undialled : Fault → Prop
  | address (reason : Text) : Undialled (.address reason)
  | setting (reason : Text) : Undialled (.setting reason)
  | certificate (expected : Text) : Undialled (.certificate expected)
  | connection (reason : Text) : Undialled (.connection reason)
  | timeout (phase : Phase) : Undialled (.timeout phase)
  | cancelled : Undialled .cancelled

/-- Why a sign of life is not sent. -/
inductive Unsent : Fault → Prop
  | connection (reason : Text) : Unsent (.connection reason)
  | timeout (phase : Phase) : Unsent (.timeout phase)
  | cancelled : Unsent .cancelled

/-- An attempt to which the world contributes what it can: faults of its own are those of dialling
and of sending. -/
structure Attempt.Possible (a : Attempt) : Prop where
  dial : ∀ f, a.dial = .error f → Undialled f
  events : ∀ f, .fault f ∈ a.events → Unsent f

theorem Undialled.ordinary {f : Fault} (h : Undialled f) : Halt.Ordinary (.fault f) :=
  Halt.ordinary_of_kind (by cases h <;> exact fun hkind => by cases hkind)

theorem Unsent.ordinary {f : Fault} (h : Unsent f) : Halt.Ordinary (.fault f) :=
  Halt.ordinary_of_kind (by cases h <;> exact fun hkind => by cases hkind)

namespace Playing

variable {p : Playing} {settings : Settings} {session : Session}

/-- The session is still the one that was negotiated, and the reader is left no reason to give UDP
up. -/
structure Lasting (session : Session) (p : Playing) : Prop where
  session_eq : p.session = session
  failure : ∀ h, p.failure = some h → h.Ordinary

theorem Lasting.congr {p' : Playing} (hp : p.Lasting session) (hsession : p'.session = p.session)
    (hfailure : p'.failure = p.failure) : p'.Lasting session :=
  ⟨hsession.trans hp.session_eq, fun h hh => hp.failure h (hfailure ▸ hh)⟩

theorem Lasting.route (hp : p.Lasting session) (f : Frame) : (p.route f).Lasting session := by
  unfold Playing.route
  split
  · exact hp.congr rfl rfl
  · exact hp

theorem lasting_start (settings : Settings) (session : Session) (ports : List Handshake.Pair)
    (connection : Connection) : (start settings session ports connection).Lasting session := by
  have hfold : ∀ (early : List Frame) (p : Playing), p.Lasting session →
      (early.foldl Playing.route p).Lasting session := by
    intro early
    induction early with
    | nil => exact fun p hp => hp
    | cons f rest ih => exact fun p hp => ih _ (hp.route f)
  exact hfold _ _ ⟨rfl, fun h hh => by cases hh⟩

theorem Lasting.receive (hp : p.Lasting session) (m : Message) :
    (p.receive m).2.Lasting session ∧ ∀ h, (p.receive m).1 = .error h → h.Ordinary := by
  cases m with
  | frame f => exact ⟨hp.route f, fun h hh => by cases hh⟩
  | response r => exact ⟨hp, fun h hh => by cases hh⟩
  | request r =>
    exact ⟨hp.congr rfl rfl, fun h hh => Connection.ordinary_write (Prod.ext hh rfl)⟩

theorem Lasting.reportFrom (hp : p.Lasting session) (ssrc : UInt32)
    (tracks : List Session.Track) : (reportFrom ssrc tracks p).Lasting session := by
  induction tracks generalizing p with
  | nil => exact hp
  | cons t rest ih =>
    unfold Playing.reportFrom
    split
    · exact ih hp
    split
    · exact ih (hp.congr rfl rfl)
    · rename_i h c hsend
      refine ⟨hp.session_eq, ?_⟩
      rintro h ⟨⟩
      exact Connection.ordinary_sendFrame hsend

theorem Lasting.ping (hp : p.Lasting session) : p.ping.Lasting session := by
  unfold Playing.ping
  split
  · exact hp.congr rfl rfl
  · rename_i h c hsend
    refine ⟨hp.session_eq, ?_⟩
    rintro h ⟨⟩
    exact Connection.ordinary_sendRequest hsend

/-- UDP is given up only where it was tried without being asked for. -/
def Permits (settings : Settings) (session : Session) (h : Halt) : Prop :=
  ∀ reason, h = .fault (.fallback reason) → session.mode = .udp ∧ settings.transport = .auto

theorem permits_of_ordinary {h : Halt} (hh : h.Ordinary) : Permits settings session h :=
  fun reason heq => absurd heq (hh reason)

theorem Lasting.permits_silence (hp : p.Lasting session) :
    Permits settings session (.fault (p.silence settings)) := by
  intro reason heq
  unfold silence at heq
  split at heq
  · rename_i hnone
    exact ⟨hp.session_eq ▸ hnone.1, hnone.2.2⟩
  · cases heq

theorem Lasting.permits_afterTurn (hp : p.Lasting session) {idle : Bool} {h : Halt}
    (hh : p.afterTurn settings idle = some h) : Permits settings session h := by
  unfold afterTurn at hh
  split at hh
  · exact Option.some.inj hh ▸ hp.permits_silence
  · cases hh

/-- A turn of the reader. -/
theorem Lasting.turn (hp : p.Lasting session) (settings : Settings) (idle : Bool) :
    (p.turn settings idle).2.Lasting session ∧
      ∀ h, (p.turn settings idle).1 = some h → Permits settings session h := by
  unfold Playing.turn
  split
  · refine ⟨hp, ?_⟩
    rintro h ⟨⟩
    exact permits_of_ordinary (Halt.ordinary_of_kind fun hkind => by cases hkind)
  split
  · exact ⟨hp, fun h hh => permits_of_ordinary (hp.failure h hh)⟩
  split
  · rename_i h c hpoll
    refine ⟨hp.congr rfl rfl, ?_⟩
    rintro h ⟨⟩
    exact permits_of_ordinary (Connection.ordinary_poll hpoll)
  · rename_i late c hpoll
    have hp' : Playing.Lasting session { p with connection := c } := hp.congr rfl rfl
    exact ⟨hp', fun h hh => hp'.permits_afterTurn hh⟩
  · rename_i m c hpoll
    have hmoved : Playing.Lasting session { p with connection := c } := hp.congr rfl rfl
    obtain ⟨hp', hhalt⟩ := hmoved.receive m
    split
    · rename_i hreceive
      rw [hreceive] at hp' hhalt
      refine ⟨hp', ?_⟩
      rintro h ⟨⟩
      exact permits_of_ordinary (hhalt _ rfl)
    · rename_i hreceive
      rw [hreceive] at hp'
      exact ⟨hp', fun h hh => hp'.permits_afterTurn hh⟩

/-- One event. -/
theorem Lasting.step (hp : p.Lasting session) (settings : Settings) {e : Event}
    (he : ∀ f, e = .fault f → Unsent f) :
    (p.step settings e).2.Lasting session ∧
      ∀ h, (p.step settings e).1 = some h → Permits settings session h := by
  cases e with
  | turn idle => exact hp.turn settings idle
  | datagram medium kind payload =>
    refine ⟨?_, fun h hh => by cases hh⟩
    simp only [Playing.step, datagram]
    split
    · exact hp.congr rfl rfl
    · exact hp
  | take => exact ⟨hp.congr rfl rfl, fun h hh => by cases hh⟩
  | release => exact ⟨hp.congr rfl rfl, fun h hh => by cases hh⟩
  | report ssrc => exact ⟨hp.reportFrom ssrc _, fun h hh => by cases hh⟩
  | ping => exact ⟨hp.ping, fun h hh => by cases hh⟩
  | fault f =>
    refine ⟨⟨hp.session_eq, ?_⟩, fun h hh => by cases hh⟩
    rintro h ⟨⟩
    exact (he f rfl).ordinary
  | cancel => exact ⟨hp.congr rfl rfl, fun h hh => by cases hh⟩

/-- A session until it ends. -/
theorem Lasting.run (hp : p.Lasting session) (settings : Settings) {events : List Event}
    (hevents : ∀ f, .fault f ∈ events → Unsent f) :
    Permits settings session (p.run settings events).1 := by
  induction events generalizing p with
  | nil => exact permits_of_ordinary (Halt.ordinary_of_kind fun hkind => by cases hkind)
  | cons e rest ih =>
    obtain ⟨hp', hhalt⟩ := hp.step settings fun f hf => hevents f (hf ▸ List.mem_cons_self)
    unfold Playing.run
    split
    · rename_i hstep
      rw [hstep] at hhalt
      exact hhalt _ rfl
    · rename_i hstep
      rw [hstep] at hp'
      exact ih hp' fun f hf => hevents f (List.mem_cons_of_mem e hf)

end Playing

namespace Worker

variable {w : Worker} {a : Attempt}

/-- Whether UDP has been given up. -/
def forced (w : Worker) : Bool := w.supervisor.reconnect.forceTcp

/-- The plan of an attempt. -/
def plan (w : Worker) (a : Attempt) : Handshake.Plan := ⟨w.source.settings, w.mode, a.ports⟩

theorem mayFallBack_iff :
    Handshake.mayFallBack (w.plan a) = true ↔
      w.source.settings.transport = .auto ∧ w.source.settings.locator.isSecure = false ∧
        w.forced = false := by
  simp only [Handshake.mayFallBack, plan, mode, Settings.mode, Settings.Preference.mode, forced,
    Bool.and_eq_true, beq_iff_eq]
  cases w.source.settings.transport <;> cases w.source.settings.locator.isSecure <;>
    cases w.supervisor.reconnect.forceTcp <;> simp

/-- The handshake of an attempt asks for the transport of the attempt, sets up what travels that way
with the ports that it takes, and gives UDP up only where it may. -/
theorem shake_keeps (w : Worker) (a : Attempt) (arrivals : List Connection.Arrival)
    (writes : List (Option Fault.Trouble)) :
    (∀ r ∈ (w.shake a arrivals writes).2.requests, Handshake.Asks w.mode r) ∧
      (∀ n, (w.shake a arrivals writes).1 = .ok n →
        n.session.tracks ≠ [] ∧ (∀ t ∈ n.session.tracks, t.carrier.mode = w.mode) ∧
          Handshake.Paired w.mode n.session.tracks.length n.ports) ∧
      ∀ h, (w.shake a arrivals writes).1 = .error h → Handshake.Warranted (w.plan a) h := by
  have hkeeps := (Handshake.rules_asks (w.plan a)).dialogue a.entropy
  obtain ⟨hsent, hok, hhalt⟩ := hkeeps.run (Connection.hosts_exchange _)
    (s := .start arrivals writes a.entropy) fun r hr => absurd hr List.not_mem_nil
  refine ⟨?_, hok, ?_⟩
  · intro sent hmem hmethod
    obtain ⟨r, hasks, hcarries⟩ := hsent sent hmem
    obtain ⟨proposal, hmode, hvalues⟩ := hasks (hcarries.method_eq.symm.trans hmethod)
    exact ⟨proposal, hmode, (hcarries.values_eq _ (by decide)).trans hvalues⟩
  · intro h hh
    rcases hhalt h hh with hwarranted | hordinary
    · exact hwarranted
    · exact fun reason heq => absurd heq (hordinary reason)

theorem mode_of_tracks {s : Session} {m : Session.Mode} (hne : s.tracks ≠ [])
    (h : ∀ t ∈ s.tracks, t.carrier.mode = m) : s.mode = m := by
  unfold Session.mode
  cases htracks : s.tracks with
  | nil => exact absurd htracks hne
  | cons t rest => exact h t (htracks ▸ List.mem_cons_self)

/-- A dialling comes to a connection if the world has one and the clock can tell the deadline. -/
theorem dial_eq_ok_iff {x : List Connection.Arrival × List (Option Fault.Trouble)} :
    w.dial a = .ok x ↔
      (a.times.dialling.after? w.source.settings.readTimeout).isSome ∧ a.dial = .ok x := by
  unfold dial
  cases a.times.dialling.after? w.source.settings.readTimeout <;> cases a.dial <;>
    simp [mapError_ok, mapError_error]

theorem ordinary_dial (ha : a.Possible) {h : Halt} (hh : w.dial a = .error h) : h.Ordinary := by
  unfold dial at hh
  split at hh
  · cases hdial : a.dial with
    | ok x =>
      rw [hdial] at hh
      cases hh
    | error f =>
      rw [hdial] at hh
      exact Except.error.inj hh ▸ (ha.dial f hdial).ordinary
  · obtain rfl := Except.error.inj hh
    rintro reason ⟨⟩

/-- An attempt gives UDP up only if it was one over UDP that nobody had asked for. -/
theorem attempt_warranted (ha : a.Possible) : Handshake.Warranted (w.plan a) (w.attempt a).1 := by
  unfold attempt
  cases hdial : w.dial a with
  | error h => exact fun reason heq => absurd heq (ordinary_dial ha hdial reason)
  | ok x =>
    obtain ⟨arrivals, writes⟩ := x
    obtain ⟨-, hok, hhalt⟩ := w.shake_keeps a arrivals writes
    dsimp only
    rcases hshake : w.shake a arrivals writes with ⟨result, c⟩
    rw [hshake] at hok hhalt
    cases result with
    | error h => exact hhalt h rfl
    | ok n =>
      obtain ⟨hne, htracks, -⟩ := hok n rfl
      intro reason heq
      have hpermits := (Playing.lasting_start w.source.settings n.session n.ports
        { c.attach n.session.id n.signer with entropy := n.entropy }).run w.source.settings
          ha.events
      obtain ⟨hudp, hauto⟩ := hpermits reason heq
      rw [mode_of_tracks hne htracks] at hudp
      simp only [Handshake.mayFallBack, plan, hudp, hauto, BEq.rfl, Bool.and_self]

theorem fire_keeps (w : Worker) (e : Lifecycle.Event) :
    (w.fire e).source.settings = w.source.settings ∧
      (w.fire e).source.journal = w.source.journal ∧
      (w.fire e).supervisor.reconnect = w.supervisor.reconnect := by
  refine ⟨rfl, rfl, ?_⟩
  simp only [fire, share, Supervisor.fire]
  split <;> rfl

theorem leave_keeps (w : Worker) (p : Playing) (h : Halt) :
    (w.leave p h).source.settings = w.source.settings ∧
      (w.leave p h).source.journal = w.source.journal ∧ (w.leave p h).supervisor = w.supervisor := by
  cases h <;> exact ⟨rfl, rfl, rfl⟩

/-- An attempt changes neither the settings nor what is remembered of UDP, and goes on record. -/
theorem attempt_keeps (w : Worker) (a : Attempt) :
    (w.attempt a).2.2.source.settings = w.source.settings ∧
      (w.attempt a).2.2.source.journal =
        w.source.journal ++ [.attempt w.mode w.supervisor.reconnect] ∧
      (w.attempt a).2.2.forced = w.forced := by
  unfold attempt
  cases w.dial a with
  | error h => exact ⟨rfl, rfl, rfl⟩
  | ok x =>
    dsimp only
    obtain ⟨-, -, hconnected⟩ := w.note.fire_keeps .connected
    rcases w.shake a x.1 x.2 with ⟨result, c⟩
    cases result with
    | error h => exact ⟨rfl, rfl, congrArg Reconnect.forceTcp hconnected⟩
    | ok n =>
      obtain ⟨-, -, hplayed⟩ := (w.note.fire .connected).fire_keeps .played
      have hforced := congrArg Reconnect.forceTcp (hplayed.trans hconnected)
      dsimp only [play]
      generalize Playing.run _ _ _ = outcome
      obtain ⟨hsettings, hjournal, hsupervisor⟩ :=
        ((w.note.fire .connected).begin n.session).leave_keeps outcome.2 outcome.1
      refine ⟨hsettings, hjournal, ?_⟩
      rw [forced, hsupervisor]
      exact hforced

end Worker

end Rtsp.Pull
