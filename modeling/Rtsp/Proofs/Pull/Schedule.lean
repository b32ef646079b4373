import Rtsp.Proofs.Connection.Stream
import Rtsp.Proofs.Pull.Notices
import Rtsp.Proofs.Relay.Resting
import Rtsp.Proofs.Session.Routing

/-!
A session as its relay sees it. Each event is a few moves of the relay, or none: a frame on a
channel of the session is a push, and so is a datagram at the port of a medium; the delivery takes
and releases; a cancellation is one for the relay as well. The schedule of a session is the moves
of its events in order, after the pushes of the frames that were kept before it began.

The relay that goes through the schedule is the relay of the session, at every moment. So the pushes
that it counts are those of the session, and what it accepts is what the owner is to be given.
-/
namespace Rtsp.Pull.Playing

variable {settings : Settings} {session : Session} {ports : List Handshake.Pair}
  {t : Relay.Traffic} {p : Playing} {e : Event}

section Schedule

/-- The moves that a unit of the control stream makes. -/
def carried (p : Playing) : Message → List Relay.Move
  | .frame f => ((p.session.packet? f).map .push).toList
  | .request _ | .response _ => []

/-- The moves that a turn of the reader makes. -/
def turned (p : Playing) : List Relay.Move :=
  if p.connection.cancellation.requested ∨ p.failure.isSome then []
  else
    match p.connection.poll with
    | (.error _, c) => if c.cancellation.requested then [.cancel] else []
    | (.ok (.nothing _), _) => []
    | (.ok (.unit m), _) => p.carried m

/-- The moves that an event makes. -/
def moves (p : Playing) : Event → List Relay.Move
  | .turn _ => p.turned
  | .datagram medium kind payload =>
    if medium < p.ports.length then [.push ⟨medium, kind, payload⟩] else []
  | .take => [.fetch, .look, .enter]
  | .release => [.release]
  | .cancel => [.cancel]
  | .report _ | .ping | .fault _ => []

/-- The moves that are made after the end of the reader. -/
def windMoves (settings : Settings) : Playing → List Event → List Relay.Move
  | _, [] => []
  | p, .turn _ :: rest => windMoves settings p rest
  | p, e :: rest => p.moves e ++ windMoves settings (p.step settings e).2 rest

/-- The moves that are made until a session ends, and while it is wound up. -/
def runMoves (settings : Settings) : Playing → List Event → List Relay.Move
  | _, [] => [.cancel]
  | p, e :: rest =>
    p.moves e ++
      match p.step settings e with
      | (some _, p) => windMoves settings p rest
      | (none, p) => runMoves settings p rest

/-- All moves of a session with its pairs of ports on a connection. -/
def schedule (settings : Settings) (session : Session) (ports : List Handshake.Pair)
    (connection : Connection) (events : List Event) : List Relay.Move :=
  (connection.early.filterMap session.packet?).map .push ++
    (start settings session ports connection).runMoves settings events

variable {P : Relay.Traffic → Playing → Prop}

/-- What every event keeps is so when a session was wound up. -/
theorem windMoves_induction
    (hstep : ∀ t p e, P t p → P (t.run (p.moves e)) (p.step settings e).2)
    (h : P t p) (events : List Event) :
    P (t.run (windMoves settings p events)) (events.foldl (wind settings) p) := by
  induction events generalizing t p with
  | nil => exact h
  | cons e rest ih =>
    cases e with
    | turn idle => exact ih h
    | _ =>
      unfold windMoves
      rw [Relay.Traffic.run_append]
      exact ih (hstep _ _ _ h)

/-- What every event keeps, and a cancellation, is so at the end of a session. -/
theorem runMoves_induction
    (hstep : ∀ t p e, P t p → P (t.run (p.moves e)) (p.step settings e).2)
    (hcancel : ∀ t p, P t p → P (t.run [.cancel]) p.cancel) (h : P t p) (events : List Event) :
    P (t.run (p.runMoves settings events)) (p.run settings events).2 := by
  induction events generalizing t p with
  | nil => exact hcancel _ _ h
  | cons e rest ih =>
    have hnext := hstep _ _ e h
    unfold runMoves Playing.run
    rw [Relay.Traffic.run_append]
    rcases hresult : p.step settings e with ⟨_ | halt, p'⟩
    · rw [hresult] at hnext
      exact ih hnext
    · rw [hresult] at hnext
      exact windMoves_induction hstep hnext rest

end Schedule

section Send

/-- Something was sent, or it failed. -/
structure Sends (p p' : Playing) : Prop where
  session_eq : p'.session = p.session
  ports_eq : p'.ports = p.ports
  relay_eq : p'.relay = p.relay
  notices_eq : p'.notices = p.notices
  untouched : p.connection.Untouched p'.connection

theorem sends_reportFrom (ssrc : UInt32) (tracks : List Session.Track) (p : Playing) :
    p.Sends (reportFrom ssrc tracks p) := by
  induction tracks generalizing p with
  | nil => exact ⟨rfl, rfl, rfl, rfl, .refl _⟩
  | cons track rest ih =>
    unfold reportFrom
    split
    · exact ih p
    rename_i rtcp _
    have hsent := p.connection.untouched_sendFrame ⟨rtcp, Rtp.receiverReport ssrc⟩
    split
    · rename_i c heq
      rw [heq] at hsent
      have hrest := ih { p with connection := c }
      exact ⟨hrest.session_eq, hrest.ports_eq, hrest.relay_eq, hrest.notices_eq,
        hsent.trans hrest.untouched⟩
    · rename_i heq
      rw [heq] at hsent
      exact ⟨rfl, rfl, rfl, rfl, hsent⟩

theorem sends_ping (p : Playing) : p.Sends p.ping := by
  have hsent := p.connection.untouched_sendRequest (.make .options p.session.base)
  unfold Playing.ping
  split
  · rename_i heq
    rw [heq] at hsent
    exact ⟨rfl, rfl, rfl, rfl, hsent⟩
  · rename_i heq
    rw [heq] at hsent
    exact ⟨rfl, rfl, rfl, rfl, hsent⟩

end Send

/-- A relay is that of the session, and the owner was told what it was given. All that was pushed is
of a medium of the session, since no pair of ports is without one, and there was a cancellation only
if one is requested. -/
structure Mirrors (session : Session) (ports : List Handshake.Pair) (t : Relay.Traffic)
    (p : Playing) : Prop where
  relay_eq : t.relay = p.relay
  resting : t.Resting
  session_eq : p.session = session
  ports_eq : p.ports = ports
  ports_le : ports.length ≤ session.tracks.length
  told : p.notices = p.relay.given.map .packet
  media : ∀ x ∈ t.pushes, x.1.medium < session.tracks.length
  heeds : p.relay.cancelled = true → p.connection.cancellation.requested = true

section Moves

/-- The owner is told of every packet that a move of the relay gives it. -/
theorem Mirrors.move (h : Mirrors session ports t p) {t' : Relay.Traffic} {f : Relay → Relay}
    (ht : t'.relay = f t.relay) (hresting : t'.Resting)
    (hgiven : p.relay.given <+: (f p.relay).given)
    (hcancelled : (f p.relay).cancelled = p.relay.cancelled)
    (hmedia : ∀ x ∈ t'.pushes, x.1.medium < session.tracks.length) :
    Mirrors session ports t' (p.move f) where
  relay_eq := by
    rw [ht, h.relay_eq]
    rfl
  resting := hresting
  session_eq := h.session_eq
  ports_eq := h.ports_eq
  ports_le := h.ports_le
  told := by
    obtain ⟨more, hmore⟩ := hgiven
    simp only [Playing.move, ← hmore, List.drop_left, h.told, List.map_append]
  media := hmedia
  heeds := fun hyes => h.heeds (hcancelled.symm.trans hyes)

theorem Mirrors.push (h : Mirrors session ports t p) {packet : Packet}
    (hmedium : packet.medium < session.tracks.length) :
    Mirrors session ports (t.run [.push packet]) (p.push packet) := by
  have hstep : t.run [.push packet] = t.push packet := if_pos h.resting.pushers
  rw [hstep]
  refine h.move rfl (h.resting.push packet) (Relay.given_push _ _) (Relay.cancelled_push _ _) ?_
  intro x hx
  rcases List.mem_append.mp hx with hx | hx
  · exact h.media x hx
  · rwa [List.mem_singleton.mp hx]

theorem Mirrors.take (h : Mirrors session ports t p) :
    Mirrors session ports (t.run [.fetch, .look, .enter]) (p.move Relay.take) := by
  rw [Relay.Traffic.run_take h.resting.free]
  exact h.move rfl h.resting.take (Relay.given_take _) (Relay.cancelled_take _) h.media

theorem Mirrors.release (h : Mirrors session ports t p) :
    Mirrors session ports (t.run [.release]) (p.move Relay.release) :=
  h.move rfl h.resting.release (Relay.given_release _ ▸ List.prefix_rfl)
    (Relay.cancelled_release _) h.media

theorem Mirrors.cancel (h : Mirrors session ports t p) {p' : Playing}
    (hsession : p'.session = p.session) (hports : p'.ports = p.ports)
    (hrelay : p'.relay = p.relay.cancel) (hnotices : p'.notices = p.notices)
    (hrequested : p'.connection.cancellation.requested = true) :
    Mirrors session ports (t.run [.cancel]) p' where
  relay_eq := by
    rw [hrelay, ← h.relay_eq]
    rfl
  resting := h.resting.cancel
  session_eq := hsession.trans h.session_eq
  ports_eq := hports.trans h.ports_eq
  ports_le := h.ports_le
  told := by
    rw [hnotices, h.told, hrelay]
    rfl
  media := h.media
  heeds := fun _ => hrequested

/-- Where nothing happens to the relay, the connection matters only in what is asked of it. -/
theorem Mirrors.keep (h : Mirrors session ports t p) {p' : Playing}
    (hsession : p'.session = p.session) (hports : p'.ports = p.ports)
    (hrelay : p'.relay = p.relay) (hnotices : p'.notices = p.notices)
    (hheeds : p.relay.cancelled = true → p'.connection.cancellation.requested = true) :
    Mirrors session ports (t.run []) p' where
  relay_eq := h.relay_eq.trans hrelay.symm
  resting := h.resting
  session_eq := hsession.trans h.session_eq
  ports_eq := hports.trans h.ports_eq
  ports_le := h.ports_le
  told := by rw [hnotices, h.told, hrelay]
  media := h.media
  heeds := fun hyes => hheeds (hrelay ▸ hyes)

/-- A frame is a push if its channel belongs to the session. -/
theorem Mirrors.route (h : Mirrors session ports t p) (f : Frame) :
    Mirrors session ports (t.run ((session.packet? f).map .push).toList) (p.route f) := by
  have hroute : p.route f = (session.packet? f).elim p p.push := by
    unfold Playing.route Session.packet?
    rw [h.session_eq]
    cases session.route? f.channel <;> rfl
  rw [hroute]
  cases hpacket : session.packet? f with
  | none => exact h
  | some packet => exact h.push (Session.medium_lt_of_packet? hpacket)

theorem Mirrors.receive (h : Mirrors session ports t p) (hno : p.relay.cancelled = false) (m : Message) :
    Mirrors session ports (t.run (p.carried m)) (p.receive m).2 := by
  cases m with
  | frame f =>
    unfold carried
    rw [h.session_eq]
    exact h.route f
  | request r => exact h.keep rfl rfl rfl rfl fun hyes => absurd hyes (Bool.eq_false_iff.mp hno)
  | response r => exact h

/-- A turn of the reader. Until a cancellation is requested the relay knows of none. -/
theorem Mirrors.turn (h : Mirrors session ports t p) (settings : Settings) (idle : Bool) :
    Mirrors session ports (t.run p.turned) (p.turn settings idle).2 := by
  unfold turned Playing.turn
  by_cases hrequested : p.connection.cancellation.requested = true
  · rw [if_pos (.inl hrequested), if_pos hrequested]
    exact h
  by_cases hfailure : p.failure.isSome = true
  · rw [if_pos (.inr hfailure), if_neg hrequested, if_pos hfailure]
    exact h
  have hno : p.relay.cancelled = false :=
    Bool.eq_false_iff.mpr fun hyes => hrequested (h.heeds hyes)
  rw [if_neg (not_or.mpr ⟨hrequested, hfailure⟩), if_neg hrequested, if_neg hfailure]
  rcases p.connection.poll with ⟨result, c⟩
  have hpolled : Mirrors session ports t { p with connection := c } :=
    h.keep rfl rfl rfl rfl fun hyes => absurd hyes (Bool.eq_false_iff.mp hno)
  rcases result with halt | ⟨m | late⟩
  · dsimp only [follow]
    by_cases hmet : c.cancellation.requested = true
    · simp only [if_pos hmet]
      exact h.cancel rfl rfl rfl rfl hmet
    · simp only [if_neg hmet]
      exact hpolled
  · have hreceived := hpolled.receive hno m
    dsimp only
    split
    · rename_i heq
      rw [heq] at hreceived
      exact hreceived
    · rename_i heq
      rw [heq] at hreceived
      exact hreceived
  · exact hpolled

theorem Mirrors.datagram (h : Mirrors session ports t p) (medium : Nat) (kind : Packet.Kind)
    (payload : Bytes) :
    Mirrors session ports (t.run (p.moves (.datagram medium kind payload)))
      (p.datagram medium kind payload) := by
  simp only [moves, Playing.datagram]
  split
  · rename_i hport
    rw [h.ports_eq] at hport
    exact h.push (Nat.lt_of_lt_of_le hport h.ports_le)
  · exact h

/-- What the client sends is nothing to the relay. -/
theorem Mirrors.sends (h : Mirrors session ports t p) {p' : Playing} (hp : p.Sends p') :
    Mirrors session ports t p' :=
  h.keep hp.session_eq hp.ports_eq hp.relay_eq hp.notices_eq fun hyes => by
    rw [hp.untouched.cancellation]
    exact h.heeds hyes

/-- One event. -/
theorem Mirrors.step (h : Mirrors session ports t p) (settings : Settings) (e : Event) :
    Mirrors session ports (t.run (p.moves e)) (p.step settings e).2 := by
  cases e with
  | turn idle => exact h.turn settings idle
  | datagram medium kind payload => exact h.datagram medium kind payload
  | take => exact h.take
  | release => exact h.release
  | report ssrc => exact h.sends (sends_reportFrom ssrc p.session.tracks p)
  | ping => exact h.sends (sends_ping p)
  | fault f => exact h.keep rfl rfl rfl rfl h.heeds
  | cancel => exact h.cancel rfl rfl rfl rfl rfl

/-- The whole session. -/
theorem Mirrors.run (h : Mirrors session ports t p) (settings : Settings) (events : List Event) :
    Mirrors session ports (t.run (p.runMoves settings events)) (p.run settings events).2 :=
  runMoves_induction (fun _ _ e h => h.step settings e) (fun _ _ h => h.cancel rfl rfl rfl rfl rfl) h
    events

end Moves

/-- The frames that were kept go before all else. -/
theorem mirrors_start (settings : Settings) (hports : ports.length ≤ session.tracks.length)
    (connection : Connection) :
    Mirrors session ports
      ((Relay.Traffic.start settings.queueSize).run
        ((connection.early.filterMap session.packet?).map .push))
      (start settings session ports connection) := by
  have hfold : ∀ (early : List Frame) (t : Relay.Traffic) (p : Playing), Mirrors session ports t p →
      Mirrors session ports (t.run ((early.filterMap session.packet?).map .push))
        (early.foldl Playing.route p) := by
    intro early
    induction early with
    | nil => exact fun t p h => h
    | cons f rest ih =>
      intro t p h
      have hmoves : ((f :: rest).filterMap session.packet?).map Relay.Move.push =
          ((session.packet? f).map .push).toList ++ (rest.filterMap session.packet?).map .push := by
        cases hpacket : session.packet? f <;> simp [hpacket]
      rw [hmoves, Relay.Traffic.run_append]
      exact ih _ _ (h.route f)
  exact hfold _ _ _
    ⟨rfl, Relay.Traffic.resting_start _, rfl, rfl, hports, rfl, fun x hx => absurd hx List.not_mem_nil,
      fun hyes => absurd hyes Bool.false_ne_true⟩

/-- At its end, the relay of a session is one that went through the schedule of the session. -/
theorem mirrors_schedule (settings : Settings) (hports : ports.length ≤ session.tracks.length)
    (connection : Connection) (events : List Event) :
    Mirrors session ports
      ((Relay.Traffic.start settings.queueSize).run
        (schedule settings session ports connection events))
      ((start settings session ports connection).run settings events).2 := by
  unfold schedule
  rw [Relay.Traffic.run_append]
  exact (mirrors_start settings hports connection).run settings events

/-- Nobody pushes any more, and the relay comes to its end. -/
theorem Mirrors.close (h : Mirrors session ports t p) :
    p.close.notices = t.relay.close.given.map .packet ++ [.notReady] := by
  have hsent := p.connection.untouched_sendRequest (.make .teardown p.session.base)
  let c := if p.connection.cancellation.requested then
    (p.connection.sendRequest (.make .teardown p.session.base)).2 else p.connection
  have hkept : c.cancellation = p.connection.cancellation := by
    simp only [c]
    split
    · exact hsent.cancellation
    · rfl
  have hbefore : Mirrors session ports t { p with connection := c } :=
    h.keep rfl rfl rfl rfl fun hyes => by rw [hkept]; exact h.heeds hyes
  have hafter : Mirrors session ports { t with relay := t.relay.close }
      (({ p with connection := c } : Playing).move Relay.close) :=
    hbefore.move rfl h.resting.close (Relay.given_close _) (Relay.cancelled_close _) h.media
  have hnotices : p.close.notices =
    (({ p with connection := c } : Playing).move Relay.close).notices ++ [.notReady] := rfl
  rw [hnotices, hafter.told, ← hafter.relay_eq]

end Rtsp.Pull.Playing
