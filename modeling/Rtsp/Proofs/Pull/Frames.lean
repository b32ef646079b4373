import Rtsp.Proofs.Handshake.Last
import Rtsp.Proofs.Handshake.Pieces
import Rtsp.Proofs.Pull.Bracket

/-!
What becomes of the frames that a server sends. Those that come before the response to the request
to play are kept while there is room, and go to the relay when the session begins; each that comes
later goes there when it is read. So the relay is pushed the frames on channels of the session in
the order in which they came, each once, wherever they stand between other units and however the
bytes are cut into reads.
-/
namespace Rtsp

namespace Relay.Traffic

theorem map_pushes_push (t : Traffic) (p : Packet) :
    (t.push p).pushes.map Prod.fst = t.pushes.map Prod.fst ++ [p] := by
  simp [push]

theorem map_pushes_run {t : Traffic} (ht : 0 < t.pushers) (packets : List Packet) :
    (t.run (packets.map .push)).pushes.map Prod.fst = t.pushes.map Prod.fst ++ packets := by
  induction packets generalizing t with
  | nil => exact (List.append_nil _).symm
  | cons p rest ih =>
    have hstep : t.step (.push p) = t.push p := if_pos ht
    have hrest : 0 < (t.push p).pushers := ht
    rw [List.map_cons, run_cons, hstep, ih hrest, map_pushes_push, List.append_assoc]
    rfl

end Relay.Traffic

namespace Pull

open Relay (Traffic)

/-- What is heard from one connection to the other is pushed from one relay to the other. -/
def Relays (session : Session) (c c' : Connection) (t t' : Traffic) : Prop :=
  ∃ units, c.Hears units c' ∧
    t'.pushes.map Prod.fst =
      t.pushes.map Prod.fst ++ (framesOf units).filterMap session.packet?

variable {session : Session} {c c' c'' : Connection} {t t' t'' : Traffic}

theorem Relays.trans (h : Relays session c c' t t') (h' : Relays session c' c'' t' t'') :
    Relays session c c'' t t'' := by
  obtain ⟨units, hears, hpushes⟩ := h
  obtain ⟨units', hears', hpushes'⟩ := h'
  refine ⟨units ++ units', hears.trans hears', ?_⟩
  rw [hpushes', hpushes, framesOf_append, List.filterMap_append, List.append_assoc]

/-- Nothing is heard, and nothing is pushed. -/
theorem relays_nil (hears : c.Hears [] c') (hpushes : t'.pushes = t.pushes) :
    Relays session c c' t t' :=
  ⟨[], hears, by rw [hpushes]; exact (List.append_nil _).symm⟩

namespace Playing

variable {settings : Settings} {ports : List Handshake.Pair} {p : Playing}

theorem connection_route (p : Playing) (f : Frame) : (p.route f).connection = p.connection := by
  unfold Playing.route
  split <;> rfl

theorem hears_receive (p : Playing) (m : Message) :
    p.connection.Hears [] (p.receive m).2.connection := by
  cases m with
  | frame f =>
    exact Connection.hears_nil (congrArg _ (connection_route p f))
      (congrArg _ (connection_route p f))
  | request r => exact (p.connection.untouched_write _).hears
  | response r => exact .refl _

theorem Mirrors.relays_carried (h : Mirrors session ports t p) (m : Message) :
    (t.run (p.carried m)).pushes.map Prod.fst =
      t.pushes.map Prod.fst ++ (framesOf [m]).filterMap session.packet? := by
  cases m with
  | frame f =>
    have hmoves : p.carried (.frame f) = ((session.packet? f).toList).map .push := by
      simp only [carried, h.session_eq]
      cases session.packet? f <;> rfl
    have hframes : (framesOf [.frame f]).filterMap session.packet? =
        (session.packet? f).toList := by
      cases hpacket : session.packet? f <;> simp [framesOf, Message.frame?, hpacket]
    rw [hmoves, hframes]
    exact Relay.Traffic.map_pushes_run h.resting.pushers _
  | request r => exact (List.append_nil _).symm
  | response r => exact (List.append_nil _).symm

theorem Mirrors.relays_turn (h : Mirrors session ports t p) (settings : Settings) (idle : Bool) :
    Relays session p.connection (p.turn settings idle).2.connection t (t.run p.turned) := by
  unfold turned Playing.turn
  by_cases hrequested : p.connection.cancellation.requested = true
  · rw [if_pos hrequested, if_pos (.inl hrequested)]
    exact relays_nil (.refl _) rfl
  by_cases hfailure : p.failure.isSome = true
  · rw [if_neg hrequested, if_pos hfailure, if_pos (.inr hfailure)]
    exact relays_nil (.refl _) rfl
  rw [if_neg hrequested, if_neg hfailure, if_neg (not_or.mpr ⟨hrequested, hfailure⟩)]
  rcases hpoll : p.connection.poll with ⟨found, c⟩
  rcases found with halt | ⟨m | late⟩
  · have hears : p.connection.Hears [] c := .nothing hpoll (by simp) (.refl c)
    dsimp only [follow]
    split <;> exact relays_nil hears rfl
  · have hreceived := hears_receive { p with connection := c } m
    have hpushes := h.relays_carried m
    dsimp only
    -- A unit is heard even if the answer to it cannot be sent.
    split
    · rename_i heq
      rw [heq] at hreceived
      exact ⟨[m], .unit hpoll hreceived, hpushes⟩
    · rename_i heq
      rw [heq] at hreceived
      exact ⟨[m], .unit hpoll hreceived, hpushes⟩
  · exact relays_nil (.nothing hpoll (by simp) (.refl c)) rfl

/-- One event. Where there are no ports, datagrams reach nothing. -/
theorem Mirrors.relays_step (h : Mirrors session [] t p) (settings : Settings) (e : Event) :
    Relays session p.connection (p.step settings e).2.connection t (t.run (p.moves e)) := by
  cases e with
  | turn idle => exact h.relays_turn settings idle
  | datagram medium kind payload =>
    simp only [Playing.step, Playing.datagram, moves, h.ports_eq, List.length_nil,
      Nat.not_lt_zero, if_false]
    exact relays_nil (.refl _) rfl
  | take =>
    have htake := Relay.Traffic.run_take h.resting.free
    simp only [moves, htake]
    exact relays_nil (.refl _) rfl
  | release => exact relays_nil (.refl _) rfl
  | report ssrc => exact relays_nil (sends_reportFrom ssrc _ p).untouched.hears rfl
  | ping => exact relays_nil (sends_ping p).untouched.hears rfl
  | fault f => exact relays_nil (.refl _) rfl
  | cancel => exact relays_nil (Connection.hears_nil rfl rfl) rfl

/-- The whole session. -/
theorem Mirrors.relays_run (h : Mirrors session [] t p) (settings : Settings)
    (events : List Event) :
    Relays session p.connection (p.run settings events).2.connection t
      (t.run (p.runMoves settings events)) := by
  refine (runMoves_induction (P := fun t' p' => Mirrors session [] t' p' ∧
    Relays session p.connection p'.connection t t') ?_ ?_ ⟨h, relays_nil (.refl _) rfl⟩ events).2
  · intro t' p' e ⟨hmirrors, hrelays⟩
    exact ⟨hmirrors.step settings e, hrelays.trans (hmirrors.relays_step settings e)⟩
  · intro t' p' ⟨hmirrors, hrelays⟩
    have hears : p'.connection.Hears [] p'.cancel.connection := Connection.hears_nil rfl rfl
    exact ⟨hmirrors.cancel rfl rfl rfl rfl rfl, hrelays.trans (relays_nil hears rfl)⟩

theorem connection_start (settings : Settings) (session : Session) (ports : List Handshake.Pair)
    (connection : Connection) :
    (start settings session ports connection).connection = { connection with early := [] } := by
  have hfold : ∀ (early : List Frame) (p : Playing),
      (early.foldl Playing.route p).connection = p.connection := by
    intro early
    induction early with
    | nil => exact fun p => rfl
    | cons f rest ih =>
      intro p
      rw [List.foldl_cons, ih, connection_route]
  exact hfold _ _

/-- All that is pushed in a session without ports: the frames that were kept, and those that are
heard. -/
theorem pushes_schedule (settings : Settings) (session : Session) (connection : Connection)
    (events : List Event) :
    ∃ units, connection.Hears units
        ((start settings session [] connection).run settings events).2.connection ∧
      ((Traffic.start settings.queueSize).run
        (schedule settings session [] connection events)).pushes.map Prod.fst =
        (connection.early ++ framesOf units).filterMap session.packet? := by
  have hstart : Mirrors session [] _ (start settings session [] connection) :=
    mirrors_start settings (Nat.zero_le _) connection
  obtain ⟨units, hears, hpushes⟩ := hstart.relays_run settings events
  rw [connection_start] at hears
  have hsame : connection.Hears [] { connection with early := [] } := Connection.hears_nil rfl rfl
  refine ⟨units, hsame.trans hears, ?_⟩
  unfold schedule
  rw [Relay.Traffic.run_append, hpushes, Relay.Traffic.map_pushes_run Nat.one_pos,
    List.filterMap_append]
  rfl

end Playing

namespace Worker

variable {w : Worker} {a : Attempt} {arrivals : List Connection.Arrival}
  {writes : List (Option Fault.Trouble)} {session : Session} {ports : List Handshake.Pair}
  {c : Connection}

/-- The exchange of a request to play has just ended, with this answer. -/
def Answered (c : Connection) (answer : Message) : Prop :=
  ∃ request reply c₀, request.method = Method.name .play ∧
    Connection.exchange c₀ request = (.ok reply, c) ∧ answer.received = .response reply

/-- What a handshake hears that ends in a session. -/
theorem hears_shake (hdial : a.dial = .ok (arrivals, writes))
    (hsession : w.session? a = some (session, ports, c)) :
    ∃ before reply, (Connection.start arrivals writes a.entropy).Hears
        (before ++ [.response reply]) c ∧
      c.early = (framesOf before).take Connection.earlyLimit ∧
      ∃ request c₀, request.method = Method.name .play ∧
        Connection.exchange c₀ request = (.ok reply, (w.shake a arrivals writes).2) := by
  obtain ⟨arrivals', writes', n, c₁, hdial', hshake, -, -, rfl⟩ := shake_of_session? hsession
  obtain ⟨rfl, rfl⟩ : arrivals = arrivals' ∧ writes = writes' :=
    Prod.mk.inj (Except.ok.inj (hdial.symm.trans (dial_eq_ok_iff.mp hdial').2))
  have hsame : c₁.Hears [] { c₁.attach n.session.id n.signer with entropy := n.entropy } :=
    Connection.hears_nil rfl rfl
  have hends := Handshake.endsAfter_dialogue ⟨w.source.settings, w.mode, a.ports⟩ a.entropy
  have hrun := hends.run (c := .start arrivals writes a.entropy) (Nat.zero_le _) hshake
  rcases hrun with ⟨hfalse, -⟩ | ⟨request, c₀, reply, hplay, hexchange, before, hears, hkept⟩
  · exact hfalse.elim
  · refine ⟨before, reply, ?_, hkept, request, c₀, hplay, ?_⟩
    · simpa using hears.trans hsame
    · rw [hshake]
      exact hexchange

/-- Over TCP no ports are taken. -/
theorem ports_of_session? (hmode : w.mode = .tcp)
    (hsession : w.session? a = some (session, ports, c)) : ports = [] := by
  have hpaired := paired_of_session? hsession
  rw [hmode] at hpaired
  exact List.length_eq_zero_iff.mp hpaired

/-- A server says units one after another, and what comes of the bytes may break off anywhere. Then
what is pushed in a session over TCP is the frames that were said before the answer to the request
to play, as many as are kept, and all that were said after it and read in the session, those on
channels of the session, in their order. The session goes on where the handshake stopped reading,
and what it has not read when it ends was not said before anything that was read. When it ends with
the connection the next unit has not come as a whole. -/
theorem frames_relayed (hmode : w.mode = .tcp) (hdial : a.dial = .ok (arrivals, writes))
    (hsession : w.session? a = some (session, ports, c)) {said : List Message}
    (hsaid : ∀ m ∈ said, m.Formed) (hbytes : Connection.brought arrivals <+: written said) :
    let settings := w.source.settings
    let traffic := (Traffic.start settings.queueSize).run
      (Playing.schedule settings session ports c a.events)
    let p := ((Playing.start settings session ports c).run settings a.events).2
    traffic.relay = p.relay ∧
    ∃ before answer after later, said = before ++ answer :: (after ++ later) ∧
      Answered (w.shake a arrivals writes).2 answer ∧
      Connection.brought arrivals = written (before ++ [answer]) ++ c.stream ∧
      Connection.brought arrivals =
        written (before ++ answer :: after) ++ p.connection.stream ∧
      traffic.pushes.map Prod.fst =
        ((framesOf before).take Connection.earlyLimit ++ framesOf after).filterMap
          session.packet? ∧
      (arrivals.getLast? = some .closed → p.connection.arrivals = [] →
        ∀ m ∈ later.head?, ¬ written [m] <+: p.connection.stream) := by
  intro settings traffic p
  obtain rfl := ports_of_session? hmode hsession
  have hmirrors : Playing.Mirrors session [] traffic p :=
    Playing.mirrors_schedule settings (Nat.zero_le _) c a.events
  refine ⟨hmirrors.relay_eq, ?_⟩
  obtain ⟨heard, reply, hears, hearly, request, c₀, hplay, hexchange⟩ :=
    hears_shake hdial hsession
  obtain ⟨units, hears', hpushes⟩ :=
    Playing.pushes_schedule settings session c a.events
  have hstart : (Connection.start arrivals writes a.entropy).Ahead said := ⟨hsaid, hbytes⟩
  -- What is said is cut twice: the handshake hears the first part, and the session goes on.
  obtain ⟨taken, left, rfl, htaken, hstream, hleft⟩ := hears.ahead hstart
  obtain ⟨after, later, rfl, rfl, hstream', hlater⟩ := hears'.ahead hleft
  obtain ⟨before, last, rfl, hbefore, hlast⟩ := List.append_eq_map_iff.mp htaken
  obtain ⟨answer, rfl, hanswer⟩ := List.map_eq_singleton_iff.mp hlast
  have hbrought : Connection.brought arrivals = written (before ++ [answer]) ++ c.stream := hstream
  refine ⟨before, answer, after, later, by simp, ⟨request, reply, c₀, hplay, hexchange, hanswer⟩,
    hbrought, ?_, ?_, ?_⟩
  · have hunits : before ++ answer :: after = before ++ [answer] ++ after := by simp
    rw [hbrought, hunits, written_append _ after, List.append_assoc, hstream']
  · rw [hpushes, hearly, framesOf_received, ← hbefore, framesOf_received]
  · intro hclosed hend m hm
    have hclosing : p.connection.Closing := (hears.trans hears').closing (.inl hclosed)
    obtain ⟨rest, rfl⟩ : ∃ rest, later = m :: rest := by
      cases later with
      | nil => cases hm
      | cons m' rest => exact ⟨rest, by rw [Option.some.inj hm]⟩
    exact hlater.not_pending hclosing hend

end Worker

namespace Source

/-- What a server says that sends frames among everything else. -/
def broadcast : List Message :=
  [.frame ⟨0, [1]⟩,
    .response { Response.ok with
      body := some "v=0\r\no=- 0 0 IN IP4 0\r\nm=video 0 RTP/AVP 33\r\n".toList },
    .response (Response.ok.add "Session".toList "41".toList), .frame ⟨1, [2]⟩, .frame ⟨7, [3]⟩,
    .response .ok, .frame ⟨0, [4]⟩, .request (.make .options ['*']), .frame ⟨1, [5]⟩]

/-- The server, whose bytes come in three reads with silence between. The first ends within the
description and the second within the request, so that a frame waits when the session begins. -/
def streaming : List Connection.Arrival :=
  let bytes := written broadcast
  [.data (bytes.take 60), .silence false, .data ((bytes.drop 60).take 105), .silence false,
    .data (bytes.drop 165), .closed]

theorem formed_broadcast : ∀ m ∈ broadcast, m.Formed := by
  have hframe : ∀ channel b : UInt8, (Message.frame ⟨channel, [b]⟩).Formed :=
    fun _ _ => (by decide : 1 < 0x10000)
  have hresponse : ∀ r : Response, Text.trim r.reason = r.reason ∧ Text.Unbroken r.reason ∧
      r.header.Plain ∧ Text.Utf8.size r.text < Text.bound 64 → (Message.response r).Formed :=
    fun r h => ⟨h.1, h.2.1, h.2.2.1, h.2.2.2⟩
  have hrequest : (Message.request (.make .options ['*'])).Formed :=
    ⟨Request.worded_of_method .options rfl rfl (by decide) (Text.blankless_of_all (by decide)),
      by decide, by decide +kernel⟩
  simp only [broadcast, List.forall_mem_cons]
  exact ⟨hframe _ _, hresponse _ (by decide +kernel), hresponse _ (by decide +kernel),
    hframe _ _, hframe _ _, hresponse _ (by decide +kernel), hframe _ _, hrequest, hframe _ _,
    fun m hm => absurd hm List.not_mem_nil⟩

/-- Frames before, between and after the responses, all of them read; channel 7 is of no medium. -/
theorem frames_relayed_around_play :
    let w := Worker.start (make watching)
    let a : Attempt :=
      { showing [] with dial := .ok (streaming, []), events := List.replicate 9 (.turn false) }
    w.mode = .tcp ∧ (∀ m ∈ broadcast, m.Formed) ∧
      Connection.brought streaming <+: written broadcast ∧
      ∃ session ports c before answer after, w.session? a = some (session, ports, c) ∧
        broadcast = before ++ answer :: after ∧
        Worker.Answered (w.shake a streaming []).2 answer ∧
        ((framesOf before).take Connection.earlyLimit ++ framesOf after).filterMap
          session.packet? = [⟨0, .rtp, [1]⟩, ⟨0, .rtcp, [2]⟩, ⟨0, .rtp, [4]⟩, ⟨0, .rtcp, [5]⟩] := by
  intro w a
  have hmode : w.mode = .tcp := by decide +kernel
  have hbytes : Connection.brought streaming = written broadcast := by decide +kernel
  have hpart : Connection.brought streaming <+: written broadcast := hbytes ▸ List.prefix_rfl
  obtain ⟨x, hsession⟩ : ∃ x, w.session? a = some x :=
    Option.isSome_iff_exists.mp (by decide +kernel)
  have hcourse : (w.session? a).map (fun x =>
      let p := ((Playing.start watching x.1 x.2.1 x.2.2).run watching a.events).2
      let traffic := (Traffic.start 1).run (Playing.schedule watching x.1 x.2.1 x.2.2 a.events)
      (p.connection.stream, p.connection.arrivals, traffic.pushes.map Prod.fst)) =
        some ([], [], [⟨0, .rtp, [1]⟩, ⟨0, .rtcp, [2]⟩, ⟨0, .rtp, [4]⟩, ⟨0, .rtcp, [5]⟩]) := by
    decide +kernel
  rw [hsession] at hcourse
  obtain ⟨hstream, hcourse⟩ := Prod.mk.inj (Option.some.inj hcourse)
  obtain ⟨harrivals, hpackets⟩ := Prod.mk.inj hcourse
  obtain ⟨-, before, answer, after, later, hsaid, hanswered, -, hread, hpushes, hwhole⟩ :=
    Worker.frames_relayed hmode rfl hsession formed_broadcast hpart
  have hlater : later = [] := by
    cases later with
    | nil => rfl
    | cons m rest =>
      have hunits : broadcast = (before ++ answer :: after) ++ m :: rest := by simp [hsaid]
      have hnothing : written (m :: rest) = [] := by
        rw [hbytes, hunits, written_append] at hread
        exact (List.append_cancel_left hread).trans hstream
      have hempty : written [m] = [] :=
        (List.append_eq_nil_iff.mp ((written_append [m] rest).symm.trans hnothing)).1
      exact absurd (hempty ▸ List.nil_prefix) (hwhole rfl harrivals m rfl)
  refine ⟨hmode, formed_broadcast, hpart, x.1, x.2.1, x.2.2, before, answer, after, hsession, ?_,
    hanswered, hpushes.symm.trans hpackets⟩
  rw [hsaid, hlater, List.append_nil]

end Source

end Pull

end Rtsp
