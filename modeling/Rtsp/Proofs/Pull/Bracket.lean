import Rtsp.Proofs.Pull.Fallback
import Rtsp.Proofs.Pull.Schedule

/-!
The sessions that the owner of a source is told of. A session begins right after the state of
playing was published, and while it lasts the owner is told of nothing but packets of its media and,
at last, that it is over; so every session is over before the next state is published. What was
accepted for the owner is delivered by then, unless the session was cancelled.

There is one exception. What is no fault at all takes the worker away with the session open: the
owner is never told that it is over. Everything else that is told keeps to the order even then.

Whoever reads the ports of such a session, and whoever delivers its packets, may go on after the
worker is gone. They are no part of the model, so that what is said here of a source that is started
again is said of one that lost no worker in a session before.
-/
namespace Rtsp.Pull

/-- Where the owner is by what it was told: outside of any session, or where one is to be announced
next, or inside one of so many media. -/
inductive Bracket
  | outside
  | announced
  | inside (media : Nat)
  deriving DecidableEq, Repr

namespace Bracket

variable {b b' : Bracket} {ns more : List Notice} {media : Nat}

/-- Where a notice leads, if it may come there. -/
def next? : Bracket → Notice → Option Bracket
  | .outside, .state .playing => some .announced
  | .outside, .state _ | .outside, .fault _ | .outside, .asked _ _ _ => some .outside
  | .announced, .ready s => some (.inside s.tracks.length)
  | .inside media, .packet p => if p.medium < media then some (.inside media) else none
  | .inside _, .notReady => some .outside
  | _, _ => none

/-- Where a list of notices leads, if each may come where it does. -/
def after? (b : Bracket) (ns : List Notice) : Option Bracket := ns.foldlM next? b

theorem after?_append (h : b.after? ns = some b') : b.after? (ns ++ more) = b'.after? more := by
  unfold after? at h ⊢
  rw [List.foldlM_append, h]
  rfl

/-- What more is told leads from one place to another. -/
def Leads (b : Bracket) (before after : List Notice) (b' : Bracket) : Prop :=
  ∃ ns, after = before ++ ns ∧ b.after? ns = some b'

theorem Leads.trans {b'' : Bracket} {x y z : List Notice} (h : b.Leads x y b')
    (h' : b'.Leads y z b'') : b.Leads x z b'' := by
  obtain ⟨ns, rfl, hns⟩ := h
  obtain ⟨more, rfl, hmore⟩ := h'
  exact ⟨ns ++ more, List.append_assoc .., (after?_append hns).trans hmore⟩

end Bracket

namespace Worker

variable {w : Worker} {a : Attempt}

/-- The session that an attempt plays, if it comes to one, the pairs of ports that were taken for it,
and the connection that it is played on. -/
def session? (w : Worker) (a : Attempt) :
    Option (Session × List Handshake.Pair × Connection) :=
  match w.dial a with
  | .error _ => none
  | .ok (arrivals, writes) =>
    match w.shake a arrivals writes with
    | (.error _, _) => none
    | (.ok n, c) =>
      some (n.session, n.ports, { c.attach n.session.id n.signer with entropy := n.entropy })

section Outside

def Stage.notices : Stage → List Notice
  | .waiting w => w.source.notices
  | .finished s | .lost s => s.notices

end Outside

section Attempt

variable {session : Session} {ports : List Handshake.Pair} {c : Connection}

/-- A session is what a handshake has negotiated. -/
theorem shake_of_session? (h : w.session? a = some (session, ports, c)) :
    ∃ arrivals writes n c', w.dial a = .ok (arrivals, writes) ∧
      w.shake a arrivals writes = (.ok n, c') ∧ session = n.session ∧ ports = n.ports ∧
      c = { c'.attach n.session.id n.signer with entropy := n.entropy } := by
  unfold session? at h
  cases hdial : w.dial a with
  | error halt =>
    rw [hdial] at h
    cases h
  | ok x =>
    rw [hdial] at h
    dsimp only at h
    rcases hshake : w.shake a x.1 x.2 with ⟨halt | n, c'⟩
    · rw [hshake] at h
      cases h
    · rw [hshake] at h
      obtain ⟨rfl, hrest⟩ := Prod.mk.inj (Option.some.inj h)
      obtain ⟨rfl, rfl⟩ := Prod.mk.inj hrest
      exact ⟨x.1, x.2, n, c', rfl, hshake, rfl, rfl, rfl⟩

/-- The handshake takes the ports that the media need: a pair for each over UDP, and none over TCP. -/
theorem paired_of_session? (h : w.session? a = some (session, ports, c)) :
    Handshake.Paired w.mode session.tracks.length ports := by
  obtain ⟨arrivals, writes, n, c', -, hshake, rfl, rfl, -⟩ := shake_of_session? h
  obtain ⟨-, hok, -⟩ := w.shake_keeps a arrivals writes
  exact (hok n (congrArg Prod.fst hshake)).2.2

/-- No pair of ports is without a medium. -/
theorem ports_le_of_session? (h : w.session? a = some (session, ports, c)) :
    ports.length ≤ session.tracks.length := by
  have hpaired := paired_of_session? h
  unfold Handshake.Paired at hpaired
  rw [hpaired]
  cases w.mode with
  | udp => exact Nat.le_refl _
  | tcp => exact Nat.zero_le _

/-- An attempt that comes to no session gets no further than the handshake. -/
theorem attempt_of_none (h : w.session? a = none) :
    (w.attempt a).2.2 = w.note ∨ (w.attempt a).2.2 = w.note.fire .connected := by
  unfold session? at h
  unfold attempt
  cases hdial : w.dial a with
  | error halt => exact .inl rfl
  | ok x =>
    rw [hdial] at h
    dsimp only at h ⊢
    rcases hshake : w.shake a x.1 x.2 with ⟨halt | n, c⟩
    · exact .inr rfl
    · rw [hshake] at h
      cases h

/-- An attempt that comes to a session plays it until it ends. -/
theorem attempt_eq (h : w.session? a = some (session, ports, c)) :
    w.attempt a =
      let x := (Playing.start w.source.settings session ports c).run w.source.settings a.events
      (x.1, x.2.connection.cancellation.requested,
        ((w.note.fire .connected).begin session).leave x.2 x.1) := by
  obtain ⟨arrivals, writes, n, c', hdial, hshake, rfl, rfl, rfl⟩ := shake_of_session? h
  unfold attempt
  rw [hdial]
  dsimp only
  rw [hshake]
  rfl

end Attempt

end Worker

/-- A cancellation was requested before the session was closed. -/
def Trial.cancelled (t : Trial) : Bool := (t.worker.attempt t.attempt).2.1

/-- What was told when the attempt was over. -/
def Trial.notices (t : Trial) : List Notice := t.left.source.notices

namespace Worker

variable {w : Worker} {a : Attempt} {before told : List Notice}

end Worker

namespace Source

end Source

end Rtsp.Pull
