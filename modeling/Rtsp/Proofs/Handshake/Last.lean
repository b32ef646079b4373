import Rtsp.Proofs.Connection.Units
import Rtsp.Proofs.Handshake.Agenda

/-!
What a connection hears in a handshake that succeeds. The last of it is the response to a request to
play: success comes directly after one, and nothing is read behind it. What was kept of everything
before is the frames in their order, as many as there is room for.
-/
namespace Rtsp

namespace Dialogue

variable {α β : Type} {P : Request → Prop} {ok : Prop} {d : Dialogue α} {k : α → Dialogue β}

/-- Success comes directly after the response to a request that satisfies `P`; `ok` says whether
there was one just before. -/
def EndsAfter (P : Request → Prop) : Prop → Dialogue α → Prop
  | ok, .done (.ok _) => ok
  | _, .done (.error _) => True
  | _, .ask request next => ∀ response, EndsAfter P (P request) (next response)

theorem EndsAfter.mono (h : EndsAfter P False d) (ok : Prop) : EndsAfter P ok d := by
  cases d with
  | done result => cases result with
    | ok x => exact False.elim h
    | error halt => trivial
  | ask request next => exact h

/-- What comes last decides. -/
theorem endsAfter_andThen (hk : ∀ x, EndsAfter P False (k x)) (d : Dialogue α) :
    EndsAfter P ok (andThen k d) := by
  induction d generalizing ok with
  | done result => cases result with
    | ok x => exact (hk x).mono ok
    | error halt => trivial
  | ask request next ih => exact fun response => ih response

/-- What is done at the end without a request does not matter. -/
theorem EndsAfter.andThen (h : EndsAfter P ok d) (hk : ∀ x, ∃ result, k x = .done result) :
    EndsAfter P ok (andThen k d) := by
  induction d generalizing ok with
  | done result => cases result with
    | ok x =>
      obtain ⟨result, hresult⟩ := hk x
      change EndsAfter P ok (k x)
      rw [hresult]
      cases result with
      | ok y => exact h
      | error halt => trivial
    | error halt => trivial
  | ask request next ih => exact fun response => ih response (h response)

/-- A run over a connection that succeeds, if anything is asked in it. -/
theorem EndsAfter.run {c c' : Connection} {x : α} (h : EndsAfter P ok d)
    (hc : c.early.length ≤ Connection.earlyLimit)
    (hrun : d.run Connection.exchange c = (.ok x, c')) :
    ok ∧ c' = c ∨ ∃ request c₀ reply, P request ∧
      Connection.exchange c₀ request = (.ok reply, c') ∧ c.Awaits reply c' := by
  induction d generalizing ok c with
  | done result =>
    obtain ⟨rfl, rfl⟩ := Prod.mk.inj hrun
    exact .inl ⟨h, rfl⟩
  | ask request next ih =>
    unfold Dialogue.run at hrun
    rcases hreply : Connection.exchange c request with ⟨halt | reply, c₁⟩
    · rw [hreply] at hrun
      cases hrun
    · rw [hreply] at hrun
      have hawaits := Connection.hears_exchange hc hreply
      rcases ih reply (h reply) hawaits.early_le hrun with ⟨hP, rfl⟩ | hlater
      · exact .inr ⟨request, c, reply, hP, hreply, hawaits⟩
      · obtain ⟨request', c₀, reply', hP, hexchange, hlast⟩ := hlater
        exact .inr ⟨request', c₀, reply', hP, hexchange, hawaits.trans hlast⟩

end Dialogue

namespace Handshake

open Dialogue (EndsAfter endsAfter_andThen)

theorem endsAfter_send (settings : Settings) (p : Progress) (method : Method) (uri : Text)
    (fields : Header) :
    EndsAfter (fun r => r.method = method.name) False (send settings p method uri fields) := by
  rw [send_eq]
  intro response
  dsimp only
  split
  · exact compose_method p method uri fields
  cases answer? settings method response with
  | error f => trivial
  | ok signer =>
    intro response
    dsimp only
    split
    · exact compose_method _ method uri fields
    · trivial

theorem endsAfter_play (plan : Plan) (p : Progress) (uri : Text) :
    EndsAfter (fun r => r.method = Method.name .play) False (play plan p uri) := by
  apply (endsAfter_send plan.settings p .play uri _).andThen
  rintro ⟨response, p⟩
  by_cases hsuccess : response.isSuccess = true
  · exact ⟨_, if_pos hsuccess⟩
  · exact ⟨_, if_neg hsuccess⟩

/-- A handshake succeeds directly after the response to a request to play. -/
theorem endsAfter_dialogue (plan : Plan) (e : Auth.Entropy) :
    EndsAfter (fun r => r.method = Method.name .play) False (dialogue plan e) := by
  rw [dialogue_eq]
  refine endsAfter_andThen (fun x => ?_) _
  refine endsAfter_andThen (fun y => ?_) _
  exact (endsAfter_play plan y.2 _).andThen fun z => ⟨_, rfl⟩

end Handshake

end Rtsp
