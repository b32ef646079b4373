import Rtsp.Proofs.Connection.Host
import Rtsp.Proofs.Handshake.Agenda

/-!
What a handshake does not look at. The number of a response and the length of its body are for the
connection, and no body is as good as an empty one. Responses that differ in nothing else are alike,
and against alike responses a handshake asks the same and ends the same.
-/
namespace Rtsp

namespace Response

/-- The fields that a response has for the sake of the wire. -/
def wireNames : List Text := ["CSeq".toList, "Content-Length".toList]

structure Alike (r r' : Response) : Prop where
  status_eq : r'.status = r.status
  reason_eq : r'.reason = r.reason
  values_eq : ∀ name, (∀ own ∈ wireNames, Text.sameName own name = false) →
    r'.header.values name = r.header.values name
  body_eq : r'.body.getD [] = r.body.getD []

variable {r r' : Response}

theorem Alike.isSuccess_eq (h : Alike r r') : r'.isSuccess = r.isSuccess := by
  rw [isSuccess, isSuccess, h.status_eq]

theorem Alike.value?_eq (h : Alike r r') {name : Text}
    (hname : ∀ own ∈ wireNames, Text.sameName own name = false) : r'.value? name = r.value? name := by
  rw [value?, value?, Header.value?_eq_head?, Header.value?_eq_head?, h.values_eq name hname]

end Response

namespace Dialogue

variable {α β α' β' : Type} {T : α → β → Prop} {T' : α' → β' → Prop}

/-- Against alike responses the dialogues ask the same, and break off for the same reason or have
results in the relation `T`. -/
inductive Alike (T : α → β → Prop) : Dialogue α → Dialogue β → Prop
  | value {x : α} {y : β} (h : T x y) : Alike T (.done (.ok x)) (.done (.ok y))
  | halt (h : Halt) : Alike T (.done (.error h)) (.done (.error h))
  | ask {request : Request} {next : Response → Dialogue α} {next' : Response → Dialogue β}
      (h : ∀ r r', Response.Alike r r' → Alike T (next r) (next' r')) :
      Alike T (.ask request next) (.ask request next')

theorem Alike.andThen {d : Dialogue α} {d' : Dialogue β} {k : α → Dialogue α'}
    {k' : β → Dialogue β'} (hd : Alike T d d') (hk : ∀ x y, T x y → Alike T' (k x) (k' y)) :
    Alike T' (Dialogue.andThen k d) (Dialogue.andThen k' d') := by
  induction hd with
  | value h => exact hk _ _ h
  | halt h => exact .halt h
  | ask _ ih => exact .ask ih

/-- A dialogue that is over is like itself. -/
theorem Alike.done (result : Except Halt α) : Alike Eq (.done result) (.done result) := by
  cases result with
  | ok x => exact .value rfl
  | error h => exact .halt h

end Dialogue

namespace Handshake

open Dialogue (Alike)

variable {plan : Plan} {p : Progress} {r r' : Response}

theorem answer?_congr (settings : Settings) (method : Method) (h : r.Alike r') :
    answer? settings method r' = answer? settings method r := by
  have hchallenge : Auth.Challenge.ofResponse? r' = Auth.Challenge.ofResponse? r := by
    unfold Auth.Challenge.ofResponse? Response.values
    rw [h.values_eq _ (by decide)]
  rw [answer?, answer?, hchallenge]

theorem nameSession_congr (p : Progress) (h : r.Alike r') : nameSession p r' = nameSession p r := by
  rw [nameSession, nameSession, h.value?_eq (by decide)]

theorem accept_congr (plan : Plan) (p : Progress) (control : Text) (proposal : Proposal)
    (h : r.Alike r') :
    accept plan p control proposal r' = accept plan p control proposal r := by
  have htransport : r'.value? "Transport".toList = r.value? "Transport".toList :=
    h.value?_eq (by decide)
  simp only [accept, h.status_eq, h.reason_eq, h.isSuccess_eq, nameSession_congr p h, htransport]

theorem baseOf_congr (uri : Text) (h : r.Alike r') : baseOf uri r' = baseOf uri r := by
  have hbase : r'.value? "Content-Base".toList = r.value? "Content-Base".toList :=
    h.value?_eq (by decide)
  have hlocation : r'.value? "Content-Location".toList = r.value? "Content-Location".toList :=
    h.value?_eq (by decide)
  simp only [baseOf, hbase, hlocation]

theorem alike_send (settings : Settings) (p : Progress) (method : Method) (uri : Text)
    (fields : Header) :
    Alike (fun x y => x.1.Alike y.1 ∧ x.2 = y.2) (send settings p method uri fields)
      (send settings p method uri fields) := by
  rw [send_eq]
  refine .ask fun r r' h => ?_
  rw [h.status_eq, answer?_congr settings method h]
  split
  · exact .value ⟨h, rfl⟩
  split
  · exact .halt _
  · refine .ask fun r r' h => ?_
    rw [h.status_eq]
    split
    · exact .value ⟨h, rfl⟩
    · exact .halt _

theorem alike_setup (plan : Plan) (p : Progress) (index : Nat) (base : Text)
    (medium : Media.Medium) :
    Alike Eq (setup plan p index base medium) (setup plan p index base medium) := by
  refine (Alike.done _).andThen ?_
  rintro ⟨⟨proposal, pair⟩, p⟩ _ rfl
  refine (alike_send plan.settings p .setup _ _).andThen ?_
  rintro ⟨r, p⟩ ⟨r', p'⟩ ⟨h, hp⟩
  simp only at h hp
  subst hp
  simp only [accept_congr plan p _ proposal h]
  refine (Alike.done _).andThen ?_
  rintro x _ rfl
  exact .value rfl

theorem alike_setupAll (plan : Plan) (base : Text) (media : List Media.Medium) (index : Nat)
    (p : Progress) :
    Alike Eq (setupAll plan base index p media) (setupAll plan base index p media) := by
  induction media generalizing index p with
  | nil => exact .value rfl
  | cons medium media ih =>
    refine (alike_setup plan p index base medium).andThen ?_
    rintro ⟨⟨track, pair⟩, p⟩ _ rfl
    refine (ih (index + 1) p).andThen ?_
    rintro ⟨⟨tracks, pairs⟩, p⟩ _ rfl
    exact .value rfl

theorem alike_describe (plan : Plan) (p : Progress) :
    Alike Eq (describe plan p) (describe plan p) := by
  rw [describe_eq]
  refine (alike_send plan.settings p .describe _ _).andThen ?_
  rintro ⟨r, p⟩ ⟨r', p'⟩ ⟨h, hp⟩
  simp only at h hp
  subst hp
  simp only [opened, unexpected, h.status_eq, h.reason_eq, h.isSuccess_eq, h.body_eq,
    baseOf_congr _ h]
  exact .done _

theorem alike_play (plan : Plan) (p : Progress) (uri : Text) :
    Alike Eq (play plan p uri) (play plan p uri) := by
  refine (alike_send plan.settings p .play uri _).andThen ?_
  rintro ⟨r, p⟩ ⟨r', p'⟩ ⟨h, hp⟩
  simp only at h hp
  subst hp
  have hrange : r'.value? "Range".toList = r.value? "Range".toList := h.value?_eq (by decide)
  simp only [unexpected, h.status_eq, h.reason_eq, h.isSuccess_eq, hrange]
  split
  · exact .value rfl
  · exact .halt _

/-- A handshake does not tell alike responses apart. -/
theorem alike_dialogue (plan : Plan) (e : Auth.Entropy) :
    Alike Eq (dialogue plan e) (dialogue plan e) := by
  rw [dialogue_eq]
  refine (alike_describe plan _).andThen ?_
  rintro ⟨⟨base, description⟩, p⟩ _ rfl
  refine (alike_setupAll plan base description.media 0 p).andThen ?_
  rintro ⟨⟨tracks, pairs⟩, p⟩ _ rfl
  refine (alike_play plan p _).andThen ?_
  rintro ⟨range, p⟩ _ rfl
  exact .value rfl

end Handshake

end Rtsp
