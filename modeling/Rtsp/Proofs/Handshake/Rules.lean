import Rtsp.Proofs.Dialogue.Keeps
import Rtsp.Proofs.Handshake.Agenda

/-!
What every handshake keeps to. Some of it holds whoever the server is: a handshake gives UDP up
only where it may, and what it sets up travels as planned. The rest follows from rules for its
parts: how a request is composed from what was learned so far, and what is learned from a reply.
-/
namespace Rtsp.Handshake

def Proposal.mode : Proposal → Session.Mode
  | .ports _ _ => .udp
  | .channels _ _ => .tcp

/-- UDP is given up only if it may be. -/
def Warranted (plan : Plan) (h : Halt) : Prop :=
  ∀ reason, h = .fault (.fallback reason) → mayFallBack plan = true

/-- The fields that a request of a handshake has of its own. -/
inductive Asked (plan : Plan) : Method → Header → Prop
  | describe : Asked plan .describe [⟨"Accept".toList, "application/sdp".toList⟩]
  | setup (proposal : Proposal) (h : proposal.mode = plan.mode) :
      Asked plan .setup [⟨"Transport".toList, proposal.transport.text⟩]
  | play : Asked plan .play (plan.settings.rangeText.map fun range => ⟨"Range".toList, range⟩).toList

/-- What is kept by the parts of a handshake: `J` holds of what was learned and `U` of every
address that is asked for, so that every request satisfies `Q`, as long as every response satisfies
`H`. -/
structure Rules (plan : Plan) (H : Response → Prop) (Q : Request → Prop) (J : Progress → Prop)
    (U : Text → Prop) : Prop where
  start : ∀ e, J (.start e)
  compose : ∀ p method uri fields, J p → U uri → Asked plan method fields →
    Q (compose p method uri fields).1 ∧ J (compose p method uri fields).2
  sign : ∀ p method response signer, J p → H response →
    answer? plan.settings method response = .ok signer → J { p with signer := some signer }
  bind : ∀ p bound, J p → J { p with bound := bound }
  name : ∀ p response p', J p → H response → nameSession p response = some p' → J p'
  first : U plan.settings.locator.uri
  described : ∀ response description, H response →
    Description.parse (response.body.getD []) = .ok description →
    U (Control.resolve (baseOf plan.settings.locator.uri response) description.control) ∧
      ∀ medium ∈ description.media,
        U (Control.resolve (baseOf plan.settings.locator.uri response) medium.control)

theorem mode_settle {proposal : Proposal} {reply : Option Transport} {carrier : Session.Carrier}
    (h : proposal.settle reply = .ok carrier) : carrier.mode = proposal.mode := by
  unfold Proposal.settle at h
  split at h
  · exact Except.ok.inj h ▸ rfl
  · split at h
    · cases h
    · exact Except.ok.inj h ▸ rfl
  · exact Except.ok.inj h ▸ rfl
  · split at h
    · cases h
    split at h
    · exact Except.ok.inj h ▸ rfl
    · exact Except.ok.inj h ▸ rfl

/-- Over UDP there are as many pairs of ports as media, and over TCP there are none. -/
def Paired (mode : Session.Mode) (media : Nat) (pairs : List Pair) : Prop :=
  pairs.length = match mode with
    | .udp => media
    | .tcp => 0

theorem Paired.append {mode : Session.Mode} {media media' : Nat} {pairs pairs' : List Pair}
    (h : Paired mode media pairs) (h' : Paired mode media' pairs') :
    Paired mode (media + media') (pairs ++ pairs') := by
  unfold Paired at h h' ⊢
  rw [List.length_append, h, h']
  cases mode <;> rfl

/-- What is proposed is as planned, and so is the pair of ports that is taken for it. Nothing else is
learned by proposing it. -/
theorem propose_eq_ok {plan : Plan} {p p' : Progress} {index : Nat} {control : Text}
    {proposal : Proposal} {pair : Option Pair}
    (h : propose plan p index control = .ok ((proposal, pair), p')) :
    proposal.mode = plan.mode ∧ Paired plan.mode 1 pair.toList ∧
      ∃ bound, p' = { p with bound := bound } := by
  unfold propose at h
  split at h
  · rename_i hmode
    split at h
    · obtain ⟨hproposed, rfl⟩ := Prod.mk.inj (Except.ok.inj h)
      obtain ⟨rfl, rfl⟩ := Prod.mk.inj hproposed
      exact ⟨hmode.symm, hmode ▸ rfl, _, rfl⟩
    · cases h
  · rename_i hmode
    split at h
    · obtain ⟨hproposed, rfl⟩ := Prod.mk.inj (Except.ok.inj h)
      obtain ⟨rfl, rfl⟩ := Prod.mk.inj hproposed
      exact ⟨hmode.symm, hmode ▸ rfl, p.bound, rfl⟩
    · cases h

/-- A description that can be read offers something. -/
theorem media_ne_nil_of_parse {t : Text} {d : Description} (h : Description.parse t = .ok d) :
    d.media ≠ [] := by
  obtain ⟨r, -, hd⟩ := Description.exists_reading h
  exact Description.media_ne_nil hd

section Faults

theorem warranted_of_kind {plan : Plan} {f : Fault} (h : f.kind ≠ .fallback) :
    Warranted plan (.fault f) := by
  intro reason heq
  obtain rfl := Halt.fault.inj heq
  exact absurd rfl h

theorem warranted_propose {plan : Plan} {p : Progress} {index : Nat} {control : Text} {f : Fault}
    (h : propose plan p index control = .error f) : Warranted plan (.fault f) := by
  apply warranted_of_kind
  unfold propose at h
  split at h
  · split at h
    · cases h
    · rw [← Except.error.inj h]
      decide
  · split at h
    · cases h
    · rw [← Except.error.inj h]
      exact fun hkind => by cases hkind

theorem warranted_accept {plan : Plan} {p : Progress} {control : Text} {proposal : Proposal}
    {response : Response} {f : Fault} (h : accept plan p control proposal response = .error f) :
    Warranted plan (.fault f) := by
  unfold accept at h
  split at h
  · rename_i hmay
    exact fun _ _ => hmay.2
  apply warranted_of_kind
  split at h
  · rw [← Except.error.inj h]
    exact fun hkind => by cases hkind
  split at h
  · rw [← Except.error.inj h]
    exact fun hkind => by cases hkind
  simp only at h
  split at h
  · rw [← Except.error.inj h]
    exact fun hkind => by cases hkind
  · cases h

theorem warranted_parse {plan : Plan} {t : Text} {h : Halt} (hparse : Description.parse t = .error h) :
    Warranted plan h := by
  unfold Description.parse at hparse
  cases hread : Description.read t with
  | ok d =>
    rw [hread] at hparse
    cases hparse
  | error stop =>
    rw [hread] at hparse
    rw [← Except.error.inj hparse]
    cases stop with
    | defect d => exact warranted_of_kind fun hkind => by cases hkind
    | stray => exact fun _ heq => by cases heq

end Faults

section Keeps

open Dialogue (Keeps)

variable {plan : Plan} {H : Response → Prop} {Q : Request → Prop} {J : Progress → Prop}
  {U : Text → Prop} {p : Progress} {method : Method} {uri : Text} {fields : Header}

/-- A request, and its repetition with a signature. -/
theorem Rules.send (hr : Rules plan H Q J U) (hp : J p) (huri : U uri)
    (hfields : Asked plan method fields) :
    Keeps H Q (Warranted plan) (fun x => H x.1 ∧ J x.2)
      (send plan.settings p method uri fields) := by
  have hauth : ∀ reason, Warranted plan (.fault (.authentication reason)) := fun _ =>
    warranted_of_kind fun hkind => by cases hkind
  obtain ⟨hfirst, hp'⟩ := hr.compose p method uri fields hp huri hfields
  rw [send_eq]
  refine .ask hfirst fun response hresponse => ?_
  split
  · exact .value ⟨hresponse, hp'⟩
  split
  · rename_i f hanswer
    refine .halt ?_
    unfold answer? at hanswer
    split at hanswer
    · exact Except.error.inj hanswer ▸ hauth _
    split at hanswer
    · exact Except.error.inj hanswer ▸ hauth _
    · cases hanswer
  · rename_i signer hanswer
    have hsigned := hr.sign _ method response signer hp' hresponse hanswer
    obtain ⟨hagain, hp''⟩ := hr.compose _ method uri fields hsigned huri hfields
    refine .ask hagain fun response hresponse => ?_
    split
    · exact .value ⟨hresponse, hp''⟩
    · exact .halt (hauth _)

theorem Rules.accept (hr : Rules plan H Q J U) (hp : J p) {control : Text} {proposal : Proposal}
    {response : Response} (hresponse : H response)
    {x : (Session.Carrier × Option UInt32) × Progress}
    (h : accept plan p control proposal response = .ok x) :
    x.1.1.mode = proposal.mode ∧ J x.2 := by
  unfold Handshake.accept at h
  split at h
  · cases h
  split at h
  · cases h
  split at h
  · cases h
  rename_i p' hname
  simp only at h
  split at h
  · cases h
  · rename_i carrier hsettle
    rw [← Except.ok.inj h]
    exact ⟨mode_settle hsettle, hr.name p response p' hp hresponse hname⟩

theorem Rules.setup (hr : Rules plan H Q J U) (hp : J p) (index : Nat) (base : Text)
    (medium : Media.Medium) (huri : U (Control.resolve base medium.control)) :
    Keeps H Q (Warranted plan)
      (fun x => x.1.1.carrier.mode = plan.mode ∧ Paired plan.mode 1 x.1.2.toList ∧ J x.2)
      (setup plan p index base medium) := by
  have hproposed : Keeps H Q (Warranted plan)
      (fun x => x.1.1.mode = plan.mode ∧ Paired plan.mode 1 x.1.2.toList ∧ J x.2)
      (ofExcept (propose plan p index (Control.resolve base medium.control))) := by
    cases hpropose : propose plan p index (Control.resolve base medium.control) with
    | error f => exact .halt (warranted_propose hpropose)
    | ok x =>
      obtain ⟨hmode, hpair, bound, hbound⟩ := propose_eq_ok hpropose
      exact .value ⟨hmode, hpair, hbound ▸ hr.bind p bound hp⟩
  refine hproposed.andThen ?_
  rintro ⟨⟨proposal, pair⟩, p⟩ ⟨hmode, hpair, hp⟩
  refine (hr.send hp huri (.setup proposal hmode)).andThen ?_
  rintro ⟨response, p⟩ ⟨hresponse, hp⟩
  have haccepted : Keeps H Q (Warranted plan)
      (fun x : (Session.Carrier × Option UInt32) × Progress => x.1.1.mode = plan.mode ∧ J x.2)
      (ofExcept (Handshake.accept plan p (Control.resolve base medium.control) proposal
        response)) := by
    cases haccept : Handshake.accept plan p (Control.resolve base medium.control) proposal
      response with
    | error f => exact .halt (warranted_accept haccept)
    | ok x =>
      obtain ⟨hcarrier, hp⟩ := hr.accept hp hresponse haccept
      exact .value ⟨hcarrier.trans hmode, hp⟩
  refine haccepted.andThen ?_
  rintro ⟨⟨carrier, ssrc⟩, p⟩ ⟨hcarrier, hp⟩
  exact .value ⟨hcarrier, hpair, hp⟩

theorem Rules.setupAll (hr : Rules plan H Q J U) (base : Text) (media : List Media.Medium)
    (hmedia : ∀ medium ∈ media, U (Control.resolve base medium.control)) (index : Nat) (hp : J p) :
    Keeps H Q (Warranted plan)
      (fun x => x.1.1.length = media.length ∧ (∀ t ∈ x.1.1, t.carrier.mode = plan.mode) ∧
        Paired plan.mode x.1.1.length x.1.2 ∧ J x.2)
      (setupAll plan base index p media) := by
  induction media generalizing index p with
  | nil =>
    have hnone : Paired plan.mode 0 [] := by cases plan.mode <;> rfl
    exact .value ⟨rfl, fun t ht => absurd ht List.not_mem_nil, hnone, hp⟩
  | cons medium media ih =>
    refine (hr.setup hp index base medium (hmedia medium List.mem_cons_self)).andThen ?_
    rintro ⟨⟨track, pair⟩, p⟩ ⟨htrack, hpair, hp⟩
    refine (ih (fun m hm => hmedia m (List.mem_cons_of_mem medium hm)) (index + 1) hp).andThen ?_
    rintro ⟨⟨tracks, pairs⟩, p⟩ ⟨hlength, htracks, hpairs, hp⟩
    have hall : Paired plan.mode (tracks.length + 1) (pair.toList ++ pairs) := by
      rw [Nat.add_comm]
      exact hpair.append hpairs
    exact .value ⟨congrArg Nat.succ hlength, List.forall_mem_cons.mpr ⟨htrack, htracks⟩, hall, hp⟩

theorem Rules.describe (hr : Rules plan H Q J U) (hp : J p) :
    Keeps H Q (Warranted plan)
      (fun x => x.1.2.media ≠ [] ∧ U (Control.resolve x.1.1 x.1.2.control) ∧
        (∀ medium ∈ x.1.2.media, U (Control.resolve x.1.1 medium.control)) ∧ J x.2)
      (describe plan p) := by
  rw [describe_eq]
  refine (hr.send hp hr.first .describe).andThen ?_
  rintro ⟨response, p⟩ ⟨hresponse, hp⟩
  unfold opened
  split
  · cases hparse : Description.parse (response.body.getD []) with
    | error h => exact .halt (warranted_parse hparse)
    | ok d =>
      obtain ⟨hcontrol, hmedia⟩ := hr.described response d hresponse hparse
      exact .value ⟨media_ne_nil_of_parse hparse, hcontrol, hmedia, hp⟩
  · exact .halt (warranted_of_kind fun hkind => by cases hkind)

theorem Rules.play (hr : Rules plan H Q J U) (hp : J p) (huri : U uri) :
    Keeps H Q (Warranted plan) (fun x => J x.2) (play plan p uri) := by
  refine (hr.send hp huri .play).andThen ?_
  rintro ⟨response, p⟩ ⟨-, hp⟩
  simp only
  split
  · exact .value hp
  · exact .halt (warranted_of_kind fun hkind => by cases hkind)

/-- The whole handshake; its session has media, all of them travel as planned, and the pairs of ports
are those that they need. -/
theorem Rules.dialogue (hr : Rules plan H Q J U) (e : Auth.Entropy) :
    Keeps H Q (Warranted plan)
      (fun n => n.session.tracks ≠ [] ∧ (∀ t ∈ n.session.tracks, t.carrier.mode = plan.mode) ∧
        Paired plan.mode n.session.tracks.length n.ports)
      (dialogue plan e) := by
  rw [dialogue_eq]
  refine (hr.describe (hr.start e)).andThen ?_
  rintro ⟨⟨base, description⟩, p⟩ ⟨hnonempty, hcontrol, hmedia, hp⟩
  refine (hr.setupAll base description.media hmedia 0 hp).andThen ?_
  rintro ⟨⟨tracks, pairs⟩, p⟩ ⟨hlength, htracks, hpairs, hp⟩
  refine (hr.play hp hcontrol).andThen ?_
  rintro ⟨range, p⟩ -
  refine .value ⟨?_, htracks, hpairs⟩
  rintro rfl
  exact hnonempty (List.length_eq_zero_iff.mp hlength.symm)

end Keeps

section Transport

/-- A request to set up a medium asks for the lower transport `mode`, and for that alone. -/
def Asks (mode : Session.Mode) (r : Request) : Prop :=
  r.method = Method.name .setup → ∃ proposal : Proposal, proposal.mode = mode ∧
    r.header.values "Transport".toList = [proposal.transport.text]

theorem values_compose_transport (p : Progress) (method : Method) (uri : Text) (fields : Header) :
    (compose p method uri fields).1.header.values "Transport".toList =
      fields.values "Transport".toList := by
  have hsession : (sessionFields p).values "Transport".toList = [] := by
    unfold sessionFields
    cases p.session <;> rfl
  rw [values_compose_of_ne p method uri fields (by decide), hsession, List.append_nil]

/-- Every request of a handshake asks for what is planned. -/
theorem rules_asks (plan : Plan) :
    Rules plan (fun _ => True) (Asks plan.mode) (fun _ => True) (fun _ => True) where
  start _ := trivial
  compose p method uri fields _ _ hfields := by
    refine ⟨?_, trivial⟩
    intro hmethod
    rw [compose_method] at hmethod
    rw [values_compose_transport]
    cases hfields with
    | describe => exact absurd hmethod (by decide)
    | setup proposal hmode => exact ⟨proposal, hmode, rfl⟩
    | play => exact absurd hmethod (by decide)
  sign _ _ _ _ _ _ _ := trivial
  bind _ _ _ := trivial
  name _ _ _ _ _ _ := trivial
  first := trivial
  described _ _ _ _ := ⟨trivial, fun _ _ => trivial⟩

end Transport

end Rtsp.Handshake
