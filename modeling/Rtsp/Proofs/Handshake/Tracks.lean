import Rtsp.Proofs.Handshake.History
import Rtsp.Proofs.Handshake.Rules

/-!
What a handshake that succeeds leaves behind, piece by piece. Every medium of the description was set
up in a round of its own, in the order of the description. The round went to the address of the
medium and made the proposal that belongs to its place, whether or not it took a signature, and its
last reply settled how the packets of the medium travel.
-/
namespace Rtsp.Handshake

/-- The proposal for the medium at `index`, and the pair of ports that is taken for it: the pair that
is had in its turn, or none and the two channels of its place. -/
inductive Proposes (plan : Plan) (index : Nat) : Proposal → Option Pair → Prop
  | ports {rtp rtcp : UInt16} (hmode : plan.mode = .udp) (h : plan.ports index = some (rtp, rtcp)) :
      Proposes plan index (.ports rtp rtcp) (some (rtp, rtcp))
  | channels {rtp rtcp : UInt8} (hmode : plan.mode = .tcp) (hrtp : rtp.toNat = 2 * index)
      (hrtcp : rtcp.toNat = 2 * index + 1) : Proposes plan index (.channels rtp rtcp) none

/-- The transport that a reply tells. -/
def told? (response : Response) : Option Transport :=
  (response.value? "Transport".toList).bind Transport.parse?

/-- The round in which a track was set up, as the one at `index`, and a pair of ports was taken for
it. -/
structure SetUp (plan : Plan) (base : Text) (index : Nat) (medium : Media.Medium) (r : Round)
    (t : Session.Track) (pair : Option Pair) : Prop where
  medium_eq : t.medium = medium
  control_eq : t.control = Control.resolve base medium.control
  sound : r.Sound plan.settings
  target_eq : r.target = (.setup, t.control)
  settled : ∃ proposal response, Proposes plan index proposal pair ∧
    r.first.request.header.values "Transport".toList = [proposal.transport.text] ∧
    r.answer = .ok response ∧ proposal.settle (told? response) = .ok t.carrier

/-- Media that were set up one after another, the first of which has number `index`, and the pairs of
ports that were taken for them. -/
inductive SetUpFrom (plan : Plan) (base : Text) :
    Nat → List Media.Medium → List Round → List Session.Track → List Pair → Prop
  | nil (index : Nat) : SetUpFrom plan base index [] [] [] []
  | cons {index : Nat} {medium : Media.Medium} {r : Round} {t : Session.Track} {pair : Option Pair}
      {media : List Media.Medium} {rounds : List Round} {tracks : List Session.Track}
      {pairs : List Pair} (hfirst : SetUp plan base index medium r t pair)
      (hrest : SetUpFrom plan base (index + 1) media rounds tracks pairs) :
      SetUpFrom plan base index (medium :: media) (r :: rounds) (t :: tracks)
        (pair.toList ++ pairs)

/-- A round that one request takes, and what the handshake goes on with. -/
structure Round.Yields (settings : Settings) (p : Progress) (request : Request)
    (target : Method × Text) (r : Round) (x : Response × Progress) : Prop where
  sound : r.Sound settings
  target_eq : r.target = target
  request_eq : r.first.request = request
  answer_eq : r.answer = .ok x.1
  bound_eq : x.2.bound = p.bound

/-- The rounds of a handshake that succeeds, and what came of them. -/
structure Account (plan : Plan) (n : Negotiated) (description : Description) (opening : Round)
    (setups : List Round) (closing : Round) : Prop where
  sound : ∀ r ∈ opening :: (setups ++ [closing]), r.Sound plan.settings
  opening_eq : opening.target = (.describe, plan.settings.locator.uri)
  described : ∃ response, opening.answer = .ok response ∧
    Description.parse (response.body.getD []) = .ok description ∧
    n.session.base = baseOf plan.settings.locator.uri response
  tracks : SetUpFrom plan n.session.base 0 description.media setups n.session.tracks n.ports
  closing_eq : closing.target = (.play, Control.resolve n.session.base description.control)

theorem SetUpFrom.sound {plan : Plan} {base : Text} {index : Nat} {media : List Media.Medium}
    {rounds : List Round} {tracks : List Session.Track} {pairs : List Pair}
    (h : SetUpFrom plan base index media rounds tracks pairs) :
    ∀ r ∈ rounds, r.Sound plan.settings := by
  induction h with
  | nil => exact fun r hr => absurd hr List.not_mem_nil
  | cons hfirst _ ih => exact List.forall_mem_cons.mpr ⟨hfirst.sound, ih⟩

section Accept

variable {plan : Plan} {p p' : Progress} {response : Response}

theorem nameSession_eq_some (h : nameSession p response = some p') :
    p'.bound = p.bound ∧ p'.signer = p.signer ∧ p'.entropy = p.entropy := by
  unfold nameSession at h
  split at h
  · exact Option.some.inj h ▸ ⟨rfl, rfl, rfl⟩
  · exact Option.some.inj h ▸ ⟨rfl, rfl, rfl⟩
  · cases h

/-- A reply is accepted if it is one of success, names a session where there is none, and tells a
transport that goes with the proposal. -/
theorem accept_eq_ok {control : Text} {proposal : Proposal}
    {x : (Session.Carrier × Option UInt32) × Progress}
    (h : accept plan p control proposal response = .ok x) :
    response.isSuccess = true ∧ nameSession p response = some x.2 ∧
      proposal.settle (told? response) = .ok x.1.1 := by
  have hsuccess := isSuccess_of_accept plan h
  unfold accept at h
  split at h
  · cases h
  split at h
  · cases h
  split at h
  · cases h
  rename_i p' hname
  simp only at h
  split at h
  · cases h
  · rename_i carrier hsettle
    rw [← Except.ok.inj h]
    exact ⟨hsuccess, hname, hsettle⟩

/-- What is proposed belongs to the place of the medium, if a pair of ports was had for each medium
before it. -/
theorem proposes_of_propose {index : Nat} {control : Text} {proposal : Proposal}
    {pair : Option Pair} (hbound : plan.mode = .udp → p.bound = index)
    (h : propose plan p index control = .ok ((proposal, pair), p')) :
    Proposes plan index proposal pair ∧ (plan.mode = .udp → p'.bound = index + 1) := by
  unfold propose at h
  split at h
  · rename_i hmode
    split at h
    · rename_i hports
      obtain ⟨hproposed, rfl⟩ := Prod.mk.inj (Except.ok.inj h)
      obtain ⟨rfl, rfl⟩ := Prod.mk.inj hproposed
      rw [hbound hmode] at hports ⊢
      exact ⟨.ports hmode hports, fun _ => rfl⟩
    · cases h
  · rename_i hmode
    split at h
    · rename_i hlt
      obtain ⟨hproposed, rfl⟩ := Prod.mk.inj (Except.ok.inj h)
      obtain ⟨rfl, rfl⟩ := Prod.mk.inj hproposed
      refine ⟨.channels hmode ?_ ?_, fun hudp => ?_⟩
      · simp; omega
      · simp; omega
      · rw [hmode] at hudp
        cases hudp
    · cases h

end Accept

section Recounts

variable {plan : Plan} {p : Progress} {past : List Turn}

/-- A request takes a sound round, whatever is replied. -/
theorem recounts_round (settings : Settings) (p : Progress) (method : Method) (uri : Text)
    (fields : Header) (past : List Turn) :
    Recounts (fun _ _ => True)
      (fun now x => ∃ r : Round, now = past ++ r.turns ∧
        r.Yields settings p (compose p method uri fields).1 (method, uri) x)
      past (send settings p method uri fields) := by
  refine recounts_send trivial ?_ ?_
  · intro response hstatus
    have hno := mt (Round.answerable_ok_iff settings method response).mp fun h => hstatus h.1
    exact ⟨_, rfl, Round.sound_once hno, rfl, rfl, rfl, compose_bound p method uri fields⟩
  · intro refusal signer hstatus hanswer
    refine ⟨trivial, fun response _ => ?_⟩
    have hyes := (Round.answerable_ok_iff settings method refusal).mpr ⟨hstatus, signer, hanswer⟩
    refine ⟨_, ?_, Round.sound_twice hyes signer, rfl, rfl, rfl, ?_⟩
    · rw [List.append_assoc]
      rfl
    · exact (compose_bound _ method uri fields).trans (compose_bound p method uri fields)

theorem recounts_describe (p : Progress) :
    Recounts (fun _ _ => True)
      (fun now x => ∃ (r : Round) (response : Response), now = past ++ r.turns ∧
        r.Sound plan.settings ∧ r.target = (.describe, plan.settings.locator.uri) ∧ r.answer = .ok response ∧
        Description.parse (response.body.getD []) = .ok x.1.2 ∧
        x.1.1 = baseOf plan.settings.locator.uri response ∧ x.2.bound = p.bound)
      past (describe plan p) := by
  rw [describe_eq]
  refine (recounts_round plan.settings p .describe _ _ past).andThen ?_
  rintro now ⟨response, p'⟩ ⟨r, rfl, hr⟩
  unfold opened
  split
  · cases hparse : Description.parse (response.body.getD []) with
    | error h => exact .halt h
    | ok d => exact .value ⟨r, response, rfl, hr.sound, hr.target_eq, hr.answer_eq, hparse, rfl,
        hr.bound_eq⟩
  · exact .halt _

theorem recounts_setup (index : Nat) (base : Text) (medium : Media.Medium)
    (hbound : plan.mode = .udp → p.bound = index) :
    Recounts (fun _ _ => True)
      (fun now x => (∃ r, now = past ++ r.turns ∧ SetUp plan base index medium r x.1.1 x.1.2) ∧
        (plan.mode = .udp → x.2.bound = index + 1))
      past (setup plan p index base medium) := by
  refine (recounts_ofExcept _).andThen ?_
  rintro _ ⟨⟨proposal, pair⟩, p'⟩ ⟨rfl, hpropose⟩
  obtain ⟨hproposes, hbound'⟩ := proposes_of_propose hbound hpropose
  refine (recounts_round plan.settings p' .setup _ _ _).andThen ?_
  rintro _ ⟨response, p''⟩ ⟨r, rfl, hr⟩
  refine (recounts_ofExcept _).andThen ?_
  rintro _ ⟨⟨carrier, ssrc⟩, named⟩ ⟨rfl, haccept⟩
  obtain ⟨-, hname, hsettle⟩ := accept_eq_ok haccept
  have htransport : r.first.request.header.values "Transport".toList =
      [proposal.transport.text] := by
    rw [hr.request_eq, values_compose_transport]
    rfl
  refine .value ⟨⟨r, rfl, rfl, rfl, hr.sound, hr.target_eq, proposal, response, hproposes,
    htransport, hr.answer_eq, hsettle⟩, fun hudp => ?_⟩
  exact ((nameSession_eq_some hname).1.trans hr.bound_eq).trans (hbound' hudp)

theorem recounts_setupAll (base : Text) (media : List Media.Medium) (index : Nat) (p : Progress)
    (past : List Turn) (hbound : plan.mode = .udp → p.bound = index) :
    Recounts (fun _ _ => True)
      (fun now x => ∃ rounds, now = past ++ rounds.flatMap Round.turns ∧
        SetUpFrom plan base index media rounds x.1.1 x.1.2)
      past (setupAll plan base index p media) := by
  induction media generalizing index p past with
  | nil => exact .value ⟨[], (List.append_nil past).symm, .nil index⟩
  | cons medium media ih =>
    refine (recounts_setup index base medium hbound).andThen ?_
    rintro _ ⟨⟨track, pair⟩, p'⟩ ⟨⟨r, rfl, hfirst⟩, hbound'⟩
    refine (ih (index + 1) p' _ hbound').andThen ?_
    rintro _ ⟨⟨tracks, pairs⟩, p''⟩ ⟨rounds, rfl, hrest⟩
    refine .value ⟨r :: rounds, ?_, .cons hfirst hrest⟩
    rw [List.flatMap_cons, List.append_assoc]

theorem recounts_play (p : Progress) (uri : Text) :
    Recounts (fun _ _ => True)
      (fun now _ => ∃ r : Round, now = past ++ r.turns ∧ r.Sound plan.settings ∧
        r.target = (.play, uri))
      past (play plan p uri) := by
  refine (recounts_round plan.settings p .play uri _ past).andThen ?_
  rintro now ⟨response, p'⟩ ⟨r, rfl, hr⟩
  simp only
  split
  · exact .value ⟨r, rfl, hr.sound, hr.target_eq⟩
  · exact .halt _

theorem recounts_dialogue (plan : Plan) (e : Auth.Entropy) :
    Recounts (fun _ _ => True)
      (fun now n => ∃ description opening setups closing,
        now = (opening :: (setups ++ [closing])).flatMap Round.turns ∧
        Account plan n description opening setups closing)
      [] (dialogue plan e) := by
  rw [dialogue_eq]
  refine (recounts_describe (.start e)).andThen ?_
  rintro _ ⟨⟨base, description⟩, p⟩
    ⟨opening, response, rfl, hsound, hopening, hanswer, hparse, hbase, hbound⟩
  refine (recounts_setupAll base description.media 0 p _ fun _ => hbound).andThen ?_
  rintro _ ⟨⟨tracks, pairs⟩, p'⟩ ⟨setups, rfl, htracks⟩
  refine (recounts_play p' _).andThen ?_
  rintro _ ⟨range, p''⟩ ⟨closing, rfl, hsound', hclosing⟩
  have hall : ∀ r ∈ opening :: (setups ++ [closing]), r.Sound plan.settings :=
    List.forall_mem_cons.mpr ⟨hsound, List.forall_mem_append.mpr
      ⟨htracks.sound, List.forall_mem_singleton.mpr hsound'⟩⟩
  refine .value ⟨description, opening, setups, closing, ?_, hall, hopening,
    ⟨response, hanswer, hparse, hbase⟩, htracks, hclosing⟩
  simp only [List.flatMap_cons, List.flatMap_append, List.flatMap_nil, List.append_nil,
    List.nil_append, List.append_assoc]

end Recounts

end Rtsp.Handshake
