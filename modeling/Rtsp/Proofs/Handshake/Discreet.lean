import Rtsp.Proofs.Handshake.Agenda
import Rtsp.Proofs.Handshake.Script
import Rtsp.Proofs.Url.Userinfo

/-!
Credentials leave the client in signatures only. Two handshakes whose settings differ in nothing but
the credentials, which both have or both have not, ask the same of every server that does not look
at signatures, apart from the values of these, and end the same. A handshake asks whether there are
credentials, and which challenge is answered with them, but nothing it does depends on which they
are.
-/
namespace Rtsp

/-- The field, without its value if that is a signature. -/
def Header.Field.masked (f : Header.Field) : Header.Field :=
  if f.isNamed "Authorization".toList then { f with value := [] } else f

/-- The request without the values of its signatures. -/
def Request.masked (r : Request) : Request :=
  { r with header := r.header.map Header.Field.masked }

theorem Header.masked_signature (value : Text) :
    Header.Field.masked ⟨"Authorization".toList, value⟩ = ⟨"Authorization".toList, []⟩ :=
  if_pos (Text.sameName_refl _)

namespace Dialogue

variable {α β α' β' : Type} {T : α → β → Prop} {T' : α' → β' → Prop}

/-- The dialogues ask the same but for signatures, whoever responds, and break off for the same
reason or have results in the relation `T`. -/
inductive Discreet (T : α → β → Prop) : Dialogue α → Dialogue β → Prop
  | value {x : α} {y : β} (h : T x y) : Discreet T (.done (.ok x)) (.done (.ok y))
  | halt (h : Halt) : Discreet T (.done (.error h)) (.done (.error h))
  | ask {request request' : Request} {next : Response → Dialogue α}
      {next' : Response → Dialogue β} (same : request'.masked = request.masked)
      (h : ∀ r, Discreet T (next r) (next' r)) :
      Discreet T (.ask request next) (.ask request' next')

theorem Discreet.andThen {d : Dialogue α} {d' : Dialogue β} {k : α → Dialogue α'}
    {k' : β → Dialogue β'} (hd : Discreet T d d') (hk : ∀ x y, T x y → Discreet T' (k x) (k' y)) :
    Discreet T' (Dialogue.andThen k d) (Dialogue.andThen k' d') := by
  induction hd with
  | value h => exact hk _ _ h
  | halt h => exact .halt h
  | ask same _ ih => exact .ask same ih

/-- The ends of two runs: results in the relation `T`, or the same reason to break off. -/
def Ends (T : α → β → Prop) : Except Halt α → Except Halt β → Prop
  | .ok x, .ok y => T x y
  | .error h, .error h' => h' = h
  | _, _ => False

/-- A server that does not look at signatures is asked the same, and the runs end alike. -/
theorem Discreet.run {server : List Request → Except Halt Response}
    (hserver : ∀ said said', said'.map Request.masked = said.map Request.masked →
      server said' = server said)
    {d : Dialogue α} {d' : Dialogue β} (hd : Discreet T d d') {before before' : List Request}
    (hbefore : before'.map Request.masked = before.map Request.masked) :
    (d'.run (Handshake.listening server) before').2.map Request.masked =
        (d.run (Handshake.listening server) before).2.map Request.masked ∧
      Ends T (d.run (Handshake.listening server) before).1
        (d'.run (Handshake.listening server) before').1 := by
  induction hd generalizing before before' with
  | value h => exact ⟨hbefore, h⟩
  | halt h => exact ⟨hbefore, rfl⟩
  | @ask request request' next next' same _ ih =>
    have hasked : (before' ++ [request']).map Request.masked =
        (before ++ [request]).map Request.masked := by
      rw [List.map_append, List.map_append, hbefore, List.map_singleton, List.map_singleton, same]
    have hreply := hserver _ _ hasked
    cases hr : server (before ++ [request]) with
    | ok response =>
      rw [Handshake.run_ask_ok hr, Handshake.run_ask_ok (hreply.trans hr)]
      exact ih response hasked
    | error h =>
      rw [Handshake.run_ask_error hr, Handshake.run_ask_error (hreply.trans hr)]
      exact ⟨hasked, rfl⟩

end Dialogue

namespace Handshake

open Dialogue (Discreet)

/-- What two clients have learned alike: all but the signatures, which both can make or both
cannot. -/
structure Progress.Level (p p' : Progress) : Prop where
  signed : p'.signer.isSome = p.signer.isSome
  session_eq : p'.session = p.session
  bound_eq : p'.bound = p.bound

variable {p p' : Progress}

theorem Progress.Level.bind (h : p.Level p') : Progress.Level { p with bound := p.bound + 1 }
    { p' with bound := p'.bound + 1 } :=
  ⟨h.signed, h.session_eq, congrArg (· + 1) h.bound_eq⟩

section Compose

variable (method : Method) (uri : Text) (fields : Header)

theorem compose_fst (p : Progress) :
    (compose p method uri fields).1 =
      { Request.make method uri with
        header := fields ++ sessionFields p ++
          (p.signer.map fun signer =>
            ⟨"Authorization".toList, (signer.sign p.entropy method.name uri).1⟩).toList } := by
  rw [← compose_header]
  unfold compose
  cases p.signer <;> rfl

theorem masked_compose (h : p.Level p') :
    (compose p' method uri fields).1.masked = (compose p method uri fields).1.masked := by
  have hfields : sessionFields p' = sessionFields p := by rw [sessionFields, h.session_eq]; rfl
  have hsigned := h.signed
  rw [compose_fst, compose_fst, Request.masked, Request.masked, hfields]
  simp only [List.map_append]
  cases hs : p.signer with
  | none =>
    rw [hs, Option.isSome_none, Option.isSome_eq_false_iff, Option.isNone_iff_eq_none] at hsigned
    rw [hsigned, Option.map_none, Option.map_none]
  | some signer =>
    rw [hs, Option.isSome_some] at hsigned
    obtain ⟨signer', hs'⟩ := Option.isSome_iff_exists.mp hsigned
    rw [hs', Option.map_some, Option.map_some, Option.toList_some, Option.toList_some,
      List.map_singleton, List.map_singleton, Header.masked_signature, Header.masked_signature]

theorem level_compose (h : p.Level p') :
    (compose p method uri fields).2.Level (compose p' method uri fields).2 := by
  have hsome (q : Progress) : (compose q method uri fields).2.signer.isSome = q.signer.isSome := by
    unfold compose
    cases hq : q.signer with
    | none => rw [hq]
    | some signer => rfl
  constructor
  · rw [hsome, hsome, h.signed]
  · rw [compose_session, compose_session, h.session_eq]
  · rw [compose_bound, compose_bound, h.bound_eq]

end Compose

variable {s : Settings} {c : Option Credentials}

/-- Which credentials there are makes no difference for whether a refusal can be answered. -/
theorem answer?_withCredentials (hc : c.isSome = s.locator.credentials.isSome) (method : Method)
    (response : Response) :
    (∃ f, answer? s method response = .error f ∧
      answer? (s.withCredentials c) method response = .error f) ∨
    ∃ signer signer', answer? s method response = .ok signer ∧
      answer? (s.withCredentials c) method response = .ok signer' := by
  have hcredentials : (s.withCredentials c).locator.credentials = c := rfl
  unfold answer?
  rw [hcredentials]
  cases hs : s.locator.credentials with
  | none =>
    rw [hs, Option.isSome_none, Option.isSome_eq_false_iff, Option.isNone_iff_eq_none] at hc
    subst hc
    exact Or.inl ⟨_, rfl, rfl⟩
  | some credentials =>
    rw [hs, Option.isSome_some] at hc
    obtain ⟨credentials', rfl⟩ := Option.isSome_iff_exists.mp hc
    cases Auth.Challenge.ofResponse? response with
    | none => exact Or.inl ⟨_, rfl, rfl⟩
    | some challenge => exact Or.inr ⟨_, _, rfl, rfl⟩

/-- The relation of results that are the same but for what has been learned on the way. -/
structure SameResult {α : Type} (x y : α × Progress) : Prop where
  same : x.1 = y.1
  level : x.2.Level y.2

theorem discreet_sendAgain (method : Method) {x y : Request × Progress}
    (hmasked : y.1.masked = x.1.masked) (hlevel : x.2.Level y.2) :
    Discreet SameResult (sendAgain method x) (sendAgain method y) := by
  refine .ask hmasked fun r => ?_
  split
  · exact .value ⟨rfl, hlevel⟩
  · exact .halt _

theorem discreet_send (hc : c.isSome = s.locator.credentials.isSome) (hp : p.Level p')
    (method : Method) (uri : Text) (fields : Header) :
    Discreet SameResult (send s p method uri fields)
      (send (s.withCredentials c) p' method uri fields) := by
  have hlevel := level_compose method uri fields hp
  have hagain : ∀ signer signer',
      Progress.Level { (compose p method uri fields).2 with signer := some signer }
        { (compose p' method uri fields).2 with signer := some signer' } :=
    fun _ _ => ⟨rfl, hlevel.session_eq, hlevel.bound_eq⟩
  rw [send_eq, send_eq]
  refine .ask (masked_compose method uri fields hp) fun r => ?_
  split
  · exact .value ⟨rfl, hlevel⟩
  · rcases answer?_withCredentials hc method r with ⟨f, hf, hf'⟩ | ⟨signer, signer', hs, hs'⟩
    · rw [hf, hf']
      exact .halt _
    · rw [hs, hs']
      exact discreet_sendAgain method (masked_compose method uri fields (hagain _ _))
        (level_compose method uri fields (hagain _ _))

variable {plan : Plan}

/-- The plan with other credentials, or without. -/
def Plan.withCredentials (plan : Plan) (c : Option Credentials) : Plan :=
  { plan with settings := plan.settings.withCredentials c }

theorem discreet_ofExcept {α β : Type} {T : α → β → Prop} {x : Except Fault α}
    {y : Except Fault β}
    (h : (∃ f, x = .error f ∧ y = .error f) ∨ ∃ a b, x = .ok a ∧ y = .ok b ∧ T a b) :
    Discreet T (ofExcept x) (ofExcept y) := by
  rcases h with ⟨f, rfl, rfl⟩ | ⟨a, b, rfl, rfl, hT⟩
  · exact .halt _
  · exact .value hT

theorem discreet_propose (hp : p.Level p') (index : Nat) (control : Text) :
    Discreet SameResult (ofExcept (propose plan p index control))
      (ofExcept (propose (plan.withCredentials c) p' index control)) := by
  apply discreet_ofExcept
  unfold propose
  rw [hp.bound_eq]
  dsimp only [Plan.withCredentials]
  cases plan.mode with
  | udp =>
    dsimp only
    cases plan.ports p.bound with
    | none => exact Or.inl ⟨_, rfl, rfl⟩
    | some pair =>
      have hbound := hp.bind
      rw [hp.bound_eq] at hbound
      exact Or.inr ⟨_, _, rfl, rfl, rfl, hbound⟩
  | tcp =>
    dsimp only
    split
    · exact Or.inr ⟨_, _, rfl, rfl, rfl, hp⟩
    · exact Or.inl ⟨_, rfl, rfl⟩

theorem nameSession_level (hp : p.Level p') (response : Response) :
    (nameSession p response = none ∧ nameSession p' response = none) ∨
      ∃ q q', nameSession p response = some q ∧ nameSession p' response = some q' ∧ q.Level q' := by
  unfold nameSession
  rw [hp.session_eq]
  cases p.session with
  | some session => exact Or.inr ⟨_, _, rfl, rfl, hp⟩
  | none =>
    cases response.value? "Session".toList with
    | none => exact Or.inl ⟨rfl, rfl⟩
    | some value => exact Or.inr ⟨_, _, rfl, rfl, hp.signed, rfl, hp.bound_eq⟩

theorem discreet_accept (hp : p.Level p') (control : Text) (proposal : Proposal)
    (response : Response) :
    Discreet SameResult (ofExcept (accept plan p control proposal response))
      (ofExcept (accept (plan.withCredentials c) p' control proposal response)) := by
  have hfall : mayFallBack (plan.withCredentials c) = mayFallBack plan := rfl
  apply discreet_ofExcept
  unfold accept
  rw [hfall]
  split
  · exact Or.inl ⟨_, rfl, rfl⟩
  split
  · exact Or.inl ⟨_, rfl, rfl⟩
  rcases nameSession_level hp response with ⟨hn, hn'⟩ | ⟨q, q', hn, hn', hq⟩
  · rw [hn, hn']
    exact Or.inl ⟨_, rfl, rfl⟩
  · rw [hn, hn']
    dsimp only
    cases proposal.settle ((response.value? "Transport".toList).bind Transport.parse?) with
    | error reason => exact Or.inl ⟨_, rfl, rfl⟩
    | ok carrier => exact Or.inr ⟨_, _, rfl, rfl, rfl, hq⟩

theorem discreet_setup (hc : c.isSome = plan.settings.locator.credentials.isSome)
    (hp : p.Level p') (index : Nat) (base : Text) (medium : Media.Medium) :
    Discreet SameResult (setup plan p index base medium)
      (setup (plan.withCredentials c) p' index base medium) := by
  refine (discreet_propose hp index _).andThen ?_
  rintro ⟨⟨proposal, pair⟩, q⟩ ⟨_, q'⟩ ⟨rfl, hq⟩
  refine (discreet_send hc hq .setup _ _).andThen ?_
  rintro ⟨response, q⟩ ⟨_, q'⟩ ⟨rfl, hq⟩
  refine (discreet_accept hq _ proposal response).andThen ?_
  rintro ⟨⟨carrier, ssrc⟩, q⟩ ⟨_, q'⟩ ⟨rfl, hq⟩
  exact .value ⟨rfl, hq⟩

theorem discreet_setupAll (hc : c.isSome = plan.settings.locator.credentials.isSome) (base : Text)
    (media : List Media.Medium) (index : Nat) (hp : p.Level p') :
    Discreet SameResult (setupAll plan base index p media)
      (setupAll (plan.withCredentials c) base index p' media) := by
  induction media generalizing index p p' with
  | nil => exact .value ⟨rfl, hp⟩
  | cons medium media ih =>
    refine (discreet_setup hc hp index base medium).andThen ?_
    rintro ⟨⟨track, pair⟩, q⟩ ⟨_, q'⟩ ⟨rfl, hq⟩
    refine (ih (index + 1) hq).andThen ?_
    rintro ⟨⟨tracks, pairs⟩, q⟩ ⟨_, q'⟩ ⟨rfl, hq⟩
    exact .value ⟨rfl, hq⟩

theorem discreet_describe (hc : c.isSome = plan.settings.locator.credentials.isSome)
    (hp : p.Level p') :
    Discreet SameResult (describe plan p) (describe (plan.withCredentials c) p') := by
  rw [describe_eq, describe_eq]
  refine (discreet_send hc hp .describe _ _).andThen ?_
  rintro ⟨response, q⟩ ⟨_, q'⟩ ⟨rfl, hq⟩
  simp only [opened]
  split
  · cases Description.parse (response.body.getD []) with
    | ok d => exact .value ⟨rfl, hq⟩
    | error h => exact .halt h
  · exact .halt _

theorem discreet_play (hc : c.isSome = plan.settings.locator.credentials.isSome)
    (hp : p.Level p') (uri : Text) :
    Discreet SameResult (play plan p uri) (play (plan.withCredentials c) p' uri) := by
  refine (discreet_send hc hp .play uri _).andThen ?_
  rintro ⟨response, q⟩ ⟨_, q'⟩ ⟨rfl, hq⟩
  dsimp only
  split
  · exact .value ⟨rfl, hq⟩
  · exact .halt _

/-- Handshakes that differ only in their credentials, and in the numbers that they draw. -/
theorem discreet_dialogue (hc : c.isSome = plan.settings.locator.credentials.isSome)
    (e e' : Auth.Entropy) :
    Discreet (fun n n' => n'.session = n.session) (dialogue plan e)
      (dialogue (plan.withCredentials c) e') := by
  rw [dialogue_eq, dialogue_eq]
  have hstart : (Progress.start e).Level (.start e') := ⟨rfl, rfl, rfl⟩
  refine (discreet_describe hc hstart).andThen ?_
  rintro ⟨⟨base, description⟩, q⟩ ⟨_, q'⟩ ⟨rfl, hq⟩
  refine (discreet_setupAll hc base description.media 0 hq).andThen ?_
  rintro ⟨⟨tracks, pairs⟩, q⟩ ⟨_, q'⟩ ⟨rfl, hq⟩
  refine (discreet_play hc hq _).andThen ?_
  rintro ⟨range, q⟩ ⟨_, q'⟩ ⟨rfl, hq⟩
  have hsession : q'.session = q.session := hq.session_eq
  refine .value ?_
  simp only [sessionOf, hsession]

theorem map_session_of_ends {x y : Except Halt Negotiated}
    (h : Dialogue.Ends (fun n n' => n'.session = n.session) x y) :
    y.map Negotiated.session = x.map Negotiated.session := by
  cases x with
  | ok n =>
    cases y with
    | ok n' => exact congrArg Except.ok h
    | error halt => exact h.elim
  | error halt =>
    cases y with
    | ok n' => exact h.elim
    | error halt' => exact congrArg Except.error h

/-- A script looks at no request. -/
theorem script_congr (responses : List Response) {said said' : List Request}
    (h : said'.map Request.masked = said.map Request.masked) :
    script responses said' = script responses said := by
  have hlength := congrArg List.length h
  rw [List.length_map, List.length_map] at hlength
  rw [script, script, hlength]

/-- Where two drafts differ only in who is named before the at sign of their addresses, the
addresses lead to the same place, and against every script the handshakes ask the same apart from
the values of signatures, use up as many responses, and end in the same session or the same fault. -/
theorem credentials_undisclosed {d : Settings.Draft} {before user user' after : Text}
    (ho : Url.Opens before) (hu : Url.Enclosed user) (hu' : Url.Enclosed user') {s s' : Settings}
    (hs : { d with url := Url.withUser before user after }.build = .ok s)
    (hs' : { d with url := Url.withUser before user' after }.build = .ok s')
    (mode : Session.Mode) (ports : Ports) (e e' : Auth.Entropy) (responses : List Response) :
    let run := (dialogue ⟨s, mode, ports⟩ e).against (script responses)
    let run' := (dialogue ⟨s', mode, ports⟩ e').against (script responses)
    run'.2.map Request.masked = run.2.map Request.masked ∧
      run'.2.length = run.2.length ∧
      run'.1.map Negotiated.session = run.1.map Negotiated.session ∧
      s'.locator.uri = s.locator.uri ∧ s'.locator.host = s.locator.host ∧
      s'.locator.port = s.locator.port ∧ s'.locator.path = s.locator.path ∧
      s'.locator.address = s.locator.address := by
  intro run run'
  obtain ⟨heq, hsome⟩ := Settings.build_withUser ho hu hu' hs hs'
  have hplan : (⟨s', mode, ports⟩ : Plan) =
      Plan.withCredentials ⟨s, mode, ports⟩ s'.locator.credentials := by
    rw [Plan.withCredentials]
    dsimp only
    rw [← heq]
  have hdiscreet : Discreet _ (dialogue ⟨s, mode, ports⟩ e) (dialogue ⟨s', mode, ports⟩ e') :=
    hplan ▸ discreet_dialogue hsome e e'
  obtain ⟨hasked, hends⟩ := hdiscreet.run (fun said said' => script_congr responses) rfl
  have hlocator := congrArg Settings.locator heq
  have hlength : run'.2.length = run.2.length := by
    have hlengths := congrArg List.length hasked
    rwa [List.length_map, List.length_map] at hlengths
  refine ⟨hasked, hlength, map_session_of_ends hends, ?_⟩
  rw [hlocator]
  exact ⟨rfl, rfl, rfl, rfl, rfl⟩

/-- A user name with an at sign and a password with an encoded slash and a colon in it. -/
theorem credentials_undisclosed_escaped :
    let d := Settings.Draft.ofUrl []
    let url := Url.withUser "rtsp://".toList "user:pass".toList "cam/live".toList
    let url' := Url.withUser "rtsp://".toList "ro@t:p%2Fss:".toList "cam/live".toList
    ∃ s s', { d with url := url }.build = .ok s ∧ { d with url := url' }.build = .ok s' ∧
      let responses := [Response.unauthorized "Basic realm=\"cam\"".toList]
      let run := (dialogue ⟨s, .tcp, fun _ => none⟩ (.counting 0)).against (script responses)
      let run' := (dialogue ⟨s', .tcp, fun _ => none⟩ (.counting 5)).against (script responses)
      run'.2 ≠ run.2 ∧ run'.2.map Request.masked = run.2.map Request.masked ∧
        run'.2.length = run.2.length ∧
        run'.1.map Negotiated.session = run.1.map Negotiated.session ∧
        s'.locator.uri = s.locator.uri ∧ s'.locator.host = s.locator.host ∧
        s'.locator.port = s.locator.port ∧ s'.locator.path = s.locator.path ∧
        s'.locator.address = s.locator.address := by
  intro d url url'
  have hdiffer : ({ d with url := url }.build.bind fun s =>
      { d with url := url' }.build.map fun s' =>
      decide (((dialogue ⟨s', .tcp, fun _ => none⟩ (.counting 5)).against
          (script [Response.unauthorized "Basic realm=\"cam\"".toList])).2 =
        ((dialogue ⟨s, .tcp, fun _ => none⟩ (.counting 0)).against
          (script [Response.unauthorized "Basic realm=\"cam\"".toList])).2)) = .ok false := by
    decide +kernel
  cases hs : { d with url := url }.build with
  | error f =>
    rw [hs] at hdiffer
    cases hdiffer
  | ok s =>
    cases hs' : { d with url := url' }.build with
    | error f =>
      rw [hs, hs'] at hdiffer
      cases hdiffer
    | ok s' =>
      rw [hs, hs'] at hdiffer
      have hopens : Url.Opens "rtsp://".toList := ⟨"rtsp".toList, by decide, by decide⟩
      exact ⟨s, s', rfl, rfl, of_decide_eq_false (Except.ok.inj hdiffer),
        credentials_undisclosed hopens (by decide) (by decide) hs hs' .tcp (fun _ => none)
          (.counting 0) (.counting 5) _⟩

end Handshake

end Rtsp
