import Rtsp.Proofs.Auth.Uses
import Rtsp.Proofs.Handshake.Legible
import Rtsp.Proofs.Handshake.Tracks

/-!
What a request repeats of what was said before it: the name of the session, once a reply to SETUP has
given one, and a signature, once a refusal has called for one. The first name stays. The latest
challenge counts, and the signer that answers it has been used for each request since.
-/
namespace Rtsp

namespace Handshake

/-- The reply asks for credentials. -/
def Turn.Refuses (t : Turn) : Prop :=
  ∃ response, t.reply = .ok response ∧ response.status = unauthorized

/-- The signer that the reply calls for, if it is a refusal that can be answered. -/
def Turn.calls? (settings : Settings) (t : Turn) : Option Auth.Signer :=
  match t.reply with
  | .ok response =>
    if response.status = unauthorized then
      settings.locator.credentials.bind fun c =>
        (Auth.Challenge.ofResponse? response).map (Auth.Signer.make c)
    else none
  | .error _ => none

/-- The name of the session in a reply that grants a medium. -/
def Turn.names? (t : Turn) : Option Text :=
  match t.reply with
  | .ok response =>
    if t.request.method = Method.name .setup ∧ response.isSuccess = true then
      (response.value? "Session".toList).map fun value => (Session.parseHeader value).1
    else none
  | .error _ => none

def Turn.isSigned (t : Turn) : Bool := t.request.header.values authorization != []

/-- The signer of the next request, if `s` may have signed that of this turn. -/
def Turn.passOn (settings : Settings) (s : Option Auth.Signer) (t : Turn) : Option Auth.Signer :=
  (t.calls? settings).or (s.map fun signer => signer.after 1)

def signerAfter (settings : Settings) (past : List Turn) : Option Auth.Signer :=
  past.foldl (Turn.passOn settings) none

/-- The request repeats what it has to of the turns before it. -/
structure Repeats (settings : Settings) (e : Auth.Entropy) (past : List Turn) (r : Request) :
    Prop where
  answered : ∀ t ∈ past, t.Refuses → (t.calls? settings).isSome
  session : r.header.values "Session".toList = (past.findSome? Turn.names?).toList
  signature : r.header.values authorization = ((signerAfter settings past).map fun signer =>
    (signer.sign (e.after (past.countP Turn.isSigned)) r.method r.uri).1).toList

/-- What is known about signatures after some turns. -/
structure Signs (settings : Settings) (e : Auth.Entropy) (past : List Turn) (p : Progress) :
    Prop where
  answered : ∀ t ∈ past, t.Refuses → (t.calls? settings).isSome
  signer : p.signer = signerAfter settings past
  entropy : p.entropy = e.after (past.countP Turn.isSigned)

structure Remembers (settings : Settings) (e : Auth.Entropy) (past : List Turn) (p : Progress) :
    Prop extends Signs settings e past p where
  session : p.session.map Prod.fst = past.findSome? Turn.names?

section Latest

variable {settings : Settings}

/-- Without a call the signer stays, and is used for every turn. -/
theorem foldl_passOn {since : List Turn} (h : ∀ t ∈ since, t.calls? settings = none)
    (s : Option Auth.Signer) :
    since.foldl (Turn.passOn settings) s = s.map fun signer => signer.after since.length := by
  induction since generalizing s with
  | nil => simp
  | cons t since ih =>
    obtain ⟨hfirst, hrest⟩ := List.forall_mem_cons.mp h
    rw [List.foldl_cons, ih hrest, Turn.passOn, hfirst, Option.none_or, Option.map_map]
    congr 1
    funext signer
    rw [Function.comp_apply, Auth.Signer.after_after, List.length_cons, Nat.add_comm]

theorem signerAfter_eq_none {past : List Turn} (h : ∀ t ∈ past, t.calls? settings = none) :
    signerAfter settings past = none := foldl_passOn h none

theorem signerAfter_append_cons {old since : List Turn} {t : Turn} {signer : Auth.Signer}
    (hcall : t.calls? settings = some signer) (h : ∀ u ∈ since, u.calls? settings = none) :
    signerAfter settings (old ++ t :: since) = some (signer.after since.length) := by
  rw [signerAfter, List.foldl_append, List.foldl_cons, Turn.passOn, hcall, Option.some_or,
    foldl_passOn h, Option.map_some]

theorem signerAfter_concat (past : List Turn) (t : Turn) :
    signerAfter settings (past ++ [t]) = t.passOn settings (signerAfter settings past) := by
  rw [signerAfter, List.foldl_append]
  rfl

end Latest

section Compose

variable {settings : Settings} {e : Auth.Entropy} {past : List Turn} {p : Progress}
  {method : Method} {uri : Text} {fields : Header}

theorem calls?_of_answer {t : Turn} {response : Response} {signer : Auth.Signer}
    (hreply : t.reply = .ok response) (hstatus : response.status = unauthorized)
    (h : answer? settings method response = .ok signer) : t.calls? settings = some signer := by
  unfold answer? at h
  split at h
  · cases h
  rename_i c hc
  split at h
  · cases h
  rename_i challenge hchallenge
  simp only [Turn.calls?, hreply, hstatus, hc, hchallenge, if_true, Option.bind_some,
    Option.map_some, Except.ok.inj h]

theorem calls?_of_not_refused {t : Turn} {response : Response} (hreply : t.reply = .ok response)
    (hstatus : response.status ≠ unauthorized) : t.calls? settings = none := by
  simp only [Turn.calls?, hreply, hstatus, if_false]

theorem names?_of_refused {t : Turn} {response : Response} (hreply : t.reply = .ok response)
    (hstatus : response.status = unauthorized) : t.names? = none := by
  have hfailure : response.isSuccess = false := by
    rw [Response.isSuccess, hstatus]
    decide
  simp only [Turn.names?, hreply, hfailure, Bool.false_eq_true, and_false, if_false]

theorem values_compose_authorization (hfields : fields.values authorization = []) :
    (compose p method uri fields).1.header.values authorization =
      (p.signer.map fun signer => (signer.sign p.entropy method.name uri).1).toList := by
  have hsession : (sessionFields p).values authorization = [] := by
    unfold sessionFields
    cases p.session <;> rfl
  rw [compose_header, Header.values_append, Header.values_append, hfields, hsession]
  cases p.signer <;> rfl

theorem values_compose_session (hfields : fields.values "Session".toList = []) :
    (compose p method uri fields).1.header.values "Session".toList =
      (p.session.map Prod.fst).toList := by
  have hsession : (sessionFields p).values "Session".toList = (p.session.map Prod.fst).toList := by
    unfold sessionFields
    cases p.session <;> rfl
  rw [values_compose_of_ne p method uri fields (by decide), hfields, hsession, List.nil_append]

theorem compose_snd (p : Progress) (method : Method) (uri : Text) (fields : Header) :
    (compose p method uri fields).2.signer = p.signer.map (fun signer => signer.after 1) ∧
      (compose p method uri fields).2.entropy = p.entropy.after p.signer.toList.length := by
  unfold compose
  cases hsigner : p.signer with
  | none => exact ⟨hsigner, rfl⟩
  | some signer =>
    have hsnd := signer.sign_snd p.entropy method.name uri
    exact ⟨congrArg some (congrArg Prod.fst hsnd), congrArg Prod.snd hsnd⟩

end Compose

/-- Fields that have nothing to do with sessions and signatures. -/
structure Silent (fields : Header) : Prop where
  session : fields.values "Session".toList = []
  signature : fields.values authorization = []

/-- The last request has been replied to, and nothing has been learned yet from the reply. -/
structure Replied (settings : Settings) (e : Auth.Entropy) (method : Method) (past : List Turn)
    (request : Request) (x : Response × Progress) : Prop
    extends Signs settings e (past ++ [⟨request, .ok x.1⟩]) x.2 where
  method_eq : request.method = method.name
  session : x.2.session.map Prod.fst = past.findSome? Turn.names?

section Steps

variable {settings : Settings} {e : Auth.Entropy} {past : List Turn} {p : Progress}
  {method : Method} {uri : Text} {fields : Header}

theorem Remembers.repeats (hp : Remembers settings e past p) (hfields : Silent fields) :
    Repeats settings e past (compose p method uri fields).1 := by
  refine ⟨hp.answered, ?_, ?_⟩
  · rw [values_compose_session hfields.session, hp.session]
  · rw [values_compose_authorization hfields.signature, compose_method, compose_uri, hp.signer,
      hp.entropy]

/-- One turn, whose reply may call for another signer. -/
theorem Signs.turn (hp : Signs settings e past p) (hfields : fields.values authorization = [])
    {response : Response} {p' : Progress}
    (hsigner : p'.signer =
      Turn.passOn settings p.signer ⟨(compose p method uri fields).1, .ok response⟩)
    (hentropy : p'.entropy = (compose p method uri fields).2.entropy)
    (hanswered : response.status = unauthorized →
      (Turn.calls? settings ⟨(compose p method uri fields).1, .ok response⟩).isSome) :
    Signs settings e (past ++ [⟨(compose p method uri fields).1, .ok response⟩]) p' := by
  refine ⟨List.forall_mem_append.mpr ⟨hp.answered, List.forall_mem_singleton.mpr ?_⟩, ?_, ?_⟩
  · rintro ⟨response', hreply, hstatus⟩
    exact hanswered (Except.ok.inj hreply ▸ hstatus)
  · rw [hsigner, hp.signer, signerAfter_concat]
  · have hsigned : List.countP Turn.isSigned [⟨(compose p method uri fields).1, .ok response⟩] =
        p.signer.toList.length := by
      simp only [List.countP_singleton, Turn.isSigned, values_compose_authorization hfields]
      cases p.signer <;> rfl
    rw [hentropy, (compose_snd p method uri fields).2, hp.entropy, List.countP_append, hsigned]
    simp only [Auth.Entropy.after, Nat.add_assoc]

theorem Remembers.replied (hp : Remembers settings e past p) (hfields : Silent fields)
    {response : Response} (hstatus : response.status ≠ unauthorized) :
    Replied settings e method past (compose p method uri fields).1
      (response, (compose p method uri fields).2) where
  toSigns := by
    refine hp.toSigns.turn hfields.signature ?_ rfl fun h => absurd h hstatus
    rw [Turn.passOn, calls?_of_not_refused rfl hstatus, Option.none_or]
    exact (compose_snd p method uri fields).1
  method_eq := compose_method p method uri fields
  session := by
    rw [compose_session]
    exact hp.session

/-- A refusal that is answered calls for the signer of the answer, and names no session. -/
theorem Remembers.refused (hp : Remembers settings e past p) (hfields : Silent fields)
    {refusal : Response} {signer : Auth.Signer} (hstatus : refusal.status = unauthorized)
    (hanswer : answer? settings method refusal = .ok signer) :
    Remembers settings e (past ++ [⟨(compose p method uri fields).1, .ok refusal⟩])
      { (compose p method uri fields).2 with signer := some signer } where
  toSigns := by
    have hcalls := calls?_of_answer (t := ⟨(compose p method uri fields).1, .ok refusal⟩) rfl
      hstatus hanswer
    refine hp.toSigns.turn hfields.signature ?_ rfl fun _ => Option.isSome_of_eq_some hcalls
    rw [Turn.passOn, hcalls, Option.some_or]
  session := by
    have hnames := names?_of_refused (t := ⟨(compose p method uri fields).1, .ok refusal⟩) rfl
      hstatus
    rw [List.findSome?_append, List.findSome?_singleton, hnames, Option.or_none, ← hp.session]
    exact congrArg (Option.map Prod.fst) (compose_session p method uri fields)

/-- A request, and its repetition with a new signature. -/
theorem recounts_repeats (hp : Remembers settings e past p) (hfields : Silent fields) :
    Recounts (Repeats settings e)
      (fun now x => ∃ before request, now = before ++ [⟨request, .ok x.1⟩] ∧
        Replied settings e method before request x)
      past (send settings p method uri fields) := by
  refine recounts_send (hp.repeats hfields) ?_ ?_
  · intro response hstatus
    exact ⟨past, _, rfl, hp.replied hfields hstatus⟩
  · -- The repetition is again a request after turns that are remembered, now with the refusal.
    intro refusal signer hstatus hanswer
    refine ⟨(hp.refused hfields hstatus hanswer).repeats hfields, fun response hstatus' => ?_⟩
    exact ⟨_, _, rfl, (hp.refused hfields hstatus hanswer).replied hfields hstatus'⟩

/-- Only a reply to SETUP names a session. -/
theorem Replied.remembers {request : Request} {x : Response × Progress}
    (h : Replied settings e method past request x) (hne : method.name ≠ Method.name .setup) :
    Remembers settings e (past ++ [⟨request, .ok x.1⟩]) x.2 where
  toSigns := h.toSigns
  session := by
    have hnames : Turn.names? ⟨request, .ok x.1⟩ = none := by
      simp only [Turn.names?, h.method_eq, hne, false_and, if_false]
    rw [List.findSome?_append, List.findSome?_singleton, hnames, Option.or_none, h.session]

/-- A reply that grants a medium names the session, if it has no name yet. -/
theorem Replied.remembers_of_name {request : Request} {x : Response × Progress} {p' : Progress}
    (h : Replied settings e .setup past request x) (hsuccess : x.1.isSuccess = true)
    (hname : nameSession x.2 x.1 = some p') :
    Remembers settings e (past ++ [⟨request, .ok x.1⟩]) p' := by
  obtain ⟨-, hsigner, hentropy⟩ := nameSession_eq_some hname
  refine ⟨⟨h.answered, hsigner.trans h.signer, hentropy.trans h.entropy⟩, ?_⟩
  have hnames : Turn.names? ⟨request, .ok x.1⟩ =
      (x.1.value? "Session".toList).map fun value => (Session.parseHeader value).1 := by
    simp only [Turn.names?, h.method_eq, hsuccess, and_self, if_true]
  rw [List.findSome?_append, List.findSome?_singleton, hnames, ← h.session]
  unfold nameSession at hname
  split at hname
  · rename_i s _ hs
    rw [← Option.some.inj hname, hs]
    rfl
  · rename_i value hs hvalue
    rw [← Option.some.inj hname, hs, hvalue]
    rfl
  · cases hname

end Steps

section Dialogue

variable {plan : Plan} {e : Auth.Entropy} {past : List Turn} {p : Progress}

theorem recounts_repeats_describe (hp : Remembers plan.settings e past p) :
    Recounts (Repeats plan.settings e) (fun now x => Remembers plan.settings e now x.2) past
      (describe plan p) := by
  rw [describe_eq]
  refine (recounts_repeats hp ⟨rfl, rfl⟩).andThen ?_
  rintro _ ⟨response, p'⟩ ⟨before, request, rfl, hreplied⟩
  unfold opened
  split
  · cases Description.parse (response.body.getD []) with
    | error h => exact .halt h
    | ok d => exact .value (hreplied.remembers (by decide))
  · exact .halt _

theorem recounts_repeats_setup (index : Nat) (base : Text) (medium : Media.Medium)
    (hp : Remembers plan.settings e past p) :
    Recounts (Repeats plan.settings e) (fun now x => Remembers plan.settings e now x.2) past
      (setup plan p index base medium) := by
  refine (recounts_ofExcept _).andThen ?_
  rintro _ ⟨⟨proposal, pair⟩, p'⟩ ⟨rfl, hpropose⟩
  obtain ⟨-, -, bound, rfl⟩ := propose_eq_ok hpropose
  have hp' : Remembers plan.settings e _ { p with bound := bound } :=
    ⟨⟨hp.answered, hp.signer, hp.entropy⟩, hp.session⟩
  refine (recounts_repeats hp' ⟨rfl, rfl⟩).andThen ?_
  rintro _ ⟨response, p''⟩ ⟨before, request, rfl, hreplied⟩
  refine (recounts_ofExcept _).andThen ?_
  rintro _ ⟨⟨carrier, ssrc⟩, named⟩ ⟨rfl, haccept⟩
  obtain ⟨hsuccess, hname, -⟩ := accept_eq_ok haccept
  exact .value (hreplied.remembers_of_name hsuccess hname)

theorem recounts_repeats_setupAll (base : Text) (media : List Media.Medium) (index : Nat)
    (hp : Remembers plan.settings e past p) :
    Recounts (Repeats plan.settings e) (fun now x => Remembers plan.settings e now x.2) past
      (setupAll plan base index p media) := by
  induction media generalizing index p past with
  | nil => exact .value hp
  | cons medium media ih =>
    refine (recounts_repeats_setup index base medium hp).andThen ?_
    rintro now ⟨⟨track, pair⟩, p'⟩ hp'
    refine (ih (index + 1) hp').andThen ?_
    rintro now ⟨⟨tracks, pairs⟩, p''⟩ hp''
    exact .value hp''

theorem recounts_repeats_play (uri : Text) (hp : Remembers plan.settings e past p) :
    Recounts (Repeats plan.settings e) (fun now x => Remembers plan.settings e now x.2) past
      (play plan p uri) := by
  have hsilent : Silent (plan.settings.rangeText.map fun range => ⟨"Range".toList, range⟩).toList :=
    by cases plan.settings.rangeText <;> exact ⟨rfl, rfl⟩
  refine (recounts_repeats hp hsilent).andThen ?_
  rintro _ ⟨response, p'⟩ ⟨before, request, rfl, hreplied⟩
  simp only
  split
  · exact .value (hreplied.remembers (by decide))
  · exact .halt _

theorem recounts_repeats_dialogue (plan : Plan) (e : Auth.Entropy) :
    Recounts (Repeats plan.settings e) (fun _ _ => True) [] (dialogue plan e) := by
  have hstart : Remembers plan.settings e [] (.start e) :=
    ⟨⟨fun t ht => absurd ht List.not_mem_nil, rfl, rfl⟩, rfl⟩
  rw [dialogue_eq]
  refine (recounts_repeats_describe hstart).andThen ?_
  rintro now ⟨⟨base, description⟩, p⟩ hp
  refine (recounts_repeats_setupAll base description.media 0 hp).andThen ?_
  rintro now ⟨⟨tracks, pairs⟩, p'⟩ hp'
  refine (recounts_repeats_play _ hp').andThen ?_
  rintro now ⟨range, p''⟩ -
  exact .value trivial

end Dialogue

/-- Each request has the name of the session that the first reply to name one gave, and no other.
Before it every refusal was answered. If there was none, the request is not signed; else it is
signed for itself by the signer that the latest refusal called for, which has signed all requests
since. -/
theorem requests_signed_as_called (plan : Plan) (e : Auth.Entropy)
    (server : List Request → Except Halt Response)
    (i : Fin ((dialogue plan e).against server).2.length) :
    let request := ((dialogue plan e).against server).2[i]
    let past := turnsAfter server [] (((dialogue plan e).against server).2.take i)
    request.header.values "Session".toList = (past.findSome? Turn.names?).toList ∧
      (∀ t ∈ past, t.Refuses → (t.calls? plan.settings).isSome) ∧
      ((∀ t ∈ past, t.calls? plan.settings = none) → request.header.values authorization = []) ∧
      ∀ old t since signer, past = old ++ t :: since → t.calls? plan.settings = some signer →
        (∀ u ∈ since, u.calls? plan.settings = none) →
        request.header.values authorization =
          [((signer.after since.length).sign (e.after (past.countP Turn.isSigned))
            request.method request.uri).1] := by
  intro request past
  have hrepeats : Repeats plan.settings e past request :=
    ((recounts_repeats_dialogue plan e).against server).1 i
  refine ⟨hrepeats.session, hrepeats.answered, fun hnone => ?_, fun old t since signer hpast hcall
    hsince => ?_⟩
  · rw [hrepeats.signature, signerAfter_eq_none hnone]
    rfl
  · have hsigner : signerAfter plan.settings past = some (signer.after since.length) :=
      hpast ▸ signerAfter_append_cons hcall hsince
    rw [hrepeats.signature, hsigner]
    rfl

end Handshake

end Rtsp
