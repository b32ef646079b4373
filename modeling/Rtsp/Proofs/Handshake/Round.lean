import Rtsp.Handshake

/-!
One request of a handshake and its answer. A round is what the server sees of it: the request, and,
if it was refused for want of credentials and something can be done about that, the same request
signed anew. A request is never sent a third time, whatever the second answer is.
-/
namespace Rtsp.Handshake

/-- The request without its signature. -/
def unsigned (r : Request) : Request :=
  { r with header := r.header.filter fun f => !f.isNamed "Authorization".toList }

structure Turn where
  request : Request
  reply : Except Halt Response

/-- What is said after some requests, and what the server replies by all that was said. -/
def turnsAfter (server : List Request → Except Halt Response) :
    List Request → List Request → List Turn
  | _, [] => []
  | before, request :: rest =>
    ⟨request, server (before ++ [request])⟩ :: turnsAfter server (before ++ [request]) rest

/-- The server as the other side of a dialogue, with the requests so far for a state. -/
def listening (server : List Request → Except Halt Response) : Exchange (List Request) :=
  fun said request => (server (said ++ [request]), said ++ [request])

structure Round where
  method : Method
  uri : Text
  first : Turn
  again : Option Turn

namespace Round

def turns (r : Round) : List Turn := r.first :: r.again.toList

/-- The last reply. -/
def answer (r : Round) : Except Halt Response := (r.again.getD r.first).reply

def target (r : Round) : Method × Text := (r.method, r.uri)

/-- The last reply is a response with a status from 200 to 299. -/
def Passed (r : Round) : Prop := ∃ response, r.answer = .ok response ∧ response.isSuccess = true

/-- A reply that is answered with a signature: it asks for credentials, there are some, and it
offers a scheme that is known. -/
def Answerable (settings : Settings) (reply : Except Halt Response) : Prop :=
  ∃ response, reply = .ok response ∧ response.status = unauthorized ∧
    settings.locator.credentials.isSome ∧ (Auth.Challenge.ofResponse? response).isSome

/-- The request is what it should be; it is repeated if and only if that can help, and then it is
the same but for the signature. -/
structure Sound (settings : Settings) (r : Round) : Prop where
  method_eq : r.first.request.method = r.method.name
  uri_eq : r.first.request.uri = r.uri
  again_iff : r.again.isSome ↔ Answerable settings r.first.reply
  again_eq : ∀ t ∈ r.again, unsigned t.request = unsigned r.first.request

end Round

variable (server : List Request → Except Halt Response)

theorem turnsAfter_append (before a b : List Request) :
    turnsAfter server before (a ++ b) =
      turnsAfter server before a ++ turnsAfter server (before ++ a) b := by
  induction a generalizing before with
  | nil => simp [turnsAfter]
  | cons r a ih =>
    have hrest := ih (before ++ [r])
    simp only [List.cons_append, turnsAfter, hrest, List.append_assoc, List.nil_append]

section Compose

variable (p : Progress) (method : Method) (uri : Text) (fields : Header)

theorem compose_method : (compose p method uri fields).1.method = method.name := by
  unfold compose
  cases p.signer <;> rfl

theorem compose_uri : (compose p method uri fields).1.uri = uri := by
  unfold compose
  cases p.signer <;> rfl

theorem compose_session : (compose p method uri fields).2.session = p.session := by
  unfold compose
  cases p.signer <;> rfl

theorem compose_bound : (compose p method uri fields).2.bound = p.bound := by
  unfold compose
  cases p.signer <;> rfl

/-- The signature comes last. -/
theorem compose_header :
    (compose p method uri fields).1.header = fields ++ sessionFields p ++
      (p.signer.map fun signer =>
        ⟨"Authorization".toList, (signer.sign p.entropy method.name uri).1⟩).toList := by
  unfold compose
  cases p.signer with
  | none => exact (List.append_nil _).symm
  | some signer => rfl

theorem values_compose_of_ne {name : Text}
    (hname : Text.sameName "Authorization".toList name = false) :
    (compose p method uri fields).1.header.values name =
      fields.values name ++ (sessionFields p).values name := by
  have hsignature : ∀ value, Header.values [⟨"Authorization".toList, value⟩] name = [] := by
    simp only [Header.values, Header.Field.isNamed, List.filter_cons, hname, Bool.false_eq_true,
      if_false, List.filter_nil, List.map_nil, implies_true]
  rw [compose_header, Header.values_append, Header.values_append]
  cases p.signer with
  | none => exact List.append_nil _
  | some signer => rw [Option.map_some, Option.toList_some, hsignature, List.append_nil]

/-- But for the signature a request depends on the session alone. -/
theorem unsigned_compose :
    unsigned (compose p method uri fields).1 =
      unsigned { Request.make method uri with header := fields ++ sessionFields p } := by
  have hname : Text.sameName "Authorization".toList "Authorization".toList = true :=
    Text.sameName_refl _
  unfold compose
  cases p.signer with
  | none => rfl
  | some signer =>
    simp only [unsigned, Request.add, Header.add, List.filter_append, List.filter_cons,
      Header.Field.isNamed, hname, Bool.not_true, Bool.false_eq_true, if_false, List.filter_nil,
      List.append_nil]

theorem unsigned_compose_again (signer : Auth.Signer) :
    unsigned (compose { (compose p method uri fields).2 with signer := some signer }
      method uri fields).1 = unsigned (compose p method uri fields).1 := by
  have hsession := compose_session p method uri fields
  rw [unsigned_compose, unsigned_compose]
  simp only [sessionFields, hsession]

end Compose

theorem Round.not_answerable_error (settings : Settings) (halt : Halt) :
    ¬ Answerable settings (.error halt) := by
  rintro ⟨response, hresponse, -⟩
  simp at hresponse

/-- A refusal is answered with a signature exactly where one can be made. -/
theorem Round.answerable_ok_iff (settings : Settings) (method : Method) (response : Response) :
    Answerable settings (.ok response) ↔
      response.status = unauthorized ∧ ∃ signer, answer? settings method response = .ok signer := by
  have hcan : (∃ signer, answer? settings method response = .ok signer) ↔
      settings.locator.credentials.isSome ∧ (Auth.Challenge.ofResponse? response).isSome := by
    unfold answer?
    cases settings.locator.credentials with
    | none => simp
    | some credentials => cases Auth.Challenge.ofResponse? response <;> simp
  rw [hcan]
  constructor
  · rintro ⟨response', hresponse, h⟩
    rw [Except.ok.injEq] at hresponse
    exact hresponse ▸ h
  · exact fun h => ⟨response, rfl, h⟩

section Run

variable {server} {α : Type} {request : Request} {next : Response → Dialogue α}
  {before : List Request}

theorem run_ask_ok {response : Response} (h : server (before ++ [request]) = .ok response) :
    (Dialogue.ask request next).run (listening server) before =
      (next response).run (listening server) (before ++ [request]) := by
  simp only [Dialogue.run, listening, h]

theorem run_ask_error {halt : Halt} (h : server (before ++ [request]) = .error halt) :
    (Dialogue.ask request next).run (listening server) before =
      (.error halt, before ++ [request]) := by
  simp only [Dialogue.run, listening, h]

end Run

/-- What is left to say once a request has been signed anew. -/
def sendAgain (method : Method) (again : Request × Progress) : Dialogue (Response × Progress) :=
  .ask again.1 fun response =>
    if response.status ≠ unauthorized then pure (response, again.2)
    else .fail (.authentication (method.name ++ " rejected the configured credentials".toList))

theorem run_sendAgain (method : Method) (again : Request × Progress) (before : List Request) :
    ((sendAgain method again).run (listening server) before).2 = before ++ [again.1] ∧
      ∀ x, ((sendAgain method again).run (listening server) before).1 = .ok x →
        server (before ++ [again.1]) = .ok x.1 := by
  unfold sendAgain
  cases hreply : server (before ++ [again.1]) with
  | error halt =>
    rw [run_ask_error hreply]
    exact ⟨rfl, fun x hx => by simp at hx⟩
  | ok response =>
    rw [run_ask_ok hreply]
    by_cases hstatus : response.status ≠ unauthorized
    · rw [if_pos hstatus]
      refine ⟨rfl, ?_⟩
      intro x hx
      obtain rfl := Except.ok.inj hx
      rfl
    · rw [if_neg hstatus]
      refine ⟨rfl, ?_⟩
      intro x hx
      simp [Dialogue.fail, Dialogue.run] at hx

theorem send_eq (settings : Settings) (p : Progress) (method : Method) (uri : Text)
    (fields : Header) :
    send settings p method uri fields =
      .ask (compose p method uri fields).1 fun response =>
        if response.status ≠ unauthorized then pure (response, (compose p method uri fields).2)
        else
          match answer? settings method response with
          | .error f => .fail f
          | .ok signer =>
            sendAgain method (compose { (compose p method uri fields).2 with signer := some signer }
              method uri fields) := rfl

section Sound

variable {settings : Settings} {p : Progress} {method : Method} {uri : Text} {fields : Header}
  {reply last : Except Halt Response}

theorem Round.sound_once (h : ¬ Answerable settings reply) :
    (Round.mk method uri ⟨(compose p method uri fields).1, reply⟩ none).Sound settings where
  method_eq := compose_method p method uri fields
  uri_eq := compose_uri p method uri fields
  again_iff := by simp [h]
  again_eq := by simp

theorem Round.sound_twice (h : Answerable settings reply) (signer : Auth.Signer) :
    (Round.mk method uri ⟨(compose p method uri fields).1, reply⟩
      (some ⟨(compose { (compose p method uri fields).2 with signer := some signer }
        method uri fields).1, last⟩)).Sound settings where
  method_eq := compose_method p method uri fields
  uri_eq := compose_uri p method uri fields
  again_iff := by simp [h]
  again_eq := by
    intro t ht
    obtain rfl := Option.mem_some.mp ht
    exact unsigned_compose_again p method uri fields signer

end Sound

/-- What is sent for one request is a sound round, and the response that it brings is the last
reply. -/
theorem exists_round (settings : Settings) (p : Progress) (method : Method) (uri : Text)
    (fields : Header) (before : List Request) :
    ∃ (r : Round) (more : List Request), r.Sound settings ∧ r.target = (method, uri) ∧
      turnsAfter server before more = r.turns ∧
      ((send settings p method uri fields).run (listening server) before).2 = before ++ more ∧
      ∀ x, ((send settings p method uri fields).run (listening server) before).1 = .ok x →
        r.answer = .ok x.1 := by
  have heq := send_eq settings p method uri fields
  cases hreply : server (before ++ [(compose p method uri fields).1]) with
  | error halt =>
    rw [heq, run_ask_error hreply]
    have hno := hreply ▸ Round.not_answerable_error settings halt
    refine ⟨_, [_], Round.sound_once hno, rfl, rfl, rfl, ?_⟩
    intro x hx
    simp at hx
  | ok response =>
    rw [heq, run_ask_ok hreply]
    have hiff := hreply ▸ Round.answerable_ok_iff settings method response
    by_cases hstatus : response.status ≠ unauthorized
    · have hno := mt hiff.mp fun h => hstatus h.1
      rw [if_pos hstatus]
      refine ⟨_, [_], Round.sound_once hno, rfl, rfl, rfl, ?_⟩
      intro x hx
      obtain rfl := Except.ok.inj hx
      exact hreply
    · rw [if_neg hstatus]
      cases hanswer : answer? settings method response with
      | error f =>
        have hno := mt hiff.mp fun h => by simp [hanswer] at h
        refine ⟨_, [_], Round.sound_once hno, rfl, rfl, rfl, ?_⟩
        intro x hx
        simp [Dialogue.fail, Dialogue.run] at hx
      | ok signer =>
        have hyes := hiff.mpr ⟨Decidable.not_not.mp hstatus, signer, hanswer⟩
        obtain ⟨hsaid, hok⟩ := run_sendAgain server method
          (compose { (compose p method uri fields).2 with signer := some signer } method uri fields)
          (before ++ [(compose p method uri fields).1])
        refine ⟨_, [_, _], Round.sound_twice hyes signer, rfl, rfl, ?_, ?_⟩
        · rw [List.append_assoc] at hsaid
          exact hsaid
        · exact hok

end Rtsp.Handshake
