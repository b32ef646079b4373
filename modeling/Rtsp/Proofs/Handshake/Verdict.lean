import Rtsp.Proofs.Description.Stray
import Rtsp.Proofs.Handshake.Tracks

/-!
Why a handshake cannot go on after a round. The server gave no response; it refused the request for
want of credentials, and nothing could be done about that or had been done already; or its response
is not what the request needs. For each of these there is one error. Between two rounds there is
only the want of ports or channels for the next medium.

The rounds are numbered from zero, so that the medium at an index is set up in the round of the next
number, and the session is named in round one.
-/
namespace Rtsp.Handshake

/-- What is said of a refusal that is not answered. -/
def Round.refusal (settings : Settings) (r : Round) : Text :=
  r.method.name ++
    if r.again.isSome then " rejected the configured credentials".toList
    else if settings.locator.credentials.isSome then " challenge uses no supported scheme".toList
    else " requires credentials and none are configured".toList

/-- The proposal for a medium is not accepted. -/
inductive Refuses (plan : Plan) (number : Nat) (control : Text) (response : Response) :
    Fault → Prop
  | fallback (hstatus : response.status = unsupportedTransport) (hmode : plan.mode = .udp)
      (hauto : plan.settings.transport = .auto) :
      Refuses plan number control response
        (.fallback ("server does not support UDP for ".toList ++ control))
  | unsuccessful (hfail : response.isSuccess = false)
      (hother : ¬ (response.status = unsupportedTransport ∧ plan.mode = .udp ∧
        plan.settings.transport = .auto)) :
      Refuses plan number control response (.setup control response.status response.reason)
  | unnamed (hsuccess : response.isSuccess = true) (hfirst : number = 1)
      (hname : response.value? "Session".toList = none) :
      Refuses plan number control response
        (.setup control response.status "response has no Session header".toList)
  | overTcp {reply : Transport} (hsuccess : response.isSuccess = true)
      (hname : number = 1 → (response.value? "Session".toList).isSome)
      (hmode : plan.mode = .udp) (htold : told? response = some reply)
      (htcp : reply.tcp = true ∨ reply.interleaved.isSome) :
      Refuses plan number control response
        (.setup control response.status "server answered with TCP transport".toList)
  | overUdp {reply : Transport} (hsuccess : response.isSuccess = true)
      (hname : number = 1 → (response.value? "Session".toList).isSome)
      (hmode : plan.mode = .tcp) (htold : told? response = some reply)
      (hudp : reply.tcp = false ∧ reply.clientPort.isSome) :
      Refuses plan number control response
        (.setup control response.status "server answered with UDP transport".toList)

/-- The response is not what the request needs. -/
inductive Objects (plan : Plan) (number : Nat) (method : Method) (uri : Text)
    (response : Response) : Halt → Prop
  | unexpected (hmethod : method ≠ .setup) (hfail : response.isSuccess = false) :
      Objects plan number method uri response
        (.fault (.status method response.status response.reason))
  | malformed {d : Description.Defect} (hmethod : method = .describe)
      (hsuccess : response.isSuccess = true)
      (hread : Description.read (response.body.getD []) = .error (.defect d)) :
      Objects plan number method uri response (.fault (.description d.message))
  | stray (hmethod : method = .describe) (hsuccess : response.isSuccess = true)
      (hstrays : Description.Strays (response.body.getD [])) :
      Objects plan number method uri response .stray
  | refused {f : Fault} (hmethod : method = .setup)
      (h : Refuses plan number uri response f) : Objects plan number method uri response (.fault f)

/-- The round is the last one, and this is the error. -/
inductive Round.Stops (plan : Plan) (number : Nat) (r : Round) : Halt → Prop
  | unanswered {halt : Halt} (hanswer : r.answer = .error halt) : Stops plan number r halt
  | unauthorized {response : Response} (hanswer : r.answer = .ok response)
      (hstatus : response.status = Handshake.unauthorized) :
      Stops plan number r (.fault (.authentication (r.refusal plan.settings)))
  | objected {response : Response} {halt : Halt} (hanswer : r.answer = .ok response)
      (hstatus : response.status ≠ Handshake.unauthorized)
      (h : Objects plan number r.method r.uri response halt) : Stops plan number r halt

/-- There are no ports or no channels for the medium at `index`. -/
inductive Lacks (plan : Plan) (index : Nat) (control : Text) : Fault → Prop
  | ports (hmode : plan.mode = .udp) (hnone : plan.ports index = none) :
      Lacks plan index control (.connection "no free UDP port pair for RTP/RTCP".toList)
  | channels (hmode : plan.mode = .tcp) (hmany : 128 ≤ index) :
      Lacks plan index control (.setup control 0 "too many media for interleaved channels".toList)

section Single

variable {plan : Plan} {number index : Nat} {method : Method} {uri control : Text}
  {response : Response}

theorem not_isSuccess_of_unsupported (h : response.status = unsupportedTransport) :
    response.isSuccess = false := by
  rw [Response.isSuccess, h]
  decide

/-- One refusal has one error. -/
theorem Refuses.unique {f f' : Fault} (h : Refuses plan number control response f)
    (h' : Refuses plan number control response f') : f = f' := by
  have hsuccess : response.status = unsupportedTransport → response.isSuccess = false :=
    not_isSuccess_of_unsupported
  cases h <;> cases h' <;> simp_all

theorem Objects.unique {halt halt' : Halt} (h : Objects plan number method uri response halt)
    (h' : Objects plan number method uri response halt') : halt = halt' := by
  have hread : ∀ {d}, Description.read (response.body.getD []) = .error (.defect d) →
      ¬ Description.Strays (response.body.getD []) := by
    intro d hd hstrays
    rw [Description.read_eq_stray_iff.mpr hstrays] at hd
    cases hd
  cases h with
  | unexpected hmethod hfail => cases h' <;> simp_all
  | malformed hmethod hsuccess hd =>
    cases h' with
    | malformed hmethod' hsuccess' hd' =>
      rw [hd] at hd'
      obtain rfl := Description.Stop.defect.inj (Except.error.inj hd')
      rfl
    | stray hmethod' hsuccess' hstrays => exact absurd hstrays (hread hd)
    | unexpected => simp_all
    | refused => simp_all
  | stray hmethod hsuccess hstrays =>
    cases h' with
    | malformed hmethod' hsuccess' hd' => exact absurd hstrays (hread hd')
    | stray => rfl
    | unexpected => simp_all
    | refused => simp_all
  | refused hmethod h =>
    cases h' with
    | refused hmethod' h' => rw [h.unique h']
    | unexpected => simp_all
    | malformed => simp_all
    | stray => simp_all

/-- One round has at most one error. -/
theorem Round.Stops.unique {r : Round} {halt halt' : Halt} (h : r.Stops plan number halt)
    (h' : r.Stops plan number halt') : halt = halt' := by
  have hresponse : ∀ {a b}, r.answer = .ok a → r.answer = .ok b → a = b := fun ha hb =>
    Except.ok.inj (ha.symm.trans hb)
  cases h with
  | unanswered hanswer => cases h' <;> simp_all
  | unauthorized hanswer hstatus => cases h' <;> simp_all
  | objected hanswer hstatus h =>
    cases h' with
    | unanswered hanswer' => simp_all
    | unauthorized hanswer' hstatus' => simp_all
    | objected hanswer' hstatus' h' =>
      obtain rfl := hresponse hanswer hanswer'
      exact h.unique h'

theorem Lacks.unique {f f' : Fault} (h : Lacks plan index control f)
    (h' : Lacks plan index control f') : f = f' := by
  cases h <;> cases h' <;> simp_all

end Single

section Iff

variable {plan : Plan} {number index : Nat} {p : Progress} {control : Text} {f : Fault}

/-- Nothing can be proposed exactly if ports or channels are lacking. -/
theorem propose_eq_error_iff (hbound : plan.mode = .udp → p.bound = index) :
    propose plan p index control = .error f ↔ Lacks plan index control f := by
  constructor
  · intro h
    unfold propose at h
    split at h
    · rename_i hmode
      split at h
      · cases h
      · rename_i hnone
        obtain rfl := Except.error.inj h
        exact .ports hmode (hbound hmode ▸ hnone)
    · rename_i hmode
      split at h
      · cases h
      · obtain rfl := Except.error.inj h
        exact .channels hmode (by omega)
  · rintro (⟨hmode, hnone⟩ | ⟨hmode, hmany⟩)
    · simp only [propose, hmode, hbound hmode, hnone]
    · have hno : ¬ 2 * index < 256 := by omega
      simp only [propose, hmode, hno, if_false]

theorem mayFallBack_iff :
    mayFallBack plan = true ↔ plan.mode = .udp ∧ plan.settings.transport = .auto := by
  simp only [mayFallBack, Bool.and_eq_true, beq_iff_eq]

variable {response : Response}

/-- A session has to be named where there is none. -/
theorem nameSession_eq_none_iff :
    nameSession p response = none ↔
      p.session = none ∧ response.value? "Session".toList = none := by
  unfold nameSession
  cases p.session with
  | some session => simp
  | none => cases response.value? "Session".toList <;> simp

/-- A reply that goes against the proposal of two ports. -/
theorem settle_ports_eq_error_iff {rtp rtcp : UInt16} {told : Option Transport} {reason : Text} :
    (Proposal.ports rtp rtcp).settle told = .error reason ↔
      (∃ reply, told = some reply ∧ (reply.tcp = true ∨ reply.interleaved.isSome)) ∧
        reason = "server answered with TCP transport".toList := by
  cases told with
  | none => simp only [Proposal.settle, reduceCtorEq, false_and, exists_false]
  | some reply =>
    simp only [Proposal.settle, ← Bool.or_eq_true, Option.some.injEq, exists_eq_left']
    split
    · rename_i hwrong
      simp only [hwrong, true_and, Except.error.injEq, eq_comm]
    · rename_i hright
      simp only [hright, reduceCtorEq, Bool.false_eq_true, false_and]

/-- A reply that goes against the proposal of two channels. -/
theorem settle_channels_eq_error_iff {rtp rtcp : UInt8} {told : Option Transport} {reason : Text} :
    (Proposal.channels rtp rtcp).settle told = .error reason ↔
      (∃ reply, told = some reply ∧ (reply.tcp = false ∧ reply.clientPort.isSome)) ∧
        reason = "server answered with UDP transport".toList := by
  cases told with
  | none => simp only [Proposal.settle, reduceCtorEq, false_and, exists_false]
  | some reply =>
    simp only [Proposal.settle, ← Bool.not_eq_true', ← Bool.and_eq_true, Option.some.injEq,
      exists_eq_left']
    split
    · rename_i hwrong
      simp only [hwrong, true_and, Except.error.injEq, eq_comm]
    · rename_i hright
      split <;> simp only [hright, reduceCtorEq, Bool.false_eq_true, false_and]

/-- After a reply of success only the session and the transport are looked at. -/
theorem accept_of_isSuccess {proposal : Proposal} (h : response.isSuccess = true) :
    accept plan p control proposal response =
      match nameSession p response with
      | none => .error (.setup control response.status "response has no Session header".toList)
      | some p =>
        match proposal.settle (told? response) with
        | .error reason => .error (.setup control response.status reason)
        | .ok carrier => .ok ((carrier, (told? response).bind Transport.ssrc), p) := by
  have hother : ¬ (response.status = unsupportedTransport ∧ mayFallBack plan = true) := by
    intro hall
    rw [not_isSuccess_of_unsupported hall.1] at h
    cases h
  unfold accept
  rw [if_neg hother, if_neg (by rw [h]; decide)]
  rfl

/-- A proposal is refused by just these replies. -/
theorem accept_eq_error_iff {proposal : Proposal} {pair : Option Pair}
    (hproposes : Proposes plan index proposal pair) (hsession : p.session = none ↔ number = 1) :
    accept plan p control proposal response = .error f ↔
      Refuses plan number control response f := by
  have hname : nameSession p response = none ↔
      number = 1 ∧ response.value? "Session".toList = none := by
    rw [nameSession_eq_none_iff, hsession]
  constructor
  · intro h
    unfold accept at h
    split at h
    · rename_i hfallback
      obtain ⟨hmode, hauto⟩ := mayFallBack_iff.mp hfallback.2
      obtain rfl := Except.error.inj h
      exact .fallback hfallback.1 hmode hauto
    rename_i hother
    split at h
    · rename_i hfail
      obtain rfl := Except.error.inj h
      exact .unsuccessful hfail fun hall => hother ⟨hall.1, mayFallBack_iff.mpr hall.2⟩
    rename_i hfail
    have hsuccess : response.isSuccess = true := Bool.not_eq_false _ ▸ hfail
    split at h
    · rename_i hnone
      obtain rfl := Except.error.inj h
      exact .unnamed hsuccess (hname.mp hnone).1 (hname.mp hnone).2
    rename_i p' hsome
    have hvalue : number = 1 → (response.value? "Session".toList).isSome := by
      intro hfirst
      rw [Option.isSome_iff_ne_none]
      intro hnone
      rw [hname.mpr ⟨hfirst, hnone⟩] at hsome
      cases hsome
    simp only at h
    split at h
    · rename_i reason hsettle
      obtain rfl := Except.error.inj h
      cases hproposes with
      | ports hmode =>
        obtain ⟨⟨reply, htold, htcp⟩, rfl⟩ := settle_ports_eq_error_iff.mp hsettle
        exact .overTcp hsuccess hvalue hmode htold htcp
      | channels hmode =>
        obtain ⟨⟨reply, htold, hudp⟩, rfl⟩ := settle_channels_eq_error_iff.mp hsettle
        exact .overUdp hsuccess hvalue hmode htold hudp
    · cases h
  · have hnamed : (number = 1 → (response.value? "Session".toList).isSome) →
        ∃ p', nameSession p response = some p' := by
      intro hvalue
      rw [← Option.isSome_iff_exists, Option.isSome_iff_ne_none]
      intro hnone
      have hsome := hvalue (hname.mp hnone).1
      rw [(hname.mp hnone).2] at hsome
      cases hsome
    intro h
    cases h with
    | fallback hstatus hmode hauto =>
      exact if_pos ⟨hstatus, mayFallBack_iff.mpr ⟨hmode, hauto⟩⟩
    | unsuccessful hfail hother =>
      exact (if_neg fun hall => hother ⟨hall.1, mayFallBack_iff.mp hall.2⟩).trans (if_pos hfail)
    | unnamed hsuccess hfirst hnone =>
      rw [accept_of_isSuccess hsuccess, hname.mpr ⟨hfirst, hnone⟩]
    | overTcp hsuccess hvalue hmode htold htcp =>
      obtain ⟨p', hp'⟩ := hnamed hvalue
      rw [accept_of_isSuccess hsuccess, hp']
      cases hproposes with
      | ports => simp only [settle_ports_eq_error_iff.mpr ⟨⟨_, htold, htcp⟩, rfl⟩]
      | channels hmode' => cases hmode.symm.trans hmode'
    | overUdp hsuccess hvalue hmode htold hudp =>
      obtain ⟨p', hp'⟩ := hnamed hvalue
      rw [accept_of_isSuccess hsuccess, hp']
      cases hproposes with
      | ports hmode' => cases hmode.symm.trans hmode'
      | channels => simp only [settle_channels_eq_error_iff.mpr ⟨⟨_, htold, hudp⟩, rfl⟩]

/-- The response to the first request is refused for just these reasons. -/
theorem opened_eq_error_iff {uri : Text} {halt : Halt} :
    opened plan (response, p) = .error halt ↔
      Objects plan number .describe uri response halt := by
  have hread : ∀ {stop : Description.Stop}, Description.read (response.body.getD []) = .error stop →
      Description.parse (response.body.getD []) = .error stop.halt := fun hstop => by
    rw [Description.parse, hstop]
    rfl
  constructor
  · intro h
    unfold opened at h
    split at h
    · rename_i hsuccess
      have hparse := eq_error_of_map h
      unfold Description.parse at hparse
      cases hstop : Description.read (response.body.getD []) with
      | ok d =>
        rw [hstop] at hparse
        cases hparse
      | error stop =>
        rw [hstop] at hparse
        obtain rfl := Except.error.inj hparse
        cases stop with
        | defect d => exact .malformed rfl hsuccess hstop
        | stray => exact .stray rfl hsuccess (Description.read_eq_stray_iff.mp hstop)
    · rename_i hfail
      obtain rfl := Except.error.inj h
      exact .unexpected (by decide) (Bool.eq_false_iff.mpr hfail)
  · intro h
    cases h with
    | unexpected hmethod hfail => exact if_neg (Bool.eq_false_iff.mp hfail)
    | malformed hmethod hsuccess hstop =>
      refine (if_pos hsuccess).trans ?_
      simp only [hread hstop]
      rfl
    | stray hmethod hsuccess hstrays =>
      refine (if_pos hsuccess).trans ?_
      simp only [hread (Description.read_eq_stray_iff.mpr hstrays)]
      rfl
    | refused hmethod h => cases hmethod

/-- What the response to the last request is good for. -/
def played (plan : Plan) (x : Response × Progress) : Except Halt (Option Text × Progress) :=
  if x.1.isSuccess then .ok ((x.1.value? "Range".toList).or plan.settings.rangeText, x.2)
  else .error (.fault (unexpected .play x.1))

theorem play_eq (uri : Text) :
    play plan p uri =
      Dialogue.andThen (fun x => .done (played plan x))
        (send plan.settings p .play uri
          (plan.settings.rangeText.map fun range => ⟨"Range".toList, range⟩).toList) := by
  unfold play
  change Dialogue.andThen _ _ = Dialogue.andThen _ _
  congr 1
  funext ⟨response, p⟩
  by_cases hsuccess : response.isSuccess = true
  · simp only [played, hsuccess, if_true]
    rfl
  · simp only [played, hsuccess, if_false, Bool.false_eq_true]
    rfl

theorem played_eq_error_iff {uri : Text} {halt : Halt} :
    played plan (response, p) = .error halt ↔ Objects plan number .play uri response halt := by
  constructor
  · intro h
    unfold played at h
    split at h
    · cases h
    · rename_i hfail
      obtain rfl := Except.error.inj h
      exact .unexpected (by decide) (Bool.eq_false_iff.mpr hfail)
  · intro h
    cases h with
    | unexpected hmethod hfail => exact if_neg (Bool.eq_false_iff.mp hfail)
    | malformed hmethod => cases hmethod
    | stray hmethod => cases hmethod
    | refused hmethod => cases hmethod

end Iff

end Rtsp.Handshake
