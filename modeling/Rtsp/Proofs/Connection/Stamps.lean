import Rtsp.Proofs.Auth.Uses
import Rtsp.Proofs.Connection.Bound
import Rtsp.Proofs.Connection.Host

/-!
What a connection writes into the requests that it is given, over a whole list of calls. Each gets
the number of the call and the name of the client in place of whatever it had of these. Once a session
is attached each has the name of a session and, with a signer, a signature: its own, or else that of
the connection. A signer goes on counting where it was when it was attached, and counts the requests
that it signs. Nothing else that is done on the connection, and no write that fails, changes that.
-/
namespace Rtsp

namespace Connection

open Auth (Signer)

variable {c c' c'' : Connection} {r w : Request} {name : Text}

section Calls

/-- The request that a call is to send. -/
def Call.request? : Call → Option Request
  | .request r => some r
  | .poll | .response _ | .answer _ | .frame _ | .early | .attach _ _ | .cancel => none

def Call.attaches : Call → Bool
  | .attach _ _ => true
  | .poll | .response _ | .request _ | .answer _ | .frame _ | .early | .cancel => false

/-- The connection after some calls, made one after another. -/
def run (c : Connection) (calls : List Call) : Connection := calls.foldl after c

/-- What is written of a request, if it is. -/
def posted (c : Connection) (r : Request) : Option Request :=
  ((c.sendRequest r).2.requests.drop c.requests.length).head?

/-- The requests that some calls are to send, each with what is written of it. -/
def posts (c : Connection) : List Call → List (Request × Option Request)
  | [] => []
  | call :: calls =>
    (call.request?.map fun r => (r, c.posted r)).toList ++ posts (c.after call) calls

theorem aside_after {call : Call} (hrequest : call.request? = none)
    (hattaches : call.attaches = false) : c.Aside (c.after call) := by
  cases call with
  | poll => exact aside_poll c
  | response n => exact aside_readUpTo n c.supply c
  | request r => cases hrequest
  | answer r => exact aside_answer c r
  | frame f => exact aside_sendFrame c f
  | early => exact ⟨rfl, rfl, rfl, rfl, rfl, List.suffix_refl _⟩
  | attach id signer => cases hattaches
  | cancel => exact ⟨rfl, rfl, rfl, rfl, rfl, List.suffix_refl _⟩

theorem posted_eq (c : Connection) (r : Request) :
    c.posted r = if c.writes.headD none = none then some (c.composed r).1 else none := by
  unfold posted
  rw [requests_sendRequest, List.drop_left]
  split <;> rfl

theorem eq_composed_of_posted (h : c.posted r = some w) : w = (c.composed r).1 := by
  rw [posted_eq] at h
  exact (Option.some.inj (Option.ite_none_right_eq_some.mp h).2).symm

theorem requests_sendRequest_eq_posted (c : Connection) (r : Request) :
    (c.sendRequest r).2.requests = c.requests ++ (c.posted r).toList := by
  rw [requests_sendRequest, posted_eq]
  split <;> rfl

theorem requests_after (c : Connection) (call : Call) :
    (c.after call).requests = c.requests ++ (call.request?.bind c.posted).toList := by
  cases hrequest : call.request? with
  | none =>
    rw [Option.bind_none]
    refine Eq.trans ?_ (List.append_nil _).symm
    by_cases hattaches : call.attaches = false
    · exact (aside_after hrequest hattaches).requests
    · cases call <;> first | rfl | exact absurd rfl hattaches
  | some r =>
    cases call <;> cases hrequest
    exact requests_sendRequest_eq_posted c r

/-- The requests that are written are those that are posted, in order. -/
theorem requests_run (c : Connection) (calls : List Call) :
    (c.run calls).requests = c.requests ++ (c.posts calls).filterMap Prod.snd := by
  induction calls generalizing c with
  | nil => exact (List.append_nil _).symm
  | cons call calls ih =>
    change ((c.after call).run calls).requests = _
    rw [ih, requests_after, posts, List.filterMap_append, List.append_assoc]
    cases call.request? with
    | none => rfl
    | some r =>
      simp only [Option.bind_some, Option.map_some, Option.toList_some, List.filterMap_cons]
      cases c.posted r <;> rfl

theorem map_fst_posts (c : Connection) (calls : List Call) :
    (c.posts calls).map Prod.fst = calls.filterMap Call.request? := by
  induction calls generalizing c with
  | nil => rfl
  | cons call calls ih =>
    rw [posts, List.map_append, ih, List.filterMap_cons]
    cases call.request? <;> rfl

theorem writes_after_suffix (c : Connection) (call : Call) : (c.after call).writes <:+ c.writes := by
  cases hrequest : call.request? with
  | none =>
    by_cases hattaches : call.attaches = false
    · exact (aside_after hrequest hattaches).writes
    · cases call <;> first | exact List.suffix_refl _ | exact absurd rfl hattaches
  | some r =>
    cases call <;> cases hrequest
    change (c.sendRequest r).2.writes <:+ c.writes
    rw [writes_sendRequest]
    exact List.tail_suffix _

theorem writes_run_suffix (c : Connection) (calls : List Call) :
    (c.run calls).writes <:+ c.writes := by
  induction calls generalizing c with
  | nil => exact List.suffix_refl _
  | cons call calls ih => exact (ih (c.after call)).trans (writes_after_suffix c call)

/-- All is written if every write succeeds. -/
theorem isSome_posts {calls : List Call} (hwrites : ∀ w ∈ c.writes, w = none) :
    ∀ p ∈ c.posts calls, p.2.isSome = true := by
  induction calls generalizing c with
  | nil => exact fun p hp => absurd hp List.not_mem_nil
  | cons call calls ih =>
    refine List.forall_mem_append.mpr ⟨fun p hp => ?_, ih fun w hw => ?_⟩
    · obtain ⟨r, -, rfl⟩ := Option.map_eq_some_iff.mp (Option.mem_toList.mp hp)
      have hnext : c.writes.headD none = none := by
        cases hcase : c.writes with
        | nil => rfl
        | cons w ws => exact hwrites w (hcase ▸ List.mem_cons_self)
      rw [posted_eq, if_pos hnext]
      rfl
    · exact hwrites w ((writes_after_suffix c call).subset hw)

end Calls

section Compose

/-- What is added under a name, unless there is something of that name. -/
def supplement (name : Text) (own given : Option Text) : Header :=
  match own, given with
  | none, some value => [⟨name, value⟩]
  | _, _ => []

/-- The field is one of those that the connection writes. -/
def isOwn (f : Header.Field) : Bool := ownNames.any f.isNamed

/-- The fields that are not replaced. -/
def lasting (h : Header) : Header :=
  (h.filter fun f => !f.isNamed "CSeq".toList).filter fun f => !f.isNamed "User-Agent".toList

theorem values_supplement (name : Text) (own given : Option Text) :
    own.toList ++ (supplement name own given).values name = (own.or given).toList := by
  cases own <;> cases given <;>
    simp [supplement, Header.values, Header.Field.isNamed, Text.sameName_refl]

theorem values_supplement_of_ne {own : Text} (hne : Text.sameName own name = false)
    (brought given : Option Text) : (supplement own brought given).values name = [] := by
  cases brought <;> cases given <;> simp [supplement, Header.values, Header.Field.isNamed, hne]

theorem filter_supplement {own : Text} (howned : own ∈ ownNames) (brought given : Option Text) :
    (supplement own brought given).filter (fun f => !isOwn f) = [] := by
  have hown : ∀ value, isOwn ⟨own, value⟩ = true := fun value =>
    List.any_eq_true.mpr ⟨own, howned, Text.sameName_refl own⟩
  cases brought <;> cases given <;> simp [supplement, hown]

theorem named_eq (c : Connection) (r : Request) :
    c.named r =
      { r with
        header := r.header ++
          supplement "Session".toList (r.value? "Session".toList) c.sessionId } := by
  unfold named
  cases c.sessionId <;> cases r.value? "Session".toList <;>
    simp [supplement, Request.add, Header.add]

theorem signed_fst (c : Connection) (r : Request) :
    (c.signed r).1 =
      { r with
        header := r.header ++
          supplement "Authorization".toList (r.value? "Authorization".toList)
            (c.signer.map fun s => (s.sign c.entropy r.method r.uri).1) } := by
  unfold signed
  cases c.signer <;> cases r.value? "Authorization".toList <;>
    simp [supplement, Request.add, Header.add]

theorem stamp_eq (c : Connection) (r : Request) :
    c.stamp r =
      { r with
        header := lasting r.header ++
          [⟨"CSeq".toList, Text.decimal c.sequence⟩, ⟨"User-Agent".toList, userAgent⟩] } := by
  have hnumber : List.filter (fun f => !f.isNamed "User-Agent".toList)
      [Header.Field.mk "CSeq".toList (Text.decimal c.sequence)] = [⟨"CSeq".toList, _⟩] := rfl
  simp only [stamp, Request.put, Header.put, List.filter_append, hnumber, List.append_assoc]
  rfl

theorem values_stamp_of_ne (c : Connection) (r : Request)
    (hnumber : Text.sameName "CSeq".toList name = false)
    (hclient : Text.sameName "User-Agent".toList name = false) :
    (c.stamp r).header.values name = r.header.values name :=
  (values_put_of_ne _ hclient).trans (values_put_of_ne _ hnumber)

/-- What the connection writes is of no account for other names. -/
theorem value?_stamp (c : Connection) (r : Request)
    (hnumber : Text.sameName "CSeq".toList name = false)
    (hclient : Text.sameName "User-Agent".toList name = false) :
    (c.stamp r).value? name = r.value? name := by
  rw [Request.value?, Header.value?_eq_head?, values_stamp_of_ne c r hnumber hclient,
    ← Header.value?_eq_head?, Request.value?]

theorem value?_named_stamp (c : Connection) (r : Request) :
    (c.named (c.stamp r)).value? "Authorization".toList = r.value? "Authorization".toList := by
  rw [named_eq, Request.value?, Header.value?_eq_head?, Header.values_append,
    values_supplement_of_ne (by decide), List.append_nil, ← Header.value?_eq_head?]
  exact value?_stamp c r (by decide) (by decide)

/-- The header of a request as it is sent. -/
theorem composed_fst (c : Connection) (r : Request) :
    (c.composed r).1 =
      { r with
        header := lasting r.header ++
          [⟨"CSeq".toList, Text.decimal (c.sequence + 1)⟩, ⟨"User-Agent".toList, userAgent⟩] ++
          supplement "Session".toList (r.value? "Session".toList) c.sessionId ++
          supplement "Authorization".toList (r.value? "Authorization".toList)
            (c.signer.map fun s => (s.sign c.entropy r.method r.uri).1) } := by
  have hsession := value?_stamp { c with sequence := c.sequence + 1 } r
    (by decide : Text.sameName "CSeq".toList "Session".toList = false) (by decide)
  rw [composed, signed_fst, value?_named_stamp, named_eq, hsession, stamp_eq]

end Compose

section Stamped

/-- The request `w` is sent for `r` under the number `n`. -/
structure Stamped (n : Nat) (r w : Request) : Prop where
  method_eq : w.method = r.method
  uri_eq : w.uri = r.uri
  version_eq : w.version = r.version
  body_eq : w.body = r.body
  number : w.header.values "CSeq".toList = [Text.decimal n]
  client : w.header.values "User-Agent".toList = [userAgent]
  lasting_prefix : lasting r.header <+: w.header
  others : (w.header.filter fun f => !isOwn f) = r.header.filter fun f => !isOwn f

theorem values_composed (c : Connection) (r : Request) (name : Text) :
    (c.composed r).1.header.values name =
      (stamp { c with sequence := c.sequence + 1 } r).header.values name ++
        ((supplement "Session".toList (r.value? "Session".toList) c.sessionId).values name ++
          (supplement "Authorization".toList (r.value? "Authorization".toList)
            (c.signer.map fun s => (s.sign c.entropy r.method r.uri).1)).values name) := by
  rw [composed_fst, stamp_eq]
  simp only [Header.values_append, List.append_assoc]

theorem filter_lasting (h : Header) :
    (lasting h).filter (fun f => !isOwn f) = h.filter fun f => !isOwn f := by
  have hnamed : ∀ (f : Header.Field), isOwn f = false → ∀ own ∈ ownNames, f.isNamed own = false :=
    fun f hf own howned => by simpa using List.any_eq_false.mp hf own howned
  rw [lasting, List.filter_filter, List.filter_filter]
  refine List.filter_congr fun f _ => ?_
  cases hf : isOwn f with
  | true => rfl
  | false =>
    rw [hnamed f hf "CSeq".toList (by decide), hnamed f hf "User-Agent".toList (by decide)]
    rfl

theorem stamped_composed (c : Connection) (r : Request) :
    Stamped (c.sequence + 1) r (c.composed r).1 where
  method_eq := by rw [composed_fst]
  uri_eq := by rw [composed_fst]
  version_eq := by rw [composed_fst]
  body_eq := by rw [composed_fst]
  number := by
    have hclient : Text.sameName "User-Agent".toList "CSeq".toList = false := by decide
    rw [values_composed, values_supplement_of_ne (by decide), values_supplement_of_ne (by decide),
      List.append_nil, List.append_nil]
    exact (values_put_of_ne _ hclient).trans (Header.values_put _ _ _)
  client := by
    rw [values_composed, values_supplement_of_ne (by decide), values_supplement_of_ne (by decide),
      List.append_nil, List.append_nil]
    exact Header.values_put _ _ _
  lasting_prefix := by
    rw [composed_fst]
    simp only [List.append_assoc]
    exact List.prefix_append _ _
  others := by
    have hstamps : ∀ n, List.filter (fun f => !isOwn f)
        [⟨"CSeq".toList, n⟩, ⟨"User-Agent".toList, userAgent⟩] = [] := fun _ => rfl
    rw [composed_fst]
    simp only [List.filter_append, filter_lasting, hstamps, List.append_nil,
      filter_supplement (by decide : "Session".toList ∈ ownNames),
      filter_supplement (by decide : "Authorization".toList ∈ ownNames)]

/-- With one value of a name at most, a header has its first or none. -/
theorem values_eq_toList {h : Header} (honce : (h.values name).length ≤ 1) :
    h.values name = (h.value? name).toList := by
  rw [Header.value?_eq_head?]
  match h.values name, honce with
  | [], _ => rfl
  | [_], _ => rfl

theorem values_composed_session (c : Connection) (r : Request)
    (honce : (r.header.values "Session".toList).length ≤ 1) :
    (c.composed r).1.header.values "Session".toList =
      ((r.value? "Session".toList).or c.sessionId).toList := by
  rw [values_composed, values_stamp_of_ne _ _ (by decide) (by decide), values_eq_toList honce,
    values_supplement_of_ne (by decide) (r.value? "Authorization".toList), List.append_nil]
  exact values_supplement _ _ _

theorem values_composed_signature (c : Connection) (r : Request)
    (honce : (r.header.values "Authorization".toList).length ≤ 1) :
    (c.composed r).1.header.values "Authorization".toList =
      ((r.value? "Authorization".toList).or
        (c.signer.map fun s => (s.sign c.entropy r.method r.uri).1)).toList := by
  rw [values_composed, values_stamp_of_ne _ _ (by decide) (by decide), values_eq_toList honce,
    values_supplement_of_ne (by decide) (r.value? "Session".toList), List.nil_append]
  exact values_supplement _ _ _

end Stamped

section Since

/-- The request is left to the connection to sign. -/
def lacksSignature (r : Request) : Bool := (r.value? "Authorization".toList).isNone

/-- Some requests have been given, and what the next one is composed of has changed by nothing else. -/
structure Since (c : Connection) (given : List Request) (c' : Connection) : Prop where
  sequence : c'.sequence = c.sequence + given.length
  sessionId : c'.sessionId = c.sessionId
  signer : c'.signer = c.signer.map fun s => s.after (given.countP lacksSignature)
  entropy : c'.entropy =
    c.entropy.after (if c.signer.isSome then given.countP lacksSignature else 0)

theorem Aside.since (h : c.Aside c') : Since c [] c' where
  sequence := h.sequence
  sessionId := h.sessionId
  signer := by
    rw [h.signer]
    cases c.signer <;> simp
  entropy := by
    rw [h.entropy]
    cases c.signer <;> rfl

theorem Since.trans {given given' : List Request} (h : Since c given c')
    (h' : Since c' given' c'') : Since c (given ++ given') c'' where
  sequence := by rw [h'.sequence, h.sequence, List.length_append, Nat.add_assoc]
  sessionId := h'.sessionId.trans h.sessionId
  signer := by
    rw [h'.signer, h.signer, Option.map_map, List.countP_append]
    congr 1
    funext s
    exact s.after_after _ _
  entropy := by
    rw [h'.entropy, h.entropy, h.signer, List.countP_append]
    cases c.signer with
    | none => rfl
    | some s => simp [Auth.Entropy.after, Nat.add_assoc]

theorem countP_lacksSignature (r : Request) : [r].countP lacksSignature =
    if (r.value? "Authorization".toList).isNone then 1 else 0 := List.countP_singleton

/-- A signer is used, and a number is drawn for it, if the request lacks a signature. -/
theorem signed_snd (c : Connection) (r : Request) :
    (c.signed r).2.sequence = c.sequence ∧ (c.signed r).2.sessionId = c.sessionId ∧
      (c.signed r).2.signer = (c.signer.map fun s => s.after ([r].countP lacksSignature)) ∧
      (c.signed r).2.entropy =
        c.entropy.after (if c.signer.isSome then [r].countP lacksSignature else 0) := by
  rw [countP_lacksSignature]
  unfold signed
  cases r.value? "Authorization".toList with
  | some own => cases c.signer <;> exact ⟨rfl, rfl, by simp, rfl⟩
  | none =>
    cases hsigner : c.signer with
    | none => exact ⟨rfl, rfl, hsigner, rfl⟩
    | some s =>
      have hsnd := s.sign_snd c.entropy r.method r.uri
      exact ⟨rfl, rfl, congrArg some (congrArg Prod.fst hsnd), congrArg Prod.snd hsnd⟩

theorem since_sendRequest (c : Connection) (r : Request) : Since c [r] (c.sendRequest r).2 := by
  have hcomposed : Since c [r] (c.composed r).2 := by
    let next := { c with sequence := c.sequence + 1 }
    obtain ⟨hsequence, hsession, hsigner, hentropy⟩ := next.signed_snd (next.named (next.stamp r))
    rw [countP_lacksSignature, value?_named_stamp, ← countP_lacksSignature] at hsigner hentropy
    exact ⟨hsequence, hsession, hsigner, hentropy⟩
  rw [sendRequest_snd, write]
  dsimp only
  split <;> exact ⟨hcomposed.sequence, hcomposed.sessionId, hcomposed.signer, hcomposed.entropy⟩

theorem since_after {call : Call} (hattaches : call.attaches = false) :
    Since c call.request?.toList (c.after call) := by
  cases hrequest : call.request? with
  | none => exact (aside_after hrequest hattaches).since
  | some r =>
    cases call <;> cases hrequest
    exact since_sendRequest c r

theorem since_run {calls : List Call} (hattaches : ∀ call ∈ calls, call.attaches = false) :
    Since c (calls.filterMap Call.request?) (c.run calls) := by
  induction calls generalizing c with
  | nil => exact (Aside.refl c).since
  | cons call calls ih =>
    obtain ⟨hfirst, hrest⟩ := List.forall_mem_cons.mp hattaches
    have hboth := (since_after hfirst).trans (ih (c := c.after call) hrest)
    rw [List.filterMap_cons]
    cases hrequest : call.request? <;> rwa [hrequest] at hboth

/-- Each request is posted by a connection to which those before it have been given. -/
theorem exists_since_of_posts {calls : List Call}
    (hattaches : ∀ call ∈ calls, call.attaches = false) {k : Nat} {o : Option Request}
    (h : (c.posts calls)[k]? = some (r, o)) :
    ∃ c', Since c (((c.posts calls).take k).map Prod.fst) c' ∧ o = c'.posted r := by
  induction calls generalizing c k with
  | nil => cases h
  | cons call calls ih =>
    obtain ⟨hfirst, hrest⟩ := List.forall_mem_cons.mp hattaches
    have hstep := since_after (c := c) hfirst
    rw [posts] at h ⊢
    cases hrequest : call.request? with
    | none =>
      -- A call that sends nothing has no place among the posts, so that the index stays.
      rw [hrequest] at h hstep
      obtain ⟨c', hsince, ho⟩ := ih hrest h
      exact ⟨c', hstep.trans hsince, ho⟩
    | some r' =>
      rw [hrequest] at h hstep
      cases k with
      | zero =>
        obtain ⟨rfl, rfl⟩ := Prod.mk.inj (Option.some.inj h)
        exact ⟨c, (Aside.refl c).since, rfl⟩
      | succ k =>
        obtain ⟨c', hsince, ho⟩ := ih hrest h
        exact ⟨c', hstep.trans hsince, ho⟩

/-- What is posted is composed by such a connection, and stamped with the number of its call. -/
theorem exists_composed_of_posts {calls : List Call}
    (hattaches : ∀ call ∈ calls, call.attaches = false) {k : Nat}
    (h : (c.posts calls)[k]? = some (r, some w)) :
    ∃ c', Since c (((c.posts calls).take k).map Prod.fst) c' ∧ w = (c'.composed r).1 ∧
      Stamped (c.sequence + k + 1) r w := by
  obtain ⟨c', hsince, hw⟩ := exists_since_of_posts hattaches h
  obtain rfl := eq_composed_of_posted hw.symm
  have hnumber : c'.sequence = c.sequence + k := by
    obtain ⟨hlt, -⟩ := List.getElem?_eq_some_iff.mp h
    rw [hsince.sequence, List.length_map, List.length_take, Nat.min_eq_left hlt.le]
  exact ⟨c', hsince, rfl, hnumber ▸ stamped_composed c' r⟩

end Since

section Attached

/-- The request `w` is sent for `r` once the session `id` is attached and the signer, if there is
one, has signed `m` requests since, each with the next number of the sequence. -/
structure Vouched (id : Text) (signer : Option Signer) (e : Auth.Entropy) (m : Nat)
    (r w : Request) : Prop where
  session : w.header.values "Session".toList = [(r.value? "Session".toList).getD id]
  unsigned : signer = none →
    w.header.values "Authorization".toList = r.header.values "Authorization".toList
  signed : ∀ s, signer = some s → ∃ value,
    value = ((s.after m).sign (e.after m) r.method r.uri).1 ∧
    Signer.Shows r.method r.uri value
      (s.challenge.nonce?.map fun nonce => (nonce, Signer.countText (s.uses + m + 1))) ∧
    w.header.values "Authorization".toList = [(r.value? "Authorization".toList).getD value]

theorem vouched_composed {id : Text} {signer : Option Signer} {e : Auth.Entropy} {m : Nat}
    (hsession : c.sessionId = some id) (hsigner : c.signer = signer.map fun s => s.after m)
    (hentropy : ∀ s, signer = some s → c.entropy = e.after m)
    (hnamed : (r.header.values "Session".toList).length ≤ 1)
    (hsigned : (r.header.values "Authorization".toList).length ≤ 1) :
    Vouched id signer e m r (c.composed r).1 where
  session := by
    rw [values_composed_session c r hnamed, hsession]
    cases r.value? "Session".toList <;> rfl
  unsigned := by
    rintro rfl
    rw [values_composed_signature c r hsigned, hsigner, Option.map_none, Option.map_none,
      Option.or_none, values_eq_toList hsigned]
    rfl
  signed := by
    rintro s rfl
    refine ⟨_, rfl, ?_, ?_⟩
    · exact s.mark?_after m ▸ (s.after m).shows_signWith (e.after m).draw.1 r.method r.uri
    · rw [values_composed_signature c r hsigned, hsigner, hentropy s rfl]
      cases r.value? "Authorization".toList <;> rfl

/-- All that is sent over a connection on which a session is attached between some calls, with its
signer. What is given is sent in order, unless its write fails; it has the number of its call, from
one on, and the rest of what a connection writes into it. -/
theorem requests_stamped {before since : List Call}
    (hattaches : ∀ call ∈ before ++ since, call.attaches = false)
    (honce : ∀ r ∈ (before ++ since).filterMap Call.request?,
      (r.header.values "Session".toList).length ≤ 1 ∧
        (r.header.values "Authorization".toList).length ≤ 1)
    (arrivals : List Arrival) (writes : List (Option Fault.Trouble)) (e : Auth.Entropy) (id : Text)
    (signer : Option Signer) :
    let c := start arrivals writes e
    let first := c.posts before
    let later := ((c.run before).attach id signer).posts since
    (c.run (before ++ .attach id signer :: since)).requests =
        (first ++ later).filterMap Prod.snd ∧
      (first ++ later).map Prod.fst = (before ++ since).filterMap Call.request? ∧
      ((∀ w ∈ writes, w = none) → ∀ p ∈ first ++ later, p.2.isSome = true) ∧
      (∀ k r w, first[k]? = some (r, some w) → Stamped (k + 1) r w ∧
        w.header.values "Session".toList = r.header.values "Session".toList ∧
        w.header.values "Authorization".toList = r.header.values "Authorization".toList) ∧
      ∀ k r w, later[k]? = some (r, some w) → Stamped (first.length + k + 1) r w ∧
        Vouched id signer e ((later.take k).countP fun p => lacksSignature p.1) r w := by
  intro c first later
  obtain ⟨hbefore, hsince⟩ := List.forall_mem_append.mp hattaches
  have hstart : Since c (before.filterMap Call.request?) (c.run before) := since_run hbefore
  have hfirst : first.map Prod.fst = before.filterMap Call.request? := map_fst_posts c before
  have hlater : later.map Prod.fst = since.filterMap Call.request? := map_fst_posts _ since
  have hgiven : (first ++ later).map Prod.fst = (before ++ since).filterMap Call.request? := by
    rw [List.map_append, hfirst, hlater, List.filterMap_append]
  have hlimit : ∀ p ∈ first ++ later, (p.1.header.values "Session".toList).length ≤ 1 ∧
      (p.1.header.values "Authorization".toList).length ≤ 1 :=
    fun p hp => honce p.1 (hgiven ▸ List.mem_map_of_mem hp)
  refine ⟨?_, hgiven, fun hwrites => List.forall_mem_append.mpr ⟨isSome_posts hwrites, ?_⟩, ?_, ?_⟩
  · have hrun : c.run (before ++ .attach id signer :: since) =
        ((c.run before).attach id signer).run since := List.foldl_append
    rw [hrun, requests_run, List.filterMap_append]
    exact congrArg (· ++ later.filterMap Prod.snd) (requests_run c before)
  · exact isSome_posts fun w hw => hwrites w ((writes_run_suffix c before).subset hw)
  · intro k r w hk
    obtain ⟨hnamed, hsigned⟩ := hlimit _ (List.mem_append_left _ (List.mem_of_getElem? hk))
    obtain ⟨c₁, hpast, rfl, hstamped⟩ := exists_composed_of_posts hbefore hk
    have hnumber : c.sequence + k = k := Nat.zero_add k
    have hsession : c₁.sessionId = none := hpast.sessionId
    have hsigner : c₁.signer = none := hpast.signer
    refine ⟨hnumber ▸ hstamped, ?_, ?_⟩
    · rw [values_composed_session c₁ r hnamed, hsession, Option.or_none, values_eq_toList hnamed]
      rfl
    · rw [values_composed_signature c₁ r hsigned, hsigner, Option.map_none, Option.or_none,
        values_eq_toList hsigned]
      rfl
  · intro k r w hk
    obtain ⟨hnamed, hsigned⟩ := hlimit _ (List.mem_append_right _ (List.mem_of_getElem? hk))
    obtain ⟨c₁, hpast, rfl, hstamped⟩ := exists_composed_of_posts hsince hk
    have hnumber : (c.run before).sequence = first.length := by
      rw [hstart.sequence, ← hfirst, List.length_map]
      exact Nat.zero_add _
    have hcount : ((later.take k).map Prod.fst).countP lacksSignature =
        (later.take k).countP fun p => lacksSignature p.1 := List.countP_map ..
    refine ⟨hnumber ▸ hstamped, vouched_composed hpast.sessionId ?_ ?_ hnamed hsigned⟩
    · exact hcount ▸ hpast.signer
    · rintro s rfl
      have hdrawn : (c.run before).entropy = e := hstart.entropy
      rw [hpast.entropy, ← hcount]
      exact congrArg (Auth.Entropy.after · _) hdrawn

/-- A signer that has been used twice goes on with the third use, and passes over the request that
brings its own signature. -/
theorem requests_stamped_passed_over :
    let first : Request := (Request.make .options "rtsp://cam/live".toList).add "cseq".toList ['9']
    let plain : Request := (Request.make .getParameter "rtsp://cam/live".toList).add
      "user-agent".toList ['x']
    let own : Request := ((Request.make .getParameter "rtsp://cam/live".toList).add
      "SESSION".toList ['7']).add "authorization".toList "Basic dXNlcjpwYXNz".toList
    let signer : Signer :=
      ⟨⟨"user".toList, some "pass".toList⟩, .digest ⟨"cam".toList, ['7'], none, none, true, false⟩, 2⟩
    let before : List Call := [.request first, .cancel]
    let since : List Call := [.request plain, .request own, .early, .request plain]
    let c := start [] [] (.counting 1)
    let later := ((c.run before).attach "41".toList (some signer)).posts since
    (∀ call ∈ before ++ since, call.attaches = false) ∧
      (∀ r ∈ (before ++ since).filterMap Call.request?,
        (r.header.values "Session".toList).length ≤ 1 ∧
          (r.header.values "Authorization".toList).length ≤ 1) ∧
      ∃ w w' w'', later = [(plain, some w), (own, some w'), (plain, some w'')] ∧
        Stamped 2 plain w ∧ w.header.values "Session".toList = ["41".toList] ∧
        Stamped 3 own w' ∧ w'.header.values "Session".toList = [['7']] ∧
        w'.header.values "Authorization".toList = ["Basic dXNlcjpwYXNz".toList] ∧
        Stamped 4 plain w'' ∧ ∃ value, w''.header.values "Authorization".toList = [value] ∧
          Signer.Shows plain.method plain.uri value (some (['7'], "00000004".toList)) := by
  intro first plain own signer before since c later
  have hattaches : ∀ call ∈ before ++ since, call.attaches = false := by
    simp only [before, since, List.cons_append, List.nil_append, List.forall_mem_cons]
    exact ⟨rfl, rfl, rfl, rfl, rfl, rfl, nofun⟩
  have honce : ∀ r ∈ (before ++ since).filterMap Call.request?,
      (r.header.values "Session".toList).length ≤ 1 ∧
        (r.header.values "Authorization".toList).length ≤ 1 := by
    decide
  obtain ⟨-, -, -, -, hstamped⟩ := requests_stamped hattaches honce [] [] (.counting 1) "41".toList
    (some signer)
  refine ⟨hattaches, honce, _, _, _, rfl, ?_⟩
  obtain ⟨hnumber, hvouched⟩ := hstamped 0 plain _ rfl
  obtain ⟨hnumber', hvouched'⟩ := hstamped 1 own _ rfl
  obtain ⟨hnumber'', hvouched''⟩ := hstamped 2 plain _ rfl
  obtain ⟨_, -, -, hown⟩ := hvouched'.signed signer rfl
  obtain ⟨value, -, hshows, hvalue⟩ := hvouched''.signed signer rfl
  have hcount : Signer.countText 4 = "00000004".toList := by decide
  exact ⟨hnumber, hvouched.session, hnumber', hvouched'.session, hown, hnumber'', value, hvalue,
    hcount ▸ hshows⟩

end Attached

end Connection

end Rtsp
