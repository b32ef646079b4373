import Rtsp.Connection
import Rtsp.Proofs.Dialogue.Keeps

/-!
What a connection does to a dialogue that is carried out over it. It breaks off for reasons of its
own, none of which is that UDP is of no use; and of what it says only the requests that it is given
are requests, with some fields of its own beside theirs.
-/
namespace Rtsp

/-- No reason to give UDP up. -/
def Halt.Ordinary (h : Halt) : Prop := ∀ reason, h ≠ .fault (.fallback reason)

theorem Halt.ordinary_of_kind {f : Fault} (h : f.kind ≠ .fallback) : Ordinary (.fault f) := by
  rintro reason ⟨⟩
  exact h rfl

namespace Connection

theorem ordinary_filter {f : Fault} (c : Cancellation) (h : f.kind ≠ .fallback) :
    Halt.Ordinary (.fault (c.filter f)) := by
  apply Halt.ordinary_of_kind
  unfold Cancellation.filter
  split
  · exact fun hkind => by cases hkind
  · exact h

section Faults

variable {c c' : Connection} {h : Halt}

theorem ordinary_write {m : Message} (hw : c.write m = (.error h, c')) : h.Ordinary := by
  unfold write at hw
  simp only at hw
  split at hw
  · cases hw
  · rename_i trouble _
    rw [← Except.error.inj (Prod.mk.inj hw).1]
    apply ordinary_filter
    cases trouble <;> exact fun hkind => by cases hkind

theorem ordinary_sendRequest {r : Request} (hs : c.sendRequest r = (.error h, c')) :
    h.Ordinary := by
  unfold sendRequest at hs
  simp only at hs
  split at hs
  · cases hs
  · rename_i hw
    rw [← Except.error.inj (Prod.mk.inj hs).1]
    exact ordinary_write hw

theorem ordinary_sendFrame {f : Frame} (hs : c.sendFrame f = (.error h, c')) : h.Ordinary := by
  unfold sendFrame at hs
  split at hs
  · exact ordinary_write hs
  · rw [← Except.error.inj (Prod.mk.inj hs).1]
    exact Halt.ordinary_of_kind fun hkind => by cases hkind

theorem ordinary_decode (hd : c.decode = (.error h, c')) : h.Ordinary := by
  unfold decode at hd
  simp only at hd
  split at hd
  · cases hd
  · cases hd
  · rw [← Except.error.inj (Prod.mk.inj hd).1]
    exact Halt.ordinary_of_kind fun hkind => by cases hkind
  · rw [← Except.error.inj (Prod.mk.inj hd).1]
    exact fun _ heq => by cases heq

theorem ordinary_receive (hr : c.receive = (.error h, c')) : h.Ordinary := by
  unfold receive at hr
  split at hr
  · cases hr
  simp only at hr
  split at hr
  · exact ordinary_decode hr
  · cases hr
  · rw [← Except.error.inj (Prod.mk.inj hr).1]
    exact ordinary_filter _ fun hkind => by cases hkind
  · cases hr
  · rw [← Except.error.inj (Prod.mk.inj hr).1]
    exact ordinary_filter _ fun hkind => by cases hkind
  · rw [← Except.error.inj (Prod.mk.inj hr).1]
    exact ordinary_filter _ fun hkind => by cases hkind

theorem ordinary_poll (hp : c.poll = (.error h, c')) : h.Ordinary := by
  unfold poll at hp
  split at hp
  · exact ordinary_receive hp
  · exact ordinary_decode hp

theorem ordinary_readUpTo {n fuel : Nat} (hr : readUpTo n fuel c = (.error h, c')) :
    h.Ordinary := by
  induction fuel generalizing c with
  | zero =>
    rw [← Except.error.inj (Prod.mk.inj hr).1]
    exact Halt.ordinary_of_kind fun hkind => by cases hkind
  | succ fuel ih =>
    unfold readUpTo at hr
    split at hr
    · rw [← Except.error.inj (Prod.mk.inj hr).1]
      exact Halt.ordinary_of_kind fun hkind => by cases hkind
    split at hr
    · rename_i hpoll
      rw [← Except.error.inj (Prod.mk.inj hr).1]
      exact ordinary_poll hpoll
    · split at hr
      · cases hr
      · exact ih hr
    · split at hr
      · exact ih hr
      · rename_i hanswer
        rw [← Except.error.inj (Prod.mk.inj hr).1]
        exact ordinary_write hanswer
    · exact ih hr
    · rw [← Except.error.inj (Prod.mk.inj hr).1]
      exact Halt.ordinary_of_kind fun hkind => by cases hkind
    · exact ih hr

theorem ordinary_exchange {r : Request} (he : exchange c r = (.error h, c')) : h.Ordinary := by
  unfold exchange at he
  split at he
  · exact ordinary_readUpTo he
  · rename_i hs
    rw [← Except.error.inj (Prod.mk.inj he).1]
    exact ordinary_sendRequest hs

end Faults

section Requests

variable {r sent : Request} {name : Text}

/-- The requests among the units that were sent. -/
def requests (c : Connection) : List Request :=
  c.sent.filterMap fun m =>
    match m with
    | .request r => some r
    | .response _ | .frame _ => none

/-- The fields that are for the connection to write. -/
def ownNames : List Text :=
  ["CSeq".toList, "User-Agent".toList, "Session".toList, "Authorization".toList]

/-- The same request, but for the fields that are for the connection to write. -/
structure Carries (r sent : Request) : Prop where
  method_eq : sent.method = r.method
  values_eq : ∀ name, (∀ own ∈ ownNames, Text.sameName own name = false) →
    sent.header.values name = r.header.values name

theorem Carries.refl (r : Request) : Carries r r := ⟨rfl, fun _ _ => rfl⟩

theorem values_add_of_ne (h : Header) {own value : Text} (hne : Text.sameName own name = false) :
    (h.add own value).values name = h.values name := by
  simp [Header.add, Header.values, Header.Field.isNamed, hne]

theorem values_put_of_ne (h : Header) {own value : Text} (hne : Text.sameName own name = false) :
    (h.put own value).values name = h.values name := by
  rw [Header.put, Header.values_append, Header.values_filter_of_ne h hne]
  simp [Header.values, Header.Field.isNamed, hne]

theorem Carries.add (h : Carries r sent) {own : Text} (howned : own ∈ ownNames) (value : Text) :
    Carries r (sent.add own value) where
  method_eq := h.method_eq
  values_eq name hname := (values_add_of_ne _ (hname own howned)).trans (h.values_eq name hname)

theorem Carries.put (h : Carries r sent) {own : Text} (howned : own ∈ ownNames) (value : Text) :
    Carries r (sent.put own value) where
  method_eq := h.method_eq
  values_eq name hname := (values_put_of_ne _ (hname own howned)).trans (h.values_eq name hname)

theorem carries_stamp (c : Connection) (r : Request) : Carries r (c.stamp r) :=
  ((Carries.refl r).put (by decide) _).put (by decide) _

theorem Carries.named (h : Carries r sent) (c : Connection) : Carries r (c.named sent) := by
  unfold Connection.named
  split
  · exact h.add (by decide) _
  · exact h

theorem Carries.signed (h : Carries r sent) (c : Connection) : Carries r (c.signed sent).1 := by
  unfold Connection.signed
  split
  · exact h.add (by decide) _
  · exact h

theorem requests_congr {c c' : Connection} (h : c'.sent = c.sent) : c'.requests = c.requests := by
  simp only [requests, h]

theorem requests_append (c : Connection) (ms : List Message) {c' : Connection}
    (h : c'.sent = c.sent ++ ms) :
    c'.requests = c.requests ++ requests { c with sent := ms } := by
  simp only [requests, h, List.filterMap_append]

/-- The request as it is sent under the next number, and the connection that is to write it. -/
def composed (c : Connection) (r : Request) : Request × Connection :=
  signed { c with sequence := c.sequence + 1 }
    (named { c with sequence := c.sequence + 1 } (stamp { c with sequence := c.sequence + 1 } r))

theorem sendRequest_snd (c : Connection) (r : Request) :
    (c.sendRequest r).2 = ((c.composed r).2.write (.request (c.composed r).1)).2 := by
  unfold sendRequest composed
  dsimp only
  split <;> rename_i hwrite <;> rw [hwrite]

theorem composed_snd_keeps (c : Connection) (r : Request) :
    (c.composed r).2.requests = c.requests ∧ (c.composed r).2.writes = c.writes := by
  unfold composed signed
  split <;> exact ⟨rfl, rfl⟩

theorem writes_sendRequest (c : Connection) (r : Request) :
    (c.sendRequest r).2.writes = c.writes.tail := by
  rw [sendRequest_snd, ← (composed_snd_keeps c r).2]
  unfold write
  dsimp only
  split <;> rfl

/-- The request that is composed is sent, if the write succeeds. -/
theorem requests_sendRequest (c : Connection) (r : Request) :
    (c.sendRequest r).2.requests =
      c.requests ++ if c.writes.headD none = none then [(c.composed r).1] else [] := by
  obtain ⟨hrequests, hwrites⟩ := composed_snd_keeps c r
  rw [sendRequest_snd, ← hrequests, ← hwrites]
  generalize (c.composed r).2 = c'
  unfold write
  dsimp only
  split
  · rename_i houtcome
    rw [if_pos houtcome]
    exact requests_append c' [.request (c.composed r).1] rfl
  · rename_i trouble houtcome
    rw [if_neg (houtcome ▸ Option.some_ne_none trouble), List.append_nil]
    rfl

theorem carries_composed (c : Connection) (r : Request) : Carries r (c.composed r).1 :=
  ((carries_stamp _ r).named _).signed _

/-- No request is sent, and what the next one is composed of stays as it is. -/
structure Aside (c c' : Connection) : Prop where
  sequence : c'.sequence = c.sequence
  sessionId : c'.sessionId = c.sessionId
  signer : c'.signer = c.signer
  entropy : c'.entropy = c.entropy
  requests : c'.requests = c.requests
  writes : c'.writes <:+ c.writes

theorem Aside.refl (c : Connection) : c.Aside c := ⟨rfl, rfl, rfl, rfl, rfl, List.suffix_refl _⟩

theorem Aside.trans {c c' c'' : Connection} (h : c.Aside c') (h' : c'.Aside c'') : c.Aside c'' :=
  ⟨h'.sequence.trans h.sequence, h'.sessionId.trans h.sessionId, h'.signer.trans h.signer,
    h'.entropy.trans h.entropy, h'.requests.trans h.requests, h'.writes.trans h.writes⟩

theorem aside_write (c : Connection) {m : Message} (hm : ∀ r, m ≠ .request r) :
    c.Aside (c.write m).2 := by
  have hother : requests { c with sent := [m] } = [] := by
    cases m with
    | request r => exact absurd rfl (hm r)
    | response r => rfl
    | frame f => rfl
  unfold write
  simp only
  split
  · refine ⟨rfl, rfl, rfl, rfl, ?_, List.tail_suffix _⟩
    exact (requests_append c [m] rfl).trans (by rw [hother, List.append_nil])
  · exact ⟨rfl, rfl, rfl, rfl, rfl, List.tail_suffix _⟩

theorem aside_answer (c : Connection) (r : Request) : c.Aside (c.answer r).2 :=
  aside_write c nofun

theorem aside_sendFrame (c : Connection) (f : Frame) : c.Aside (c.sendFrame f).2 := by
  unfold sendFrame
  split
  · exact aside_write c nofun
  · exact .refl c

theorem aside_decode (c : Connection) : c.Aside c.decode.2 := by
  unfold decode
  simp only
  split <;> exact ⟨rfl, rfl, rfl, rfl, rfl, List.suffix_refl _⟩

theorem aside_receive (c : Connection) : c.Aside c.receive.2 := by
  have hsame : ∀ c' : Connection, c'.sent = c.sent → c'.writes = c.writes →
      c'.sequence = c.sequence → c'.sessionId = c.sessionId → c'.signer = c.signer →
      c'.entropy = c.entropy → c.Aside c' :=
    fun c' hsent hwrites hsequence hsession hsigner hentropy =>
      ⟨hsequence, hsession, hsigner, hentropy, requests_congr hsent, hwrites ▸ List.suffix_refl _⟩
  unfold receive
  split
  · exact .refl c
  simp only
  split
  · refine Aside.trans ?_ (aside_decode _)
    exact hsame _ rfl rfl rfl rfl rfl rfl
  all_goals exact hsame _ rfl rfl rfl rfl rfl rfl

theorem aside_poll (c : Connection) : c.Aside c.poll.2 := by
  have hdecode := aside_decode c
  unfold poll
  split
  · rename_i found
    rw [found] at hdecode
    exact hdecode.trans (aside_receive _)
  · exact hdecode

theorem aside_keep (c : Connection) (f : Frame) : c.Aside (c.keep f) := by
  unfold keep
  split
  · exact ⟨rfl, rfl, rfl, rfl, rfl, List.suffix_refl _⟩
  · exact .refl c

/-- Waiting for a response makes no request. -/
theorem aside_readUpTo (n fuel : Nat) (c : Connection) : c.Aside (readUpTo n fuel c).2 := by
  induction fuel generalizing c with
  | zero => exact .refl c
  | succ fuel ih =>
    have hpoll := aside_poll c
    unfold readUpTo
    split
    · exact .refl c
    split
    · rename_i found
      rw [found] at hpoll
      exact hpoll
    · rename_i found
      rw [found] at hpoll
      split
      · exact hpoll
      · exact hpoll.trans (ih _)
    · rename_i r' c' found
      rw [found] at hpoll
      have hanswer := hpoll.trans (aside_answer c' r')
      split
      · rename_i answered
        rw [answered] at hanswer
        exact hanswer.trans (ih _)
      · rename_i answered
        rw [answered] at hanswer
        exact hanswer
    · rename_i f c' found
      rw [found] at hpoll
      exact (hpoll.trans (aside_keep c' f)).trans (ih _)
    · rename_i found
      rw [found] at hpoll
      exact hpoll
    · rename_i found
      rw [found] at hpoll
      exact hpoll.trans (ih _)

/-- A connection hosts a handshake: what it says are the requests of the handshake. -/
theorem hosts_exchange (Q : Request → Prop) :
    Dialogue.Hosts (fun _ => True) Q Halt.Ordinary
      (fun c => ∀ sent ∈ c.requests, ∃ r, Q r ∧ Carries r sent) exchange where
  kept := by
    intro c r hc hr
    have hmore : ∀ sent ∈ (c.sendRequest r).2.requests, ∃ r, Q r ∧ Carries r sent := by
      rw [requests_sendRequest]
      intro x hx
      rcases List.mem_append.mp hx with hx | hx
      · exact hc x hx
      · split at hx
        · exact List.mem_singleton.mp hx ▸ ⟨r, hr, carries_composed c r⟩
        · exact absurd hx List.not_mem_nil
    unfold exchange
    split
    · rename_i n c' found
      rw [found] at hmore
      have hread := (aside_readUpTo n c'.supply c').requests
      exact fun sent hsent => hmore sent (hread ▸ hsent)
    · rename_i found
      rw [found] at hmore
      exact hmore
  response := fun _ _ _ _ _ _ => trivial
  halt := fun c r _ _ h herror => ordinary_exchange (Prod.ext herror rfl)

end Requests

end Connection

end Rtsp
