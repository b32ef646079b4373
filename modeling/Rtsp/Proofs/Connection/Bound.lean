import Rtsp.Connection
import Rtsp.Proofs.Decoder.Account

/-!
How much a server can make a connection hold. No single check bounds the undecoded bytes. A read is
made only after a look that waits for more, and such a look leaves no more than the limit for one
message: a head that does not end, a message whose body has not come, and a frame are all shorter.
So the bytes never exceed that limit by more than one read, at no moment between two steps of any
calls, whatever they end in, and the frames that are kept never exceed their number.
-/
namespace Rtsp

namespace Decoder

theorem length_le_of_decodeFrame_eq_more {bytes : Bytes} {d : Decoder}
    (h : decodeFrame bytes = (.more, d)) : d.pending.length ≤ limit := by
  have hlimit : 0x10000 + 4 ≤ limit := by decide
  by_cases hshort : bytes.length < 3
  · rw [decodeFrame_short hshort] at h
    rw [← (Prod.mk.inj h).2]
    simp only [List.length_cons]
    omega
  match bytes with
  | channel :: high :: low :: rest =>
    by_cases hl : rest.length < high.toNat * 256 + low.toNat
    · rw [decodeFrame_incomplete hl] at h
      have hhigh := high.toNat_lt
      have hlow := low.toNat_lt
      rw [← (Prod.mk.inj h).2]
      simp only [List.length_cons]
      omega
    · have hheld : holds (high.toNat * 256 + low.toNat) rest = true := holds_iff.mpr (by omega)
      simp [decodeFrame, hheld] at h
  | [] | [_] | [_, _] => simp at hshort

theorem length_le_of_decodeText_eq_more {bytes : Bytes} {d : Decoder}
    (h : decodeText bytes = (.more, d)) : d.pending.length ≤ limit := by
  cases hh : headLength? bytes with
  | none =>
    rw [decodeText_of_headless hh] at h
    split at h
    · cases h
    · rw [← (Prod.mk.inj h).2]
      dsimp only
      omega
  | some k =>
    cases hn : bodyLength (Text.Utf8.lossy (bytes.take k)) with
    | error cause => simp [decodeText, hh, hn] at h
    | ok n =>
      have ha : Announces bytes k n := ⟨hh, hn⟩
      rw [decodeText_of_announces ha] at h
      split at h
      · cases h
      split at h
      · cases h
      split at h
      · rw [← (Prod.mk.inj h).2]
        dsimp only
        omega
      · cases hm : messageAt bytes k n <;> simp [hm, Outcome.ofParse] at h

/-- A look that waits for more leaves no more than the limit. -/
theorem length_le_of_decode_eq_more {d d' : Decoder} (h : d.decode = (.more, d')) :
    d'.pending.length ≤ limit := by
  obtain ⟨s⟩ := d
  rw [← decode_skip] at h
  cases hs : skip s with
  | nil =>
    rw [hs, decode_of_skip_eq_nil rfl] at h
    rw [← (Prod.mk.inj h).2]
    exact Nat.zero_le limit
  | cons b rest =>
    rw [hs, decode_cons (not_isBreak_of_skip hs)] at h
    split at h
    · exact length_le_of_decodeFrame_eq_more h
    · exact length_le_of_decodeText_eq_more h

/-- Whatever a look finds, what it leaves is an end of what was there. -/
theorem decode_suffix (d : Decoder) : d.decode.2.pending <:+ d.pending := by
  obtain ⟨piece, hsplit, -⟩ := exists_piece d.pending
  exact ⟨piece, hsplit.symm⟩

end Decoder

namespace Connection

/-- A connection within its bounds. A read that is to come brings what one read takes at most. -/
structure Bounded (c : Connection) : Prop where
  pending : c.decoder.pending.length ≤ Decoder.limit + readLimit
  early : c.early.length ≤ earlyLimit
  reads : ∀ bytes, .data bytes ∈ c.arrivals → bytes.length ≤ readLimit

variable {c c' : Connection}

theorem bounded_start {arrivals : List Arrival}
    (h : ∀ bytes, .data bytes ∈ arrivals → bytes.length ≤ readLimit)
    (writes : List (Option Fault.Trouble)) (e : Auth.Entropy) :
    (start arrivals writes e).Bounded :=
  ⟨Nat.zero_le _, Nat.zero_le _, h⟩

theorem Bounded.congr (h : c.Bounded) (hdecoder : c'.decoder = c.decoder)
    (hearly : c'.early = c.early) (harrivals : c'.arrivals = c.arrivals) : c'.Bounded :=
  ⟨hdecoder ▸ h.pending, hearly ▸ h.early, harrivals ▸ h.reads⟩

/-- The connection after a look. -/
theorem decode_snd (c : Connection) : c.decode.2 = { c with decoder := c.decoder.decode.2 } := by
  unfold decode
  rcases c.decoder.decode with ⟨outcome, d⟩
  cases outcome <;> rfl

/-- Only a look that waits for more is followed by a read. -/
theorem decode_fst_eq_nothing {late : Bool} (h : c.decode.1 = .ok (.nothing late)) :
    c.decoder.decode.1 = .more := by
  unfold decode at h
  rcases hd : c.decoder.decode with ⟨outcome, d⟩
  rw [hd] at h
  cases outcome with
  | more => rfl
  | message m => cases h
  | refused cause => cases h
  | overflow => cases h

theorem Bounded.decode (h : c.Bounded) : c.decode.2.Bounded := by
  rw [decode_snd]
  exact ⟨(c.decoder.decode_suffix.length_le).trans h.pending, h.early, h.reads⟩

/-- The moments of a poll: after its look, with the bytes of a read joined to those before them, and
when it is over. -/
inductive Polling (c : Connection) : Connection → Prop
  | looked : Polling c c.decode.2
  | joined (bytes : Bytes) (rest : List Arrival) (awaited : c.decoder.decode.1 = .more)
      (next : c.arrivals = .data bytes :: rest) :
      Polling c { c with decoder := c.decoder.decode.2.push bytes, arrivals := rest }
  | polled : Polling c c.poll.2

/-- The bytes of one read find room. -/
theorem Bounded.join (h : c.Bounded) {bytes : Bytes} {rest : List Arrival}
    (awaited : c.decoder.decode.1 = .more) (next : c.arrivals = .data bytes :: rest) :
    Bounded { c with decoder := c.decoder.decode.2.push bytes, arrivals := rest } where
  pending := by
    have hleft : c.decoder.decode.2.pending.length ≤ Decoder.limit :=
      Decoder.length_le_of_decode_eq_more (Prod.ext awaited rfl)
    have hread := h.reads bytes (next ▸ List.mem_cons_self)
    simp only [Decoder.push, List.length_append]
    omega
  early := h.early
  reads := fun b hb => h.reads b (next ▸ List.mem_cons_of_mem _ hb)

theorem Bounded.tail (h : c.Bounded) {a : Arrival} {rest : List Arrival}
    (next : c.arrivals = a :: rest) : Bounded { c with arrivals := rest } :=
  ⟨h.pending, h.early, fun b hb => h.reads b (next ▸ List.mem_cons_of_mem a hb)⟩

theorem Bounded.poll (h : c.Bounded) : c.poll.2.Bounded := by
  have hlook := h.decode
  have hsnd := c.decode_snd
  unfold Connection.poll
  split
  · rename_i late d hdecode
    have hmore := decode_fst_eq_nothing (congrArg Prod.fst hdecode)
    rw [hdecode] at hlook hsnd
    dsimp only at hlook hsnd
    unfold receive
    split
    · exact hlook
    · rename_i a rest next
      have htail := hlook.tail next
      rw [hsnd] at next
      dsimp only
      split
      · rename_i bytes
        rw [hsnd]
        exact (h.join hmore next).decode
      · exact htail
      · exact htail
      · exact htail
      · exact htail
      · exact htail.congr rfl rfl rfl
  · exact hlook

theorem Bounded.polling (h : c.Bounded) (hp : Polling c c') : c'.Bounded := by
  cases hp with
  | looked => exact h.decode
  | joined bytes rest awaited next => exact h.join awaited next
  | polled => exact h.poll

theorem Bounded.write (h : c.Bounded) (m : Message) : (c.write m).2.Bounded := by
  unfold Connection.write
  dsimp only
  split <;> exact h.congr rfl rfl rfl

theorem Bounded.signed (h : c.Bounded) (r : Request) : (c.signed r).2.Bounded := by
  unfold Connection.signed
  split <;> exact h.congr rfl rfl rfl

theorem Bounded.sendRequest (h : c.Bounded) (r : Request) : (c.sendRequest r).2.Bounded := by
  have hnumbered : Bounded { c with sequence := c.sequence + 1 } := h.congr rfl rfl rfl
  have hwrite := fun r => (hnumbered.signed r).write
  unfold Connection.sendRequest
  dsimp only
  split
  · rename_i hsent
    exact congrArg Prod.snd hsent ▸ hwrite _ _
  · rename_i hsent
    exact congrArg Prod.snd hsent ▸ hwrite _ _

theorem Bounded.sendFrame (h : c.Bounded) (f : Frame) : (c.sendFrame f).2.Bounded := by
  unfold Connection.sendFrame
  split
  · exact h.write _
  · exact h

theorem Bounded.keep (h : c.Bounded) (f : Frame) : (c.keep f).Bounded := by
  unfold Connection.keep
  split
  · refine ⟨h.pending, ?_, h.reads⟩
    simp only [List.length_append, List.length_cons, List.length_nil]
    omega
  · exact h

/-- The moments of the search for the response to request `n`, in at most so many polls: those of
each poll, and those between a poll and the next. -/
inductive Reading (n : Nat) : Nat → Connection → Connection → Prop
  | here (polls : Nat) (c : Connection) : Reading n polls c c
  | polling {polls : Nat} {c c' : Connection} (h : Polling c c') : Reading n (polls + 1) c c'
  | stale {polls : Nat} {c c₁ c' : Connection} (r : Response)
      (found : c.poll = (.ok (.unit (.response r)), c₁)) (other : isFor n r = false)
      (rest : Reading n polls c₁ c') : Reading n (polls + 1) c c'
  | answered {polls : Nat} {c c₁ c' : Connection} (r : Request)
      (found : c.poll = (.ok (.unit (.request r)), c₁))
      (rest : Reading n polls (c₁.answer r).2 c') :
      Reading n (polls + 1) c c'
  | kept {polls : Nat} {c c₁ c' : Connection} (f : Frame)
      (found : c.poll = (.ok (.unit (.frame f)), c₁)) (rest : Reading n polls (c₁.keep f) c') :
      Reading n (polls + 1) c c'
  | silent {polls : Nat} {c c₁ c' : Connection} (found : c.poll = (.ok (.nothing false), c₁))
      (rest : Reading n polls c₁ c') : Reading n (polls + 1) c c'

theorem Bounded.reading {n polls : Nat} (h : c.Bounded) (hr : Reading n polls c c') :
    c'.Bounded := by
  have hpoll : ∀ {c c₁ : Connection} {found}, c.Bounded → c.poll = (found, c₁) → c₁.Bounded := by
    intro c c₁ found hc hfound
    have hpolled := hc.poll
    rwa [hfound] at hpolled
  induction hr with
  | here => exact h
  | polling hp => exact h.polling hp
  | stale r found _ _ ih => exact ih (hpoll h found)
  | answered r found _ ih => exact ih ((hpoll h found).write _)
  | kept f found _ ih => exact ih ((hpoll h found).keep f)
  | silent found _ ih => exact ih (hpoll h found)

/-- The search ends at one of its moments. -/
theorem reading_readUpTo (n polls : Nat) (c : Connection) :
    Reading n polls c (readUpTo n polls c).2 := by
  induction polls generalizing c with
  | zero => exact .here 0 c
  | succ polls ih =>
    have hpolled : ∀ {found c₁}, c.poll = (found, c₁) → Reading n (polls + 1) c c₁ := by
      intro found c₁ hfound
      have hp := Polling.polled (c := c)
      rw [hfound] at hp
      exact .polling hp
    unfold readUpTo
    split
    · exact .here _ c
    split
    · rename_i hfound
      exact hpolled hfound
    · rename_i r c₁ hfound
      split
      · exact hpolled hfound
      · rename_i hother
        exact .stale r hfound (Bool.eq_false_iff.mpr hother) (ih c₁)
    · rename_i r c₁ hfound
      have hanswered : ∀ c', Reading n polls (c₁.answer r).2 c' → Reading n (polls + 1) c c' :=
        fun c' => .answered r hfound
      split
      · rename_i c₂ hanswer
        rw [hanswer] at hanswered
        exact hanswered _ (ih c₂)
      · rename_i halt c₂ hanswer
        rw [hanswer] at hanswered
        exact hanswered _ (.here polls c₂)
    · rename_i f c₁ hfound
      exact .kept f hfound (ih _)
    · rename_i hfound
      exact hpolled hfound
    · rename_i c₁ hfound
      exact .silent hfound (ih c₁)

/-- What a connection is told to do. -/
inductive Call
  | poll
  | response (n : Nat)
  | request (r : Request)
  | answer (r : Request)
  | frame (f : Frame)
  | early
  | attach (sessionId : Text) (signer : Option Auth.Signer)
  | cancel

/-- The connection after a call, whatever the call ends in. -/
def after (c : Connection) : Call → Connection
  | .poll => c.poll.2
  | .response n => (c.readResponse n).2
  | .request r => (c.sendRequest r).2
  | .answer r => (c.answer r).2
  | .frame f => (c.sendFrame f).2
  | .early => c.takeEarly.2
  | .attach sessionId signer => c.attach sessionId signer
  | .cancel => c.cancel

/-- The moments of a list of calls, made one after another. -/
inductive Passes : Connection → List Call → Connection → Prop
  | here (c : Connection) (calls : List Call) : Passes c calls c
  | polling {c c' : Connection} (calls : List Call) (h : Polling c c') :
      Passes c (.poll :: calls) c'
  | reading {c c' : Connection} (n : Nat) (calls : List Call) (h : Reading n c.supply c c') :
      Passes c (.response n :: calls) c'
  | later {c c' : Connection} (call : Call) (calls : List Call)
      (h : Passes (c.after call) calls c') : Passes c (call :: calls) c'

theorem Bounded.after (h : c.Bounded) (call : Call) : (c.after call).Bounded := by
  cases call with
  | poll => exact h.poll
  | response n => exact h.reading (reading_readUpTo n c.supply c)
  | request r => exact h.sendRequest r
  | answer r => exact h.write _
  | frame f => exact h.sendFrame f
  | early => exact ⟨h.pending, Nat.zero_le _, h.reads⟩
  | attach sessionId signer => exact h.congr rfl rfl rfl
  | cancel => exact h.congr rfl rfl rfl

theorem Bounded.passes {calls : List Call} (h : c.Bounded) (hp : Passes c calls c') :
    c'.Bounded := by
  induction hp with
  | here => exact h
  | polling calls hpolling => exact h.polling hpolling
  | reading n calls hreading => exact h.reading hreading
  | later call calls _ ih => exact ih (h.after call)

/-- A poll that finds a unit, or cannot go on, takes nothing from what is to arrive. -/
theorem arrivals_poll (h : c.decoder.decode.1 ≠ .more) : c.poll.2.arrivals = c.arrivals := by
  unfold poll
  split
  · rename_i late d hdecode
    exact absurd (decode_fst_eq_nothing (congrArg Prod.fst hdecode)) h
  · rw [decode_snd]

/-- Whatever a server sends in reads of at most 64 KiB, and whatever is asked of the connection, it
never holds more than 1 MiB and one read, nor more frames than are kept: it reads only after a look
that waits for more, and such a look leaves no more than 1 MiB. -/
theorem passes_bounded {arrivals : List Arrival}
    (hreads : ∀ bytes, .data bytes ∈ arrivals → bytes.length ≤ 64 * 1024)
    (writes : List (Option Fault.Trouble)) (e : Auth.Entropy) {calls : List Call} {c : Connection}
    (hc : Passes (start arrivals writes e) calls c) :
    c.decoder.pending.length ≤ 1024 * 1024 + 64 * 1024 ∧ c.early.length ≤ 256 ∧
      (c.poll.2.arrivals ≠ c.arrivals → c.decoder.decode.1 = .more) ∧
      (c.decoder.decode.1 = .more → c.decoder.decode.2.pending.length ≤ 1024 * 1024) := by
  obtain ⟨hpending, hearly, -⟩ := (bounded_start hreads writes e).passes hc
  refine ⟨hpending, hearly, ?_, ?_⟩
  · intro hread
    by_contra hmore
    exact hread (arrivals_poll hmore)
  · exact fun hmore => Decoder.length_le_of_decode_eq_more (Prod.ext hmore rfl)

/-- A frame that comes in two reads, at the moment when the bytes of the second join those of the
first while a response is waited for. -/
theorem passes_bounded_torn :
    let arrivals : List Arrival := [.data [0x24, 0x00, 0x00], .failed .stalled, .data [0x02, 0x07]]
    let c := start arrivals [] (.counting 1)
    let joined := { c with decoder := ⟨[0x24, 0x00, 0x00, 0x02, 0x07]⟩, arrivals := [] }
    (∀ bytes, .data bytes ∈ arrivals → bytes.length ≤ 64 * 1024) ∧
      Passes c [.poll, .poll, .response 1] joined ∧
      joined.decoder.pending.length ≤ 1024 * 1024 + 64 * 1024 ∧ joined.early.length ≤ 256 ∧
      (joined.poll.2.arrivals ≠ joined.arrivals → joined.decoder.decode.1 = .more) ∧
      (joined.decoder.decode.1 = .more → joined.decoder.decode.2.pending.length ≤ 1024 * 1024) := by
  intro arrivals c joined
  have hreads : ∀ bytes, .data bytes ∈ arrivals → bytes.length ≤ 64 * 1024 := by
    intro bytes hmem
    simp only [arrivals, List.mem_cons, List.not_mem_nil, or_false, reduceCtorEq, false_or,
      Arrival.data.injEq] at hmem
    rcases hmem with rfl | rfl <;> decide
  have hpasses : Passes c [.poll, .poll, .response 1] joined :=
    .later .poll _ (.later .poll _ (.reading 1 [] (.polling (.joined [0x02, 0x07] [] rfl rfl))))
  exact ⟨hreads, hpasses, passes_bounded hreads [] (.counting 1) hpasses⟩

end Connection

end Rtsp
