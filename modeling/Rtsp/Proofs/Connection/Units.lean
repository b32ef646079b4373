import Rtsp.Proofs.Connection.Bound
import Rtsp.Proofs.Connection.Stream
import Rtsp.Proofs.Decoder.Formed

/-!
The units that a connection hears. Poll after poll is made, and between the polls nothing is done
to what was read or is still to be read. Where the server says units one after another, what is
heard is these units, each once and in order, and what is left of the bytes is the rest of them;
that holds however the bytes are cut into reads, whatever else the network does, and if they break
off anywhere.
-/
namespace Rtsp

/-- The frame that a unit is. -/
def Message.frame? : Message → Option Frame
  | .frame f => some f
  | .request _ | .response _ => none

/-- The frames among some units, in order. -/
def framesOf (ms : List Message) : List Frame := ms.filterMap Message.frame?

theorem framesOf_append (a b : List Message) : framesOf (a ++ b) = framesOf a ++ framesOf b :=
  List.filterMap_append

/-- A frame is received as it was sent. -/
theorem framesOf_received (ms : List Message) :
    framesOf (ms.map Message.received) = framesOf ms := by
  unfold framesOf
  rw [List.filterMap_map]
  congr 1
  funext m
  cases m <;> rfl

namespace Connection

/-- The units that a sequence of polls finds. -/
inductive Hears : Connection → List Message → Connection → Prop
  | refl (c : Connection) : Hears c [] c
  | other {c c₁ c' : Connection} {ms : List Message} (decoder : c₁.decoder = c.decoder)
      (arrivals : c₁.arrivals = c.arrivals) (more : Hears c₁ ms c') : Hears c ms c'
  | unit {c c₁ c' : Connection} {m : Message} {ms : List Message}
      (polled : c.poll = (.ok (.unit m), c₁)) (more : Hears c₁ ms c') : Hears c (m :: ms) c'
  | nothing {c c₁ c' : Connection} {found : Except Halt Poll} {ms : List Message}
      (polled : c.poll = (found, c₁)) (none : ∀ m, found ≠ .ok (.unit m))
      (more : Hears c₁ ms c') : Hears c ms c'

variable {c c₁ c' c'' : Connection} {ms ms' : List Message} {m : Message}

theorem Hears.trans (h : Hears c ms c') (h' : Hears c' ms' c'') : Hears c (ms ++ ms') c'' := by
  induction h with
  | refl c => exact h'
  | other decoder arrivals _ ih => exact .other decoder arrivals (ih h')
  | unit polled _ ih => exact .unit polled (ih h')
  | nothing polled none _ ih => exact .nothing polled none (ih h')

theorem hears_nil (decoder : c'.decoder = c.decoder) (arrivals : c'.arrivals = c.arrivals) :
    Hears c [] c' := .other decoder arrivals (.refl c')

theorem Untouched.hears (h : c.Untouched c') : Hears c [] c' := hears_nil h.decoder h.arrivals

section Stream

/-- The bytes that are ahead are those of units, as far as they go. -/
structure Ahead (ms : List Message) (c : Connection) : Prop where
  formed : ∀ m ∈ ms, m.Formed
  part : c.stream <+: written ms

/-- The look at the pending bytes takes the next unit, or nothing. -/
theorem Ahead.decode (h : Ahead ms c) :
    (∃ m left d, ms = m :: left ∧ c.decoder.decode = (.message m.received, d) ∧
      c.decoder.pending = written [m] ++ d.pending) ∨
    (∀ m, c.decoder.decode.1 ≠ .message m) ∧ c.decoder.decode.2 = c.decoder := by
  have hpending : c.decoder.pending <+: written ms :=
    (List.prefix_append _ _).trans h.part
  cases ms with
  | nil =>
    have hnil : c.decoder.pending = [] := List.prefix_nil.mp hpending
    have hmore : c.decoder.decode = (.more, ⟨[]⟩) := Decoder.decode_of_skip_eq_nil (s := _) (by
      rw [hnil]; rfl)
    refine .inr ⟨by simp [hmore], ?_⟩
    rw [hmore, ← hnil]
  | cons m left =>
    obtain ⟨piece, hbytes, hbears⟩ := Decoder.exists_bears (h.formed m List.mem_cons_self)
    have hwritten : ∀ rest, written (m :: rest) = piece ++ written rest := by
      intro rest
      simp [written, hbytes]
    rw [hwritten] at hpending
    by_cases hshort : c.decoder.pending.length < piece.length
    · obtain ⟨v, hv⟩ : c.decoder.pending <+: piece :=
        List.prefix_of_prefix_length_le hpending (List.prefix_append piece _) (by omega)
      have hne : v ≠ [] := by
        rintro rfl
        simp [← hv] at hshort
      have hkeeps := hbears.awaited _ v hv hne
      exact .inr ⟨hkeeps.nothing, hkeeps.kept⟩
    · obtain ⟨w, hw⟩ : piece <+: c.decoder.pending :=
        List.prefix_of_prefix_length_le (List.prefix_append piece _) hpending (by omega)
      rcases hbears.found w with hfound | ⟨hkeeps, -⟩
      · rw [hw] at hfound
        refine .inl ⟨m, left, ⟨w⟩, rfl, hfound, ?_⟩
        rw [hwritten, ← hw]
        simp [written]
      · rw [hw] at hkeeps
        exact .inr ⟨hkeeps.nothing, hkeeps.kept⟩

theorem written_cons (m : Message) (left : List Message) :
    written (m :: left) = written [m] ++ written left := written_append [m] left

theorem Ahead.next {left : List Message} (h : Ahead (m :: left) c)
    (hstream : c.stream = written [m] ++ c'.stream) : Ahead left c' where
  formed := fun m' hm' => h.formed m' (List.mem_cons_of_mem m hm')
  part := by
    have hpart := h.part
    rw [hstream, written_cons m left] at hpart
    exact (List.prefix_append_right_inj _).mp hpart

theorem Ahead.congr (h : Ahead ms c) (hstream : c'.stream = c.stream) : Ahead ms c' :=
  ⟨h.formed, hstream ▸ h.part⟩

/-- What was found is the next unit, whose bytes are taken, or no unit, and then none are. -/
def Finds (ms : List Message) (c : Connection) (found : Except Halt Poll) (c' : Connection) :
    Prop :=
  (∃ m left, ms = m :: left ∧ found = .ok (.unit m.received) ∧
    c.stream = written [m] ++ c'.stream) ∨
  (∀ m, found ≠ .ok (.unit m)) ∧ c'.stream = c.stream

/-- A look takes the next unit, or leaves the connection as it is. -/
theorem Ahead.look (h : Ahead ms c) :
    (∃ m left d, ms = m :: left ∧ c.stream = written [m] ++ (c.moved d c.arrivals).stream ∧
      c.decode = (.ok (.unit m.received), c.moved d c.arrivals)) ∨
    (∀ m, c.decode.1 ≠ .ok (.unit m)) ∧ c.decode.2 = c := by
  rcases h.decode with ⟨m, left, d, hms, hdecode, hpending⟩ | ⟨hnone, hkept⟩
  · refine .inl ⟨m, left, d, hms, ?_, ?_⟩
    · simp only [stream, hpending, List.append_assoc, moved]
    · simp only [Connection.decode, hdecode]
      rfl
  · refine .inr ⟨fun m => ?_, ?_⟩
    · unfold Connection.decode
      rcases hdecode : c.decoder.decode with ⟨outcome, d⟩
      rw [hdecode] at hnone
      cases outcome with
      | message m' => exact absurd rfl (hnone m')
      | more | refused cause | overflow => simp
    · rw [decode_snd, hkept]

theorem Ahead.receive (h : Ahead ms c) : Finds ms c c.receive.1 c.receive.2 := by
  unfold Connection.receive
  cases harrivals : c.arrivals with
  | nil => exact .inr ⟨by simp, rfl⟩
  | cons a rest =>
    have hsame : brought (a :: rest) = brought rest →
        ∀ c' : Connection, c'.decoder = c.decoder → c'.arrivals = rest → c'.stream = c.stream := by
      intro hbrought c' hdecoder hrest
      rw [stream, stream, hdecoder, hrest, harrivals, hbrought]
    cases a with
    | data bytes =>
      have hjoined : (c.moved (c.decoder.push bytes) rest).stream = c.stream := by
        rw [stream, stream, harrivals]
        simp [moved, Decoder.push, brought]
      rcases (h.congr hjoined).look with ⟨m, left, d, hms, htaken, hlook⟩ | ⟨hnone, hkept⟩
      · refine .inl ⟨m, left, hms, congrArg Prod.fst hlook, ?_⟩
        rw [← hjoined, htaken]
        exact congrArg (written [m] ++ ·.2.stream) hlook.symm
      · refine .inr ⟨hnone, ?_⟩
        rw [← hjoined]
        exact congrArg Connection.stream hkept
    | silence late => exact .inr ⟨by simp, hsame rfl _ rfl rfl⟩
    | closed => exact .inr ⟨by simp [fault], hsame rfl _ rfl rfl⟩
    | failed t => cases t with
      | stalled => exact .inr ⟨by simp, hsame rfl _ rfl rfl⟩
      | broken reason => exact .inr ⟨by simp [fault], hsame rfl _ rfl rfl⟩
    | cancelled => exact .inr ⟨by simp [fault], hsame rfl _ rfl rfl⟩

theorem Ahead.poll (h : Ahead ms c) : Finds ms c c.poll.1 c.poll.2 := by
  have hreceive := h.receive
  unfold Connection.poll
  rcases h.look with ⟨m, left, d, hms, htaken, hlook⟩ | ⟨hnone, hkept⟩
  · rw [hlook]
    exact .inl ⟨m, left, hms, rfl, htaken⟩
  · rcases hlook : c.decode with ⟨found, c'⟩
    rw [hlook] at hnone hkept
    obtain rfl := hkept
    rcases found with halt | ⟨m | late⟩
    · exact .inr ⟨hnone, rfl⟩
    · exact absurd rfl (hnone m)
    · exact hreceive

/-- What is heard is the first of the units, and the others are still ahead. -/
theorem Hears.ahead {units : List Message} (hears : Hears c units c') (h : Ahead ms c) :
    ∃ taken left, ms = taken ++ left ∧ units = taken.map Message.received ∧
      c.stream = written taken ++ c'.stream ∧ Ahead left c' := by
  induction hears generalizing ms with
  | refl c => exact ⟨[], ms, rfl, rfl, rfl, h⟩
  | @other c c₁ c' units decoder arrivals _ ih =>
    have hstream : c₁.stream = c.stream := by
      rw [stream, stream, decoder, arrivals]
    obtain ⟨taken, left, hsplit, hunits, htaken, hleft⟩ := ih (h.congr hstream)
    exact ⟨taken, left, hsplit, hunits, hstream.symm.trans htaken, hleft⟩
  | @unit c c₁ c' m units polled _ ih =>
    have hpoll := h.poll
    rw [polled] at hpoll
    rcases hpoll with ⟨m', left, rfl, hm, hstream⟩ | ⟨hnone, -⟩
    · obtain ⟨taken, left', rfl, rfl, htaken, hleft⟩ := ih (h.next hstream)
      refine ⟨m' :: taken, left', rfl, ?_, ?_, hleft⟩
      · rw [List.map_cons, Poll.unit.inj (Except.ok.inj hm)]
      · rw [hstream, htaken, written_cons m' taken, List.append_assoc]
    · exact absurd rfl (hnone m)
  | @nothing c c₁ c' found units polled none _ ih =>
    have hpoll := h.poll
    rw [polled] at hpoll
    rcases hpoll with ⟨m', left, rfl, hm, -⟩ | ⟨-, hstream⟩
    · exact absurd hm (none _)
    · obtain ⟨taken, left, hsplit, hunits, htaken, hleft⟩ := ih (h.congr hstream)
      exact ⟨taken, left, hsplit, hunits, hstream.symm.trans htaken, hleft⟩

end Stream

section Close

/-- The end of the server's side is the last that is to come, or nothing is and no whole unit is
pending. -/
def Closing (c : Connection) : Prop :=
  c.arrivals.getLast? = some .closed ∨ c.arrivals = [] ∧ c.decoder.decode.1 = .more

theorem Closing.poll (h : c.Closing) : c.poll.2.Closing := by
  have hsnd := c.decode_snd
  unfold Connection.poll
  split
  · rename_i late c₁ hdecode
    have hmore : c.decoder.decode.1 = .more := decode_fst_eq_nothing (congrArg Prod.fst hdecode)
    rw [hdecode] at hsnd
    dsimp only at hsnd
    have hagain : c₁.decoder.decode.1 = .more := by
      have hleft : c.decoder.decode.2 = ⟨Decoder.skip c.decoder.pending⟩ :=
        Decoder.decode_eq_more (Prod.ext hmore rfl)
      rw [hsnd]
      dsimp only
      rw [hleft, Decoder.decode_skip]
      exact hmore
    have harrivals : c₁.arrivals = c.arrivals := by rw [hsnd]
    unfold receive
    split
    · rename_i hnil
      exact .inr ⟨hnil, hagain⟩
    · rename_i a rest hcons
      have hlast : (a :: rest).getLast? = some .closed := by
        rcases h with hlast | ⟨hnil, -⟩
        · rwa [← harrivals, hcons] at hlast
        · rw [← harrivals, hcons] at hnil
          cases hnil
      have hrest : ∀ c' : Connection, c'.arrivals = rest → a ≠ .closed → c'.Closing := by
        intro c' hc' hne
        cases rest with
        | nil => exact absurd (Option.some.inj hlast) hne
        | cons b rest => exact .inl (by rw [hc', ← hlast, List.getLast?_cons_cons])
      cases a with
      | closed =>
        cases rest with
        | nil => exact .inr ⟨rfl, hagain⟩
        | cons b rest => exact .inl (by rw [← hlast, List.getLast?_cons_cons]; rfl)
      | data bytes => exact hrest _ (congrArg arrivals (decode_snd _)) (by simp)
      | silence late => exact hrest _ rfl (by simp)
      | failed t => cases t <;> exact hrest _ rfl (by simp)
      | cancelled => exact hrest _ rfl (by simp)
  · rename_i hfound
    rw [hsnd]
    rcases h with hlast | ⟨-, hmore⟩
    · exact .inl hlast
    · refine absurd ?_ (hfound false c.decode.2)
      unfold Connection.decode
      rcases hdecode : c.decoder.decode with ⟨outcome, d⟩
      rw [hdecode] at hmore
      obtain rfl := hmore
      rfl

theorem Hears.closing {units : List Message} (hears : Hears c units c') (h : c.Closing) :
    c'.Closing := by
  induction hears with
  | refl c => exact h
  | other decoder arrivals _ ih =>
    apply ih
    unfold Closing
    rw [decoder, arrivals]
    exact h
  | unit polled _ ih =>
    have hpoll := h.poll
    rw [polled] at hpoll
    exact ih hpoll
  | nothing polled _ _ ih =>
    have hpoll := h.poll
    rw [polled] at hpoll
    exact ih hpoll

/-- When the end was reached the next unit is not pending as a whole. -/
theorem Ahead.not_pending {left : List Message} (h : Ahead (m :: left) c) (hclosing : c.Closing)
    (hend : c.arrivals = []) : ¬ written [m] <+: c.stream := by
  rintro ⟨rest, hrest⟩
  obtain ⟨piece, hbytes, hbears⟩ := Decoder.exists_bears (h.formed m List.mem_cons_self)
  have hmore : c.decoder.decode.1 = .more := by
    rcases hclosing with hlast | ⟨-, hmore⟩
    · rw [hend] at hlast
      cases hlast
    · exact hmore
  have hpending : c.decoder = ⟨piece ++ rest⟩ := by
    have hstream : c.stream = c.decoder.pending := by rw [stream, hend, brought, List.append_nil]
    rw [hstream] at hrest
    have hpiece : written [m] = piece := by simp [written, hbytes]
    rw [← hpiece, hrest]
  rw [hpending] at hmore
  rcases hbears.found rest with hfound | ⟨-, hnot⟩
  · rw [hfound] at hmore
    cases hmore
  · exact hnot hmore

end Close

section Response

theorem early_decode (c : Connection) : c.decode.2.early = c.early := by
  rw [decode_snd]

theorem early_poll (c : Connection) : c.poll.2.early = c.early := by
  unfold poll
  split
  · rename_i late c₁ hdecode
    have hsame : c₁.early = c.early := by
      have hearly := c.early_decode
      rwa [hdecode] at hearly
    unfold receive
    split
    · exact hsame
    · rename_i a rest hcons
      cases a with
      | data bytes => exact (early_decode _).trans hsame
      | silence late => exact hsame
      | closed => exact hsame
      | failed t => cases t <;> exact hsame
      | cancelled => exact hsame
  · exact c.early_decode

/-- Frames are kept in order, as many as there is room for. -/
theorem early_keep (hc : c.early.length ≤ earlyLimit) (f : Frame) :
    (c.keep f).early = (c.early ++ [f]).take earlyLimit := by
  unfold keep
  split
  · rename_i hroom
    have hlength : (c.early ++ [f]).length ≤ earlyLimit := by
      rw [List.length_append, List.length_singleton]
      omega
    rw [List.take_of_length_le hlength]
  · rw [List.take_append_of_le_length (by omega), List.take_of_length_le hc]

theorem take_append_take (l m : List Frame) (n : Nat) :
    (l.take n ++ m).take n = (l ++ m).take n := by
  rw [List.take_append, List.take_append, List.take_take, Nat.min_self, List.length_take]
  by_cases hle : l.length ≤ n
  · rw [Nat.min_eq_right hle]
  · rw [Nat.min_eq_left (by omega), Nat.sub_self, Nat.sub_eq_zero_of_le (by omega)]

/-- What is heard until a response is found, and what is kept of it. -/
def Awaits (c : Connection) (r : Response) (c' : Connection) : Prop :=
  ∃ before, Hears c (before ++ [.response r]) c' ∧
    c'.early = (c.early ++ framesOf before).take earlyLimit

theorem Awaits.early_le {r : Response} (h : c.Awaits r c') : c'.early.length ≤ earlyLimit := by
  obtain ⟨before, -, hkept⟩ := h
  rw [hkept]
  exact List.length_take_le _ _

theorem Awaits.trans {r r' : Response} (h : c.Awaits r c') (h' : c'.Awaits r' c'') :
    c.Awaits r' c'' := by
  obtain ⟨before, hears, hkept⟩ := h
  obtain ⟨between, hears', hkept'⟩ := h'
  refine ⟨before ++ .response r :: between, ?_, ?_⟩
  · have hboth := hears.trans hears'
    simpa using hboth
  · have hframes : framesOf (before ++ .response r :: between) =
        framesOf before ++ framesOf between := framesOf_append before _
    rw [hkept', hkept, take_append_take, hframes, List.append_assoc]

theorem hears_readUpTo {n fuel : Nat} {r : Response} (hc : c.early.length ≤ earlyLimit)
    (h : readUpTo n fuel c = (.ok r, c')) : c.Awaits r c' := by
  induction fuel generalizing c with
  | zero => cases h
  | succ fuel ih =>
    unfold readUpTo at h
    split at h
    · cases h
    have hearly := c.early_poll
    split at h
    · cases h
    · rename_i r' c₁ hpoll
      rw [hpoll] at hearly
      dsimp only at hearly
      split at h
      · obtain ⟨hr, rfl⟩ := Prod.mk.inj h
        obtain rfl := Except.ok.inj hr
        refine ⟨[], .unit hpoll (.refl _), ?_⟩
        rw [hearly, framesOf, List.filterMap_nil, List.append_nil, List.take_of_length_le hc]
      · obtain ⟨before, hears, hkept⟩ := ih (hearly ▸ hc) h
        refine ⟨.response r' :: before, .unit hpoll hears, ?_⟩
        rw [hkept, hearly]
        rfl
    · rename_i q c₁ hpoll
      rw [hpoll] at hearly
      dsimp only at hearly
      have hanswer := c₁.untouched_write (.response (c₁.answerTo q))
      split at h
      · rename_i c₂ hanswered
        rw [show c₁.write (.response (c₁.answerTo q)) = (.ok (), c₂) from hanswered] at hanswer
        have hsame : c₂.early = c.early := hanswer.early.trans hearly
        obtain ⟨before, hears, hkept⟩ := ih (hsame ▸ hc) h
        refine ⟨.request q :: before, .unit hpoll (hanswer.hears.trans hears), ?_⟩
        rw [hkept, hsame]
        rfl
      · cases h
    · rename_i f c₁ hpoll
      rw [hpoll] at hearly
      dsimp only at hearly
      have hkeep : (c₁.keep f).early = (c.early ++ [f]).take earlyLimit := by
        rw [early_keep (hearly ▸ hc), hearly]
      have hsame : Hears c₁ [] (c₁.keep f) := by
        unfold keep
        split
        · exact hears_nil rfl rfl
        · exact .refl _
      obtain ⟨before, hears, hkept⟩ := ih (by rw [hkeep]; exact List.length_take_le _ _) h
      refine ⟨.frame f :: before, .unit hpoll (hsame.trans hears), ?_⟩
      rw [hkept, hkeep, take_append_take]
      simp [framesOf, Message.frame?]
    · cases h
    · rename_i c₁ hpoll
      rw [hpoll] at hearly
      dsimp only at hearly
      obtain ⟨before, hears, hkept⟩ := ih (hearly ▸ hc) h
      refine ⟨before, .nothing hpoll (by simp) hears, ?_⟩
      rw [hkept, hearly]

/-- What is heard in an exchange ends with the response. -/
theorem hears_exchange {request : Request} {r : Response} (hc : c.early.length ≤ earlyLimit)
    (h : exchange c request = (.ok r, c')) : c.Awaits r c' := by
  have hsent := c.untouched_sendRequest request
  unfold exchange at h
  split at h
  · rename_i n c₁ hrequest
    rw [hrequest] at hsent
    obtain ⟨before, hears, hkept⟩ := hears_readUpTo (hsent.early ▸ hc) h
    exact ⟨before, hsent.hears.trans hears, by rw [hkept, hsent.early]⟩
  · cases h

end Response

end Connection

end Rtsp
