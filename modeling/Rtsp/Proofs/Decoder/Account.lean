import Mathlib.Data.List.Forall2
import Rtsp.Proofs.Decoder.Reading
import Rtsp.Proofs.Message.Parsed

/-!
What becomes of every byte. Behind the line breaks at the front a look takes a frame with the four
bytes before its payload, or a text as long as its head and the body that the head announces, and
that also if no message can be made of it. Or it takes nothing, and then a second look finds the
same. So however many looks are made, a stream is the pieces that they took, one after another, and
what is left of it; and as every piece that is taken has a byte, looks that go on only after such
pieces come to an end.
-/
namespace Rtsp

namespace Decoder

/-- Nothing is taken: more bytes are needed, or what stands in front never can be. -/
def Outcome.Settled : Outcome → Prop
  | .more | .overflow | .refused .tooBig | .refused .contentLength => True
  | .message _ | .refused .empty | .refused .requestLine | .refused .statusLine
  | .refused .header => False

instance : DecidablePred Outcome.Settled := fun outcome => by
  unfold Outcome.Settled
  split <;> infer_instance

/-- The body of a message as a text; there is none without bytes. -/
def bodyOf (bytes : Bytes) : Option Text :=
  if bytes = [] then none else some (Text.Utf8.lossy bytes)

/-- How a look accounts for bytes that do not begin with a line break: what it takes from their
front for its outcome, and what is left. -/
inductive Accounts : Outcome → Bytes → Bytes → Prop
  | kept {outcome : Outcome} (bytes : Bytes) (settled : outcome.Settled) :
      Accounts outcome bytes bytes
  | frame (channel high low : UInt8) (payload rest : Bytes)
      (measured : payload.length = high.toNat * 256 + low.toNat) :
      Accounts (.message (.frame ⟨channel, payload⟩))
        (Frame.marker :: channel :: high :: low :: (payload ++ rest)) rest
  | text {outcome : Outcome} (head body rest : Bytes)
      (ended : headLength? (head ++ (body ++ rest)) = some head.length)
      (announced : bodyLength (Text.Utf8.lossy head) = .ok body.length)
      (made : outcome = .ofParse (parse (Text.Utf8.lossy head) (bodyOf body)))
      (taken : ¬ outcome.Settled) :
      Accounts outcome (head ++ (body ++ rest)) rest

section Look

variable {outcome : Outcome} {bytes rest : Bytes}

/-- A text that was taken is a message, or at fault in its start line or its header. -/
theorem not_settled_of_parse (head : Text) (body : Option Text) :
    ¬ (Outcome.ofParse (parse head body)).Settled := by
  cases hparse : parse head body with
  | ok m => exact id
  | error cause => rcases cause_of_parse hparse with rfl | rfl | rfl | rfl <;> exact id

theorem eq_ok_of_ofParse {x : Except ParseFault Message} {m : Message}
    (h : .message m = Outcome.ofParse x) : x = .ok m := by
  cases x with
  | ok m' => exact congrArg Except.ok (Outcome.message.inj h).symm
  | error cause => cases h

theorem messageAt_append (head body rest : Bytes) :
    messageAt (head ++ (body ++ rest)) head.length body.length =
      parse (Text.Utf8.lossy head) (bodyOf body) := by
  simp only [messageAt, bodyOf, List.take_left, List.drop_left, List.length_eq_zero_iff]

theorem exists_split {h n : Nat} (hle : h + n ≤ bytes.length) :
    ∃ head body rest, bytes = head ++ (body ++ rest) ∧ head.length = h ∧ body.length = n := by
  refine ⟨bytes.take h, (bytes.drop h).take n, (bytes.drop h).drop n, ?_, ?_, ?_⟩
  · rw [List.take_append_drop, List.take_append_drop]
  · rw [List.length_take, Nat.min_eq_left (by omega)]
  · rw [List.length_take, List.length_drop, Nat.min_eq_left (by omega)]

theorem accounts_decodeText (bytes : Bytes) :
    Accounts (decodeText bytes).1 bytes (decodeText bytes).2.pending := by
  rcases decodeText_cases bytes with h | ⟨cause, hcause, h⟩ | h | ⟨k, n, ha, -, hb, h⟩
  · rw [h]
    exact .kept bytes trivial
  · rw [h]
    exact .kept bytes (by rcases hcause with rfl | rfl <;> trivial)
  · rw [h]
    exact .kept bytes trivial
  · obtain ⟨head, body, rest, rfl, rfl, rfl⟩ := exists_split hb
    have hdrop : (head ++ (body ++ rest)).drop (head.length + body.length) = rest := by
      rw [← List.append_assoc, ← List.length_append, List.drop_left]
    obtain ⟨hended, hannounced⟩ := ha
    rw [List.take_left] at hannounced
    rw [h, messageAt_append, hdrop]
    exact .text head body rest hended hannounced rfl (not_settled_of_parse _ _)

theorem accounts_decodeFrame (bytes : Bytes) :
    Accounts (decodeFrame bytes).1 (Frame.marker :: bytes) (decodeFrame bytes).2.pending := by
  rcases decodeFrame_cases bytes with h | ⟨channel, high, low, payload, rest, rfl, hl, h⟩
  · rw [h]
    exact .kept _ trivial
  · rw [h]
    exact .frame channel high low payload rest hl

/-- Behind the line breaks every byte is taken for the outcome, or left. -/
theorem accounts_decode (s : Bytes) :
    Accounts (decode ⟨s⟩).1 (skip s) (decode ⟨s⟩).2.pending := by
  rw [← decode_skip]
  cases hs : skip s with
  | nil =>
    rw [decode_of_skip_eq_nil rfl]
    exact .kept [] trivial
  | cons b tail =>
    rw [decode_cons (not_isBreak_of_skip hs)]
    split
    · rename_i hmarker
      exact hmarker ▸ accounts_decodeFrame tail
    · exact accounts_decodeText (b :: tail)

theorem Accounts.eq_of_settled (h : Accounts outcome bytes rest) (hs : outcome.Settled) :
    rest = bytes := by
  cases h with
  | kept => rfl
  | frame => exact absurd hs id
  | text _ _ _ _ _ _ taken => exact absurd hs taken

/-- What is taken would be taken in the same way if nothing came behind it. -/
theorem Accounts.alone (h : Accounts outcome bytes rest) :
    ∃ piece, bytes = piece ++ rest ∧ Accounts outcome piece [] ∧
      (¬ outcome.Settled → piece ≠ []) := by
  cases h with
  | kept bytes settled => exact ⟨[], rfl, .kept [] settled, fun hs => absurd settled hs⟩
  | frame channel high low payload rest measured =>
    refine ⟨Frame.marker :: channel :: high :: low :: (payload ++ []), by simp, ?_, by simp⟩
    exact .frame channel high low payload [] measured
  | text head body rest ended announced made taken =>
    have hended : headLength? (head ++ (body ++ [])) = some head.length := by
      have htake := headLength?_take ended (Nat.le_add_right head.length body.length)
      rwa [← List.append_assoc, ← List.length_append, List.take_left,
        ← List.append_nil (head ++ body), List.append_assoc] at htake
    have hpos := (headLength?_bounds ended).1
    refine ⟨head ++ (body ++ []), by simp, .text head body [] hended announced made taken, ?_⟩
    exact fun _ hnil => by simp [(List.append_eq_nil_iff.mp hnil).1] at hpos

theorem skip_eq_self_of_append {u v : Bytes} (h : skip (u ++ v) = u ++ v) : skip u = u := by
  cases u with
  | nil => rfl
  | cons b u => exact skip_cons_of_not (not_isBreak_of_skip h) u

/-- The bytes that a look takes, line breaks included, are accounted for by themselves. -/
theorem exists_piece (s : Bytes) :
    ∃ piece, s = piece ++ (decode ⟨s⟩).2.pending ∧ Accounts (decode ⟨s⟩).1 (skip piece) [] ∧
      (¬ (decode ⟨s⟩).1.Settled → piece ≠ []) := by
  obtain ⟨breaks, hbreaks, hsplit⟩ := exists_breaks s
  obtain ⟨piece, hskip, hpiece, hne⟩ := (accounts_decode s).alone
  have hself : skip piece = piece := by
    apply skip_eq_self_of_append
    rw [← hskip, skip_skip]
  refine ⟨breaks ++ piece, ?_, ?_, fun hs hnil => hne hs (List.append_eq_nil_iff.mp hnil).2⟩
  · rw [List.append_assoc, ← hskip, ← hsplit]
  · rwa [skip_append_of_skip_eq_nil hbreaks, hself]

end Look

section Looks

/-- One look after another, whatever they bring. -/
def looks : Nat → Decoder → List Outcome × Decoder
  | 0, d => ([], d)
  | k + 1, d =>
    let (outcome, rest) := d.decode
    let (more, last) := looks k rest
    (outcome :: more, last)

theorem looks_succ (k : Nat) (d : Decoder) :
    looks (k + 1) d = (d.decode.1 :: (looks k d.decode.2).1, (looks k d.decode.2).2) := rfl

/-- However many looks are made, the stream is what they took in turn, and what is left. -/
theorem exists_pieces_of_looks (k : Nat) (s : Bytes) :
    ∃ pieces, s = pieces.flatten ++ (looks k ⟨s⟩).2.pending ∧
      List.Forall₂ (fun outcome piece => Accounts outcome (skip piece) [] ∧
        (¬ outcome.Settled → piece ≠ [])) (looks k ⟨s⟩).1 pieces := by
  induction k generalizing s with
  | zero => exact ⟨[], rfl, .nil⟩
  | succ k ih =>
    obtain ⟨piece, hsplit, hpiece⟩ := exists_piece s
    obtain ⟨pieces, hrest, hpieces⟩ := ih (decode ⟨s⟩).2.pending
    refine ⟨piece :: pieces, ?_, .cons hpiece hpieces⟩
    rw [List.flatten_cons, List.append_assoc, looks_succ, ← hrest]
    exact hsplit

/-- Looks that take something are no more than the bytes that were taken. -/
theorem countP_le_length_flatten {outcomes : List Outcome} {pieces : List Bytes}
    (h : List.Forall₂ (fun outcome piece => Accounts outcome (skip piece) [] ∧
      (¬ outcome.Settled → piece ≠ [])) outcomes pieces) :
    outcomes.countP (fun outcome => ¬ outcome.Settled) ≤ pieces.flatten.length := by
  induction h with
  | nil => exact Nat.le_refl 0
  | @cons outcome piece outcomes pieces hpiece _ ih =>
    rw [List.countP_cons, List.flatten_cons, List.length_append]
    by_cases hs : outcome.Settled
    · simp only [hs, not_true_eq_false, decide_false, Bool.false_eq_true, if_false]
      omega
    · have hpos := List.length_pos_iff.mpr (hpiece.2 hs)
      simp only [hs, not_false_eq_true, decide_true, if_true]
      omega

/-- A drain is looks up to the first that brings no unit, and there is one within the bytes. -/
theorem drain_eq_looks (s : Bytes) :
    ∃ k ≤ s.length, drain ⟨s⟩ = looks (k + 1) ⟨s⟩ ∧
      (∀ outcome ∈ (looks k ⟨s⟩).1, ∃ m, outcome = .message m) ∧
      (looks k ⟨s⟩).2.decode.1.message? = none := by
  induction hn : s.length using Nat.strong_induction_on generalizing s with
  | h n ih =>
    rcases hd : decode ⟨s⟩ with ⟨outcome, rest⟩
    cases hm : outcome.message? with
    | none =>
      refine ⟨0, Nat.zero_le n, ?_, fun _ h => absurd h List.not_mem_nil, ?_⟩
      · rw [drain_of_not_message hd hm, looks_succ, hd]
        rfl
      · change (decode ⟨s⟩).1.message? = none
        rw [hd, hm]
    | some m =>
      rw [Outcome.message?_eq_some_iff] at hm
      subst hm
      have hlt := length_lt_of_decode_eq_message hd
      obtain ⟨k, hk, hdrain, hunits, hlast⟩ := ih rest.pending.length (hn ▸ hlt) rest.pending rfl
      refine ⟨k + 1, by omega, ?_, ?_, ?_⟩
      · rw [drain_of_message hd, looks_succ (k + 1), hd, hdrain]
      · rw [looks_succ, hd]
        exact List.forall_mem_cons.mpr ⟨⟨m, rfl⟩, hunits⟩
      · rw [looks_succ, hd]
        exact hlast

end Looks

/-- Every byte is accounted for, whatever a server sends. A look that takes nothing leaves all but
the line breaks, and would be made in vain again; any other takes one frame, or one head with the
body that it announces. A drain comes to an end, as do all looks that go on only when something was
taken; and every byte before what is left was taken once, in its order. -/
theorem every_byte_accounted (s : Bytes) :
    Accounts (decode ⟨s⟩).1 (skip s) (decode ⟨s⟩).2.pending ∧
    ((decode ⟨s⟩).1.Settled → (decode ⟨s⟩).2 = ⟨skip s⟩ ∧ decode ⟨skip s⟩ = decode ⟨s⟩) ∧
    (∃ k ≤ s.length, drain ⟨s⟩ = looks (k + 1) ⟨s⟩ ∧
      (∀ outcome ∈ (looks k ⟨s⟩).1, ∃ m, outcome = .message m) ∧
      (looks k ⟨s⟩).2.decode.1.message? = none) ∧
    ∀ k, (looks k ⟨s⟩).1.countP (fun outcome => ¬ outcome.Settled) ≤ s.length ∧
      ∃ pieces, s = pieces.flatten ++ (looks k ⟨s⟩).2.pending ∧
        List.Forall₂ (fun outcome piece => Accounts outcome (skip piece) [])
          (looks k ⟨s⟩).1 pieces := by
  have haccounts := accounts_decode s
  refine ⟨haccounts, fun hs => ⟨?_, decode_skip s⟩, drain_eq_looks s, fun k => ?_⟩
  · rw [← haccounts.eq_of_settled hs]
  · obtain ⟨pieces, hsplit, hpieces⟩ := exists_pieces_of_looks k s
    have hcount := countP_le_length_flatten hpieces
    have hlength := congrArg List.length hsplit
    rw [List.length_append] at hlength
    exact ⟨by omega, pieces, hsplit, hpieces.imp fun _ _ h => h.1⟩

end Decoder

end Rtsp
