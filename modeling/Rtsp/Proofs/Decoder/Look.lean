import Mathlib.Data.List.DropRight
import Rtsp.Decoder

/-!
One look of the decoder. Line breaks at the front count for nothing. A unit that is found takes a
beginning of the bytes, and that beginning alone would have been found to be the same unit with
nothing left behind it; while more bytes are missing everything but the line breaks is kept.
-/
namespace Rtsp.Decoder

/-- The bytes without the line breaks at their front. -/
def skip (bytes : Bytes) : Bytes := bytes.dropWhile isBreak

theorem skip_skip (s : Bytes) : skip (skip s) = skip s := List.dropWhile_idempotent isBreak s

theorem skip_cons_of_not {b : UInt8} (hb : isBreak b = false) (rest : Bytes) :
    skip (b :: rest) = b :: rest := by
  simp [skip, hb]

theorem not_isBreak_of_skip {s rest : Bytes} {b : UInt8} (h : skip s = b :: rest) :
    isBreak b = false := by
  have hhead := List.head?_dropWhile_not isBreak s
  rw [show s.dropWhile isBreak = b :: rest from h] at hhead
  exact hhead

theorem skip_append_of_skip_eq_nil {u : Bytes} (h : skip u = []) (v : Bytes) :
    skip (u ++ v) = skip v := by
  have hall : ∀ b ∈ u, isBreak b = true := List.dropWhile_eq_nil_iff.mp h
  exact List.dropWhile_append_of_pos hall

theorem skip_append_of_skip_ne_nil {u : Bytes} (h : skip u ≠ []) (v : Bytes) :
    skip (u ++ v) = skip u ++ v := by
  unfold skip at h ⊢
  rw [List.dropWhile_append, if_neg (by simpa using h)]

/-- What is kept of the front does not matter for what comes behind it. -/
theorem skip_skip_append (u v : Bytes) : skip (skip u ++ v) = skip (u ++ v) := by
  by_cases h : skip u = []
  · rw [h, List.nil_append, skip_append_of_skip_eq_nil h]
  · have h' : skip (skip u) ≠ [] := by rwa [skip_skip]
    rw [skip_append_of_skip_ne_nil h', skip_append_of_skip_ne_nil h, skip_skip]

theorem exists_breaks (s : Bytes) : ∃ z, skip z = [] ∧ s = z ++ skip s := by
  refine ⟨s.takeWhile isBreak, ?_, (List.takeWhile_append_dropWhile).symm⟩
  exact List.dropWhile_eq_nil_iff.mpr fun b hb => List.mem_takeWhile_imp hb

theorem length_skip_le (s : Bytes) : (skip s).length ≤ s.length := List.length_dropWhile_le isBreak s

theorem decode_skip (s : Bytes) : decode ⟨skip s⟩ = decode ⟨s⟩ := by
  have hskip : (skip s).dropWhile isBreak = s.dropWhile isBreak := skip_skip s
  unfold decode
  simp only [hskip]

theorem decode_of_skip_eq_nil {s : Bytes} (h : skip s = []) : decode ⟨s⟩ = (.more, ⟨[]⟩) := by
  have hskip : s.dropWhile isBreak = [] := h
  unfold decode
  simp only [hskip]

theorem decode_cons {b : UInt8} (hb : isBreak b = false) (rest : Bytes) :
    decode ⟨b :: rest⟩ =
      if b = Frame.marker then decodeFrame rest else decodeText (b :: rest) := by
  have hskip : (b :: rest).dropWhile isBreak = b :: rest := skip_cons_of_not hb rest
  unfold decode
  simp only [hskip]

section Position

variable {pattern u v : Bytes} {k : Nat}

theorem positionFrom?_eq (pattern : Bytes) (i : Nat) (bytes : Bytes) :
    positionFrom? pattern i bytes = (position? pattern bytes).map (· + i) := by
  unfold position?
  induction bytes generalizing i with
  | nil => rfl
  | cons b rest ih =>
    by_cases h : pattern.isPrefixOf (b :: rest) = true
    · simp [positionFrom?, h]
    · simp only [positionFrom?, h, Bool.false_eq_true, if_false]
      rw [ih (i + 1), ih (0 + 1), Option.map_map]
      congr 1
      funext j
      simp only [Function.comp_apply]
      omega

theorem position?_cons (pattern : Bytes) (b : UInt8) (rest : Bytes) :
    position? pattern (b :: rest) =
      if pattern <+: b :: rest then some 0 else (position? pattern rest).map (· + 1) := by
  simp only [position?, positionFrom?, List.isPrefixOf_iff_prefix]
  rw [positionFrom?_eq]
  rfl

theorem position?_le (h : position? pattern u = some k) : k + pattern.length ≤ u.length := by
  induction u generalizing k with
  | nil => simp [position?, positionFrom?] at h
  | cons b rest ih =>
    rw [position?_cons] at h
    split at h
    · rename_i hp
      have hl := hp.length_le
      simp only [Option.some.injEq] at h
      omega
    · obtain ⟨j, hj, rfl⟩ := Option.map_eq_some_iff.mp h
      have := ih hj
      simp only [List.length_cons]
      omega

/-- A pattern that was found stays where it is when bytes are added. -/
theorem position?_append (h : position? pattern u = some k) (v : Bytes) :
    position? pattern (u ++ v) = some k := by
  induction u generalizing k with
  | nil => simp [position?, positionFrom?] at h
  | cons b rest ih =>
    have hle := position?_le h
    rw [position?_cons] at h
    rw [List.cons_append, position?_cons]
    by_cases hp : pattern <+: b :: rest
    · rw [if_pos hp] at h
      have hp' : pattern <+: b :: (rest ++ v) := hp.trans (List.prefix_append (b :: rest) v)
      rw [if_pos hp', h]
    · rw [if_neg hp] at h
      have hp' : ¬ pattern <+: b :: (rest ++ v) := fun hq =>
        hp (List.prefix_of_prefix_length_le hq (List.prefix_append (b :: rest) v) (by omega))
      obtain ⟨j, hj, rfl⟩ := Option.map_eq_some_iff.mp h
      rw [if_neg hp', ih hj, Option.map_some]

theorem position?_eq_none_of_append (h : position? pattern (u ++ v) = none) :
    position? pattern u = none := by
  cases hu : position? pattern u with
  | none => rfl
  | some k => simp [position?_append hu v] at h

theorem position?_eq_none_of_suffix (h : position? pattern (u ++ v) = none) :
    position? pattern v = none := by
  induction u with
  | nil => exact h
  | cons b u ih =>
    rw [List.cons_append, position?_cons] at h
    split at h
    · simp at h
    · exact ih (Option.map_eq_none_iff.mp h)

/-- A pattern is found in every beginning that holds its first occurrence. -/
theorem position?_of_append (h : position? pattern (u ++ v) = some k)
    (hk : k + pattern.length ≤ u.length) (hne : pattern ≠ []) : position? pattern u = some k := by
  induction u generalizing k with
  | nil =>
    simp only [List.length_nil, Nat.le_zero, Nat.add_eq_zero_iff, List.length_eq_zero_iff] at hk
    exact absurd hk.2 hne
  | cons b rest ih =>
    rw [List.cons_append, position?_cons] at h
    rw [position?_cons]
    by_cases hp : pattern <+: b :: rest
    · have hp' : pattern <+: b :: (rest ++ v) := hp.trans (List.prefix_append (b :: rest) v)
      rw [if_pos hp'] at h
      rw [if_pos hp, h]
    · have hp' : ¬ pattern <+: b :: (rest ++ v) := fun hq =>
        hp (List.prefix_of_prefix_length_le hq (List.prefix_append (b :: rest) v) (by omega))
      rw [if_neg hp'] at h
      rw [if_neg hp]
      obtain ⟨j, hj, rfl⟩ := Option.map_eq_some_iff.mp h
      simp only [List.length_cons] at hk
      rw [ih hj (by omega), Option.map_some]

end Position

theorem headLength?_bounds {bytes : Bytes} {h : Nat} (hh : headLength? bytes = some h) :
    0 < h ∧ h ≤ bytes.length := by
  unfold headLength? at hh
  split at hh
  · rename_i k hk
    have := position?_le hk
    simp only [List.length_cons, List.length_nil, Option.some.injEq] at this hh
    omega
  · obtain ⟨k, hk, rfl⟩ := Option.map_eq_some_iff.mp hh
    have := position?_le hk
    simp only [List.length_cons, List.length_nil] at this
    omega

/-- A head is found in every beginning that holds it. -/
theorem headLength?_take {bytes : Bytes} {h n : Nat} (hh : headLength? bytes = some h)
    (hn : h ≤ n) : headLength? (bytes.take n) = some h := by
  have hb := headLength?_bounds hh
  have hsplit : bytes.take n ++ bytes.drop n = bytes := List.take_append_drop n bytes
  have hlen : (bytes.take n).length = min n bytes.length := List.length_take
  unfold headLength? at hh ⊢
  cases hc : position? [0x0D, 0x0A, 0x0D, 0x0A] bytes with
  | some k =>
    simp only [hc, Option.some.injEq] at hh
    rw [← hsplit] at hc
    have hk := position?_of_append hc (by simp only [List.length_cons, List.length_nil]; omega)
      (by simp)
    simp only [hk, hh]
  | none =>
    simp only [hc] at hh
    rw [← hsplit] at hc
    obtain ⟨k, hk, rfl⟩ := Option.map_eq_some_iff.mp hh
    rw [← hsplit] at hk
    have hk' := position?_of_append hk (by simp only [List.length_cons, List.length_nil]; omega)
      (by simp)
    simp only [position?_eq_none_of_append hc, hk', Option.map_some]

/-- A head of `h` bytes at the beginning announces a body of `n`. -/
def Announces (bytes : Bytes) (h n : Nat) : Prop :=
  headLength? bytes = some h ∧ bodyLength (Text.Utf8.lossy (bytes.take h)) = .ok n

/-- The message that a head of `h` bytes and a body of `n` make. -/
def messageAt (bytes : Bytes) (h n : Nat) : Except ParseFault Message :=
  parse (Text.Utf8.lossy (bytes.take h))
    (if n = 0 then none else some (Text.Utf8.lossy ((bytes.drop h).take n)))

section Text

variable {bytes : Bytes} {h n k : Nat}

theorem Announces.take (ha : Announces bytes h n) (hk : h ≤ k) : Announces (bytes.take k) h n := by
  refine ⟨headLength?_take ha.1 hk, ?_⟩
  rw [List.take_take, Nat.min_eq_left hk]
  exact ha.2

theorem messageAt_take (hk : h + n ≤ k) : messageAt (bytes.take k) h n = messageAt bytes h n := by
  have hhead : (bytes.take k).take h = bytes.take h := by
    rw [List.take_take, Nat.min_eq_left (by omega)]
  have hbody : ((bytes.take k).drop h).take n = (bytes.drop h).take n := by
    rw [List.drop_take, List.take_take, Nat.min_eq_left (by omega)]
  simp only [messageAt, hhead, hbody]

theorem limit_lt_bound : limit < Text.bound 64 := by decide

theorem decodeText_of_headless (hh : headLength? bytes = none) :
    decodeText bytes = (if limit < bytes.length then .refused .tooBig else .more, ⟨bytes⟩) := by
  have hiff : (holds (limit + 1) bytes = true) = (limit < bytes.length) := propext holds_iff
  simp only [decodeText, hh, hiff]

theorem decodeText_of_announces (ha : Announces bytes h n) :
    decodeText bytes =
      if Text.bound 64 ≤ h + n then (.overflow, ⟨bytes⟩)
      else if limit < h + n then (.refused .tooBig, ⟨bytes⟩)
      else if bytes.length < h + n then (.more, ⟨bytes⟩)
      else (.ofParse (messageAt bytes h n), ⟨bytes.drop (h + n)⟩) := by
  have hiff : (holds (h + n) bytes = false) = (bytes.length < h + n) := by
    rw [← Bool.not_eq_true, holds_iff, Nat.not_le]
  simp only [decodeText, ha.1, ha.2, hiff]
  rfl

theorem decodeText_complete (ha : Announces bytes h n) (hl : h + n ≤ limit)
    (hb : h + n ≤ bytes.length) :
    decodeText bytes = (.ofParse (messageAt bytes h n), ⟨bytes.drop (h + n)⟩) := by
  have hbound := limit_lt_bound
  rw [decodeText_of_announces ha, if_neg (by omega), if_neg (by omega), if_neg (by omega)]

/-- A text that ends within its head, or within the body that the head announces, is waited for. -/
theorem decodeText_incomplete (ha : Announces bytes h n) (hl : h + n ≤ limit)
    (hb : bytes.length < h + n) : decodeText bytes = (.more, ⟨bytes⟩) := by
  have hbound := limit_lt_bound
  rw [decodeText_of_announces ha, if_neg (by omega), if_neg (by omega), if_pos hb]

/-- A length that is no number is the only fault of a length field. -/
theorem eq_contentLength_of_bodyLength {head : Text} {cause : ParseFault}
    (h : bodyLength head = .error cause) : cause = .contentLength := by
  unfold bodyLength at h
  split at h
  · cases h
  split at h
  · cases h
  · exact (Except.error.inj h).symm

/-- All that a look at a text can bring. -/
theorem decodeText_cases (bytes : Bytes) :
    decodeText bytes = (.more, ⟨bytes⟩) ∨
    (∃ cause, (cause = .tooBig ∨ cause = .contentLength) ∧
      decodeText bytes = (.refused cause, ⟨bytes⟩)) ∨
    decodeText bytes = (.overflow, ⟨bytes⟩) ∨
    (∃ h n, Announces bytes h n ∧ h + n ≤ limit ∧ h + n ≤ bytes.length ∧
      decodeText bytes = (.ofParse (messageAt bytes h n), ⟨bytes.drop (h + n)⟩)) := by
  cases hh : headLength? bytes with
  | none =>
    rw [decodeText_of_headless hh]
    split
    · exact Or.inr (Or.inl ⟨_, Or.inl rfl, rfl⟩)
    · exact Or.inl rfl
  | some h =>
    cases hn : bodyLength (Text.Utf8.lossy (bytes.take h)) with
    | error cause =>
      refine Or.inr (Or.inl ⟨cause, Or.inr (eq_contentLength_of_bodyLength hn), ?_⟩)
      simp only [decodeText, hh, hn]
    | ok n =>
      have ha : Announces bytes h n := ⟨hh, hn⟩
      rw [decodeText_of_announces ha]
      split
      · exact Or.inr (Or.inr (Or.inl rfl))
      split
      · exact Or.inr (Or.inl ⟨_, Or.inl rfl, rfl⟩)
      split
      · exact Or.inl rfl
      · exact Or.inr (Or.inr (Or.inr ⟨h, n, ha, by omega, by omega, rfl⟩))

/-- A text that is found takes a beginning of the bytes, in which it is found as well. -/
theorem decodeText_eq_message {m : Message} {d : Decoder}
    (hd : decodeText bytes = (.message m, d)) :
    ∃ k, 0 < k ∧ k ≤ bytes.length ∧ d = ⟨bytes.drop k⟩ ∧
      decodeText (bytes.take k) = (.message m, ⟨[]⟩) := by
  rcases decodeText_cases bytes with h | ⟨cause, -, h⟩ | h | ⟨h, n, ha, hl, hb, h'⟩
  · simp [h] at hd
  · simp [h] at hd
  · simp [h] at hd
  · rw [h'] at hd
    obtain ⟨hm, rfl⟩ := Prod.mk.inj hd
    have hpos := (headLength?_bounds ha.1).1
    have hlen : (bytes.take (h + n)).length = h + n := by
      rw [List.length_take, Nat.min_eq_left hb]
    refine ⟨h + n, by omega, hb, rfl, ?_⟩
    rw [decodeText_complete (ha.take (by omega)) hl (by omega), messageAt_take (Nat.le_refl _), hm,
      List.drop_take, Nat.sub_self, List.take_zero]

/-- A look that has found its head, and has all that it needs, finds the same in more bytes as long
as the head does not grow with them. -/
theorem decodeText_append {u v : Bytes} (hu : headLength? u = some h)
    (huv : headLength? (u ++ v) = some h) (hmore : (decodeText u).1 ≠ .more) :
    decodeText (u ++ v) = ((decodeText u).1, ⟨(decodeText u).2.pending ++ v⟩) := by
  have hle := (headLength?_bounds hu).2
  have htake : (u ++ v).take h = u.take h := List.take_append_of_le_length hle
  cases hn : bodyLength (Text.Utf8.lossy (u.take h)) with
  | error cause => simp only [decodeText, hu, huv, htake, hn]
  | ok n =>
    have ha : Announces u h n := ⟨hu, hn⟩
    have ha' : Announces (u ++ v) h n := ⟨huv, by rw [htake, hn]⟩
    rw [decodeText_of_announces ha] at hmore ⊢
    rw [decodeText_of_announces ha']
    by_cases hbound : Text.bound 64 ≤ h + n
    · simp only [if_pos hbound]
    by_cases hlimit : limit < h + n
    · simp only [if_neg hbound, if_pos hlimit]
    by_cases hshort : u.length < h + n
    · simp [if_neg hbound, if_neg hlimit, if_pos hshort] at hmore
    · have hlong : ¬ (u ++ v).length < h + n := by
        rw [List.length_append]
        omega
      have hm : messageAt (u ++ v) h n = messageAt u h n := by
        have hm : messageAt ((u ++ v).take u.length) h n = messageAt (u ++ v) h n :=
          messageAt_take (by omega)
        rwa [List.take_left, eq_comm] at hm
      have hdrop : (u ++ v).drop (h + n) = u.drop (h + n) ++ v :=
        List.drop_append_of_le_length (by omega)
      simp only [if_neg hbound, if_neg hlimit, if_neg hshort, if_neg hlong, hm, hdrop]

end Text

section Frame

variable {channel high low : UInt8} {payload rest bytes : Bytes}

theorem decodeFrame_complete (channel : UInt8) (rest : Bytes)
    (hl : payload.length = high.toNat * 256 + low.toNat) :
    decodeFrame (channel :: high :: low :: (payload ++ rest)) =
      (.message (.frame ⟨channel, payload⟩), ⟨rest⟩) := by
  have hheld : holds payload.length (payload ++ rest) = true := by
    rw [holds_iff, List.length_append]
    omega
  simp only [decodeFrame, ← hl, hheld, Bool.true_eq_false, if_false, List.take_left,
    List.drop_left]

theorem decodeFrame_incomplete (hl : rest.length < high.toNat * 256 + low.toNat) :
    decodeFrame (channel :: high :: low :: rest) =
      (.more, ⟨Frame.marker :: channel :: high :: low :: rest⟩) := by
  have hheld : holds (high.toNat * 256 + low.toNat) rest = false := by
    rw [← Bool.not_eq_true, holds_iff, Nat.not_le]
    exact hl
  simp only [decodeFrame, hheld, if_true]

theorem decodeFrame_short (hl : bytes.length < 3) :
    decodeFrame bytes = (.more, ⟨Frame.marker :: bytes⟩) := by
  match bytes with
  | [] => rfl
  | [_] => rfl
  | [_, _] => rfl
  | _ :: _ :: _ :: _ => simp only [List.length_cons] at hl; omega

/-- All that a look at a frame can bring. -/
theorem decodeFrame_cases (bytes : Bytes) :
    decodeFrame bytes = (.more, ⟨Frame.marker :: bytes⟩) ∨
    ∃ channel high low payload rest, bytes = channel :: high :: low :: (payload ++ rest) ∧
      payload.length = high.toNat * 256 + low.toNat ∧
      decodeFrame bytes = (.message (.frame ⟨channel, payload⟩), ⟨rest⟩) := by
  by_cases hshort : bytes.length < 3
  · exact Or.inl (decodeFrame_short hshort)
  obtain ⟨channel, high, low, rest, rfl⟩ :
      ∃ channel high low rest, bytes = channel :: high :: low :: rest := by
    match bytes with
    | channel :: high :: low :: rest => exact ⟨channel, high, low, rest, rfl⟩
    | [] | [_] | [_, _] => simp at hshort
  by_cases hl : rest.length < high.toNat * 256 + low.toNat
  · exact Or.inl (decodeFrame_incomplete hl)
  have hlen : (rest.take (high.toNat * 256 + low.toNat)).length =
      high.toNat * 256 + low.toNat := by
    rw [List.length_take]
    omega
  have hsplit := List.take_append_drop (high.toNat * 256 + low.toNat) rest
  refine Or.inr ⟨channel, high, low, _, _, by rw [hsplit], hlen, ?_⟩
  have hd := decodeFrame_complete channel (rest.drop (high.toNat * 256 + low.toNat)) hlen
  rwa [hsplit] at hd

theorem decodeFrame_append {u : Bytes} (hmore : (decodeFrame u).1 ≠ .more) (v : Bytes) :
    decodeFrame (u ++ v) = ((decodeFrame u).1, ⟨(decodeFrame u).2.pending ++ v⟩) := by
  rcases decodeFrame_cases u with h | ⟨channel, high, low, payload, rest, rfl, hl, h⟩
  · exact absurd (congrArg Prod.fst h) hmore
  · rw [h]
    simp only [List.cons_append, List.append_assoc]
    exact decodeFrame_complete channel (rest ++ v) hl

end Frame

/-- A unit that is found takes a beginning of what is behind the line breaks, and that beginning
alone is the same unit. -/
theorem decode_eq_message {s : Bytes} {m : Message} {d : Decoder}
    (hd : decode ⟨s⟩ = (.message m, d)) :
    ∃ c, c ≠ [] ∧ skip s = c ++ d.pending ∧ decode ⟨c⟩ = (.message m, ⟨[]⟩) := by
  rw [← decode_skip] at hd
  cases hs : skip s with
  | nil =>
    rw [hs, decode_of_skip_eq_nil rfl] at hd
    simp at hd
  | cons b rest =>
    have hb := not_isBreak_of_skip hs
    rw [hs, decode_cons hb] at hd
    split at hd
    · rename_i hmarker
      rcases decodeFrame_cases rest with h | ⟨channel, high, low, payload, after, rfl, hl, h⟩
      · simp [h] at hd
      · rw [h] at hd
        obtain ⟨hm, rfl⟩ := Prod.mk.inj hd
        refine ⟨b :: channel :: high :: low :: payload, by simp, by simp, ?_⟩
        have hd' := decodeFrame_complete channel [] hl
        rw [List.append_nil, hm] at hd'
        rw [decode_cons hb, if_pos hmarker, hd']
    · rename_i hmarker
      obtain ⟨k, hpos, hk, rfl, hd'⟩ := decodeText_eq_message hd
      refine ⟨(b :: rest).take k, by simp; omega, (List.take_append_drop k (b :: rest)).symm, ?_⟩
      obtain ⟨j, rfl⟩ : ∃ j, k = j + 1 := ⟨k - 1, by omega⟩
      rw [List.take_succ_cons] at hd' ⊢
      rw [decode_cons hb, if_neg hmarker, hd']

/-- While bytes are missing only line breaks are taken. -/
theorem decode_eq_more {s : Bytes} {d : Decoder} (hd : decode ⟨s⟩ = (.more, d)) :
    d = ⟨skip s⟩ := by
  rw [← decode_skip] at hd
  cases hs : skip s with
  | nil =>
    rw [hs, decode_of_skip_eq_nil rfl] at hd
    exact (Prod.mk.inj hd).2.symm
  | cons b rest =>
    rw [hs, decode_cons (not_isBreak_of_skip hs)] at hd
    split at hd
    · rename_i hmarker
      rcases decodeFrame_cases rest with h | ⟨channel, high, low, payload, after, -, -, h⟩
      · rw [h] at hd
        rw [← (Prod.mk.inj hd).2, hmarker]
      · simp [h] at hd
    · rcases decodeText_cases (b :: rest) with h | ⟨cause, -, h⟩ | h | ⟨h, n, -, -, -, h'⟩
      · rw [h] at hd
        exact (Prod.mk.inj hd).2.symm
      · simp [h] at hd
      · simp [h] at hd
      · rw [h'] at hd
        cases hm : messageAt (b :: rest) h n <;> simp [hm, Outcome.ofParse] at hd

theorem length_lt_of_decode_eq_message {s : Bytes} {m : Message} {d : Decoder}
    (hd : decode ⟨s⟩ = (.message m, d)) : d.pending.length < s.length := by
  obtain ⟨c, hc, hskip, -⟩ := decode_eq_message hd
  have hle := length_skip_le s
  have hpos := List.length_pos_iff.mpr hc
  rw [hskip, List.length_append] at hle
  omega

end Rtsp.Decoder
