import Rtsp.Proofs.Decoder.Account

/-!
Texts that declare too much. The length of a head and the length that it declares are added in a
word of 64 bits before the sum is compared with the limit. A sum that the word can hold is refused
above the limit, with all bytes behind the line breaks kept. One that the word cannot hold is no
refusal but an overflow, and it is the only one: the declared length is a word itself, and falls
short of the first number that is none by no more than the length of the head.
-/
namespace Rtsp.Decoder

/-- Behind the line breaks there is a text whose head is complete, is `h` bytes long, and declares
a body of `n`. -/
structure Declares (s : Bytes) (h n : Nat) : Prop where
  textual : (skip s).head? ≠ some Frame.marker
  announces : Announces (skip s) h n

section Declared

variable {s bytes : Bytes} {h n : Nat}

theorem Declares.decode_eq (hd : Declares s h n) : decode ⟨s⟩ = decodeText (skip s) := by
  have hbounds := headLength?_bounds hd.announces.1
  obtain ⟨b, tail, hs⟩ : ∃ b tail, skip s = b :: tail :=
    List.exists_cons_of_ne_nil (List.length_pos_iff.mp (by omega))
  have hmarker : b ≠ Frame.marker := by
    have htextual := hd.textual
    rw [hs, List.head?_cons] at htextual
    exact fun hb => htextual (congrArg some hb)
  rw [← decode_skip, hs, decode_cons (not_isBreak_of_skip hs), if_neg hmarker]

/-- What is declared is a word, however long the number is written. -/
theorem Declares.lt_bound (hd : Declares s h n) : n < Text.bound 64 := by
  have hlength := hd.announces.2
  unfold bodyLength at hlength
  split at hlength
  · rw [← Except.ok.inj hlength]
    decide
  split at hlength
  · rename_i hread
    exact Except.ok.inj hlength ▸ Text.natural?_lt hread
  · cases hlength

theorem decode_of_declares (hd : Declares s h n) (hover : limit < h + n) :
    decode ⟨s⟩ =
      (if Text.bound 64 ≤ h + n then .overflow else .refused .tooBig, ⟨skip s⟩) := by
  rw [hd.decode_eq, decodeText_of_announces hd.announces]
  by_cases hbound : Text.bound 64 ≤ h + n
  · rw [if_pos hbound, if_pos hbound]
  · rw [if_neg hbound, if_neg hbound, if_pos hover]

theorem exists_announces_of_overflow (ho : (decodeText bytes).1 = .overflow) :
    ∃ h n, Announces bytes h n ∧ Text.bound 64 ≤ h + n := by
  cases hh : headLength? bytes with
  | none =>
    rw [decodeText_of_headless hh] at ho
    dsimp only at ho
    split at ho <;> cases ho
  | some h =>
    cases hn : bodyLength (Text.Utf8.lossy (bytes.take h)) with
    | error cause => simp [decodeText, hh, hn] at ho
    | ok n =>
      have ha : Announces bytes h n := ⟨hh, hn⟩
      refine ⟨h, n, ha, ?_⟩
      by_contra hbound
      rw [decodeText_of_announces ha, if_neg hbound] at ho
      split at ho
      · cases ho
      split at ho
      · cases ho
      · cases hm : messageAt bytes h n <;> simp [hm, Outcome.ofParse] at ho

theorem exists_declares_of_overflow (ho : (decode ⟨s⟩).1 = .overflow) :
    ∃ h n, Declares s h n ∧ Text.bound 64 ≤ h + n := by
  rw [← decode_skip] at ho
  cases hs : skip s with
  | nil =>
    rw [hs, decode_of_skip_eq_nil rfl] at ho
    cases ho
  | cons b tail =>
    rw [hs, decode_cons (not_isBreak_of_skip hs)] at ho
    split at ho
    · rcases decodeFrame_cases tail with hf | ⟨channel, high, low, payload, rest, -, -, hf⟩
      · rw [hf] at ho
        cases ho
      · rw [hf] at ho
        cases ho
    · rename_i hmarker
      obtain ⟨h, n, ha, hbound⟩ := exists_announces_of_overflow ho
      refine ⟨h, n, ⟨?_, hs ▸ ha⟩, hbound⟩
      rw [hs, List.head?_cons]
      exact fun hb => hmarker (Option.some.inj hb)

end Declared

/-- A text that declares more than the limit is refused, with nothing taken but line breaks, exactly
if head and body together are fewer bytes than a word can count; and a look overflows exactly if
they are not. -/
theorem declared_length_counted_iff (s : Bytes) :
    (∀ h n, Declares s h n → 1024 * 1024 < h + n →
      (decode ⟨s⟩ = (.refused .tooBig, ⟨skip s⟩) ↔ h + n < UInt64.size) ∧
      (decode ⟨s⟩ = (.overflow, ⟨skip s⟩) ↔ UInt64.size ≤ h + n)) ∧
    ((decode ⟨s⟩).1 = .overflow ↔
      ∃ h n, Declares s h n ∧ n < UInt64.size ∧ UInt64.size ≤ h + n) := by
  have hword : Text.bound 64 = UInt64.size := by decide
  constructor
  · intro h n hd hover
    have hlook := decode_of_declares hd hover
    rw [hword] at hlook
    by_cases hbound : UInt64.size ≤ h + n
    · rw [hlook, if_pos hbound]
      exact ⟨iff_of_false (by simp) (Nat.not_lt.mpr hbound), iff_of_true rfl hbound⟩
    · rw [hlook, if_neg hbound]
      exact ⟨iff_of_true rfl (Nat.lt_of_not_le hbound), iff_of_false (by simp) hbound⟩
  constructor
  · intro ho
    obtain ⟨h, n, hd, hbound⟩ := exists_declares_of_overflow ho
    exact ⟨h, n, hd, hd.lt_bound, hbound⟩
  · rintro ⟨h, n, hd, -, hbound⟩
    have hlimit := limit_lt_bound
    rw [decode_of_declares hd (by omega), hword, if_pos hbound]

/-- A length just above the limit, behind line breaks. -/
theorem declared_length_counted_refused :
    let s := Text.Utf8.encode "\r\n\nRTSP/1.0 200 OK\r\nContent-Length: 1048533\r\n\r\n".toList
    Declares s 44 1048533 ∧ decode ⟨s⟩ = (.refused .tooBig, ⟨skip s⟩) := by
  intro s
  have hd : Declares s 44 1048533 := ⟨by decide +kernel, by decide +kernel, by decide +kernel⟩
  exact ⟨hd, ((declared_length_counted_iff s).1 44 1048533 hd (by decide)).1.mpr (by decide)⟩

/-- The greatest length that a word can hold is declared, and the look overflows. -/
theorem declared_length_overflows :
    let s := Text.Utf8.encode
      "RTSP/1.0 200 OK\r\nContent-Length: 18446744073709551615\r\n\r\n".toList
    Declares s 57 18446744073709551615 ∧ 1024 * 1024 < 57 + 18446744073709551615 ∧
      decode ⟨s⟩ = (.overflow, ⟨skip s⟩) ∧ decode ⟨s⟩ ≠ (.refused .tooBig, ⟨skip s⟩) := by
  intro s
  have hd : Declares s 57 18446744073709551615 :=
    ⟨by decide +kernel, by decide +kernel, by decide +kernel⟩
  have hlook : decode ⟨s⟩ = (.overflow, ⟨skip s⟩) :=
    (decode_of_declares hd (by decide)).trans (by rw [if_pos (by decide)])
  refine ⟨hd, by decide, hlook, ?_⟩
  rw [hlook]
  exact fun heq => by cases heq

end Rtsp.Decoder
