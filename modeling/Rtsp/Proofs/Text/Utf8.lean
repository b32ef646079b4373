import Rtsp.Text.Utf8

/-!
UTF-8 writes each text in one way only. An ASCII character is one byte, and that byte occurs for no
other character, so that what is no line end in a text is none in its bytes either. The first bytes
of a byte string are a character exactly if they are the bytes that the character is written as, so
the strict reader accepts nothing but what was written.
-/
namespace Rtsp.Text.Utf8

theorem toNat_ofNat {n : Nat} (h : n.isValidChar) : (Char.ofNat n).toNat = n := by
  rw [Char.ofNat, dif_pos h]
  rfl

theorem byte_eq {n : Nat} {b : UInt8} (h : n = b.toNat) : n.toUInt8 = b := by
  rw [h]
  exact UInt8.ofNat_toNat

section Encoding

theorem encode_cons (c : Char) (t : Text) : encode (c :: t) = encodeChar c ++ encode t := by
  simp [encode]

theorem encode_append (a b : Text) : encode (a ++ b) = encode a ++ encode b := by
  simp [encode]

theorem encodeChar_of_lt {c : Char} (h : c.toNat < 0x80) : encodeChar c = [c.toNat.toUInt8] := by
  simp [encodeChar, h]

/-- The bytes of a character beyond ASCII are beyond ASCII. -/
theorem le_of_mem_encodeChar {c : Char} (h : 0x80 ≤ c.toNat) {b : UInt8} (hb : b ∈ encodeChar c) :
    0x80 ≤ b.toNat := by
  have hc := (code_lt c).1
  simp only [encodeChar, if_neg (Nat.not_lt.mpr h)] at hb
  split at hb
  · simp only [List.mem_cons, List.not_mem_nil, or_false] at hb
    rcases hb with rfl | rfl <;> simp <;> omega
  split at hb
  · simp only [List.mem_cons, List.not_mem_nil, or_false] at hb
    rcases hb with rfl | rfl | rfl <;> simp <;> omega
  · simp only [List.mem_cons, List.not_mem_nil, or_false] at hb
    rcases hb with rfl | rfl | rfl | rfl <;> simp <;> omega

/-- An ASCII byte stands for its character and is part of no other. -/
theorem not_mem_encode {c : Char} (hc : c.toNat < 0x80) {t : Text} (h : c ∉ t) :
    c.toNat.toUInt8 ∉ encode t := by
  intro hmem
  obtain ⟨x, hx, hb⟩ := List.mem_flatMap.mp hmem
  have hn : c.toNat.toUInt8.toNat = c.toNat := by simp; omega
  by_cases hlt : x.toNat < 0x80
  · rw [encodeChar_of_lt hlt, List.mem_singleton] at hb
    have hx' : x.toNat.toUInt8.toNat = x.toNat := by simp; omega
    have heq : c.toNat = x.toNat := by rw [← hn, hb, hx']
    exact h (Char.toNat_inj.mp heq ▸ hx)
  · have hle := le_of_mem_encodeChar (Nat.not_lt.mp hlt) hb
    omega

theorem encode_eq_nil_iff {t : Text} : encode t = [] ↔ t = [] := by
  constructor
  · intro h
    cases t with
    | nil => rfl
    | cons c t =>
      obtain ⟨b, tail, hc, -⟩ := start_encodeChar c []
      simp [encode, hc] at h
  · rintro rfl
    rfl

theorem size_append (a b : Text) : size (a ++ b) = size a + size b := by
  simp [size, encode_append]

/-- The same ASCII character again and again is the same byte as often. -/
theorem encode_replicate {c : Char} (hc : c.toNat < 0x80) (n : Nat) :
    encode (List.replicate n c) = List.replicate n c.toNat.toUInt8 := by
  rw [encode, List.flatMap_replicate, encodeChar_of_lt hc, List.flatten_replicate_singleton]

theorem size_eq_zero_iff {t : Text} : size t = 0 ↔ t = [] := by
  rw [size, List.length_eq_zero_iff, encode_eq_nil_iff]

end Encoding

section Bounds

variable {lead second : Nat}

theorem announced_cases (lead : Nat) :
    announced lead = 0 ∨
      announced lead = 1 ∧ lead < 0x80 ∨
      announced lead = 2 ∧ 0xC2 ≤ lead ∧ lead < 0xE0 ∨
      announced lead = 3 ∧ 0xE0 ≤ lead ∧ lead < 0xF0 ∨
      announced lead = 4 ∧ 0xF0 ≤ lead ∧ lead < 0xF5 := by
  unfold announced
  grind

theorem seconds_bounds (h : seconds lead second = true) :
    0x80 ≤ second ∧ second < 0xC0 ∧ (lead = 0xE0 → 0xA0 ≤ second) ∧
      (lead = 0xED → second < 0xA0) ∧ (lead = 0xF0 → 0x90 ≤ second) ∧
      (lead = 0xF4 → second < 0x90) := by
  simp only [seconds, Bool.and_eq_true, decide_eq_true_eq] at h
  grind

theorem continues_bounds {b : Nat} (h : continues b = true) : 0x80 ≤ b ∧ b < 0xC0 := by
  simpa [continues] using h

end Bounds

section Characters

variable {a x y z : UInt8}

theorem encodeChar_ne_nil (c : Char) : encodeChar c ≠ [] := by
  unfold encodeChar
  simp only
  repeat' split
  all_goals simp

theorem length_encodeChar_pos (c : Char) : 0 < (encodeChar c).length :=
  List.length_pos_iff.mpr (encodeChar_ne_nil c)

theorem encodeChar_one (ha : a.toNat < 0x80) : encodeChar (Char.ofNat a.toNat) = [a] := by
  have hn := toNat_ofNat (n := a.toNat) (by unfold Nat.isValidChar; omega)
  unfold encodeChar
  simp only [hn]
  rw [if_pos ha, byte_eq rfl]

theorem encodeChar_two (ha : 0xC2 ≤ a.toNat) (ha' : a.toNat < 0xE0)
    (hx : seconds a.toNat x.toNat = true) :
    encodeChar (Char.ofNat ((a.toNat - 0xC0) * 0x40 + (x.toNat - 0x80))) = [a, x] := by
  obtain ⟨hlow, hhigh, -⟩ := seconds_bounds hx
  unfold encodeChar
  rw [toNat_ofNat (by unfold Nat.isValidChar; omega)]
  simp only
  rw [if_neg (by omega), if_pos (by omega), byte_eq (by omega : _ = a.toNat),
    byte_eq (by omega : _ = x.toNat)]

theorem encodeChar_three (ha : 0xE0 ≤ a.toNat) (ha' : a.toNat < 0xF0)
    (hx : seconds a.toNat x.toNat = true) (hy : continues y.toNat = true) :
    encodeChar (Char.ofNat
      ((a.toNat - 0xE0) * 0x1000 + (x.toNat - 0x80) * 0x40 + (y.toNat - 0x80))) = [a, x, y] := by
  obtain ⟨hlow, hhigh, hshort, hsurrogate, -⟩ := seconds_bounds hx
  obtain ⟨hylow, hyhigh⟩ := continues_bounds hy
  unfold encodeChar
  rw [toNat_ofNat (by unfold Nat.isValidChar; omega)]
  simp only
  rw [if_neg (by omega), if_neg (by omega), if_pos (by omega), byte_eq (by omega : _ = a.toNat),
    byte_eq (by omega : _ = x.toNat), byte_eq (by omega : _ = y.toNat)]

theorem encodeChar_four (ha : 0xF0 ≤ a.toNat) (ha' : a.toNat < 0xF5)
    (hx : seconds a.toNat x.toNat = true) (hy : continues y.toNat = true)
    (hz : continues z.toNat = true) :
    encodeChar (Char.ofNat
      ((a.toNat - 0xF0) * 0x40000 + (x.toNat - 0x80) * 0x1000 + (y.toNat - 0x80) * 0x40 +
        (z.toNat - 0x80))) = [a, x, y, z] := by
  obtain ⟨hlow, hhigh, -, -, hshort, hlong⟩ := seconds_bounds hx
  obtain ⟨hylow, hyhigh⟩ := continues_bounds hy
  obtain ⟨hzlow, hzhigh⟩ := continues_bounds hz
  unfold encodeChar
  rw [toNat_ofNat (by unfold Nat.isValidChar; omega)]
  simp only
  rw [if_neg (by omega), if_neg (by omega), if_neg (by omega), byte_eq (by omega : _ = a.toNat),
    byte_eq (by omega : _ = x.toNat), byte_eq (by omega : _ = y.toNat),
    byte_eq (by omega : _ = z.toNat)]

end Characters

/-- A character is written as the bytes that it was read from. -/
theorem encodeChar_of_start {first : UInt8} {rest : Bytes} {c : Char} {width : Nat}
    (h : start first rest = .char c width) :
    first :: rest = encodeChar c ++ rest.drop (width - 1) ∧ width ≤ rest.length + 1 := by
  have hread : ∀ (d : Char) (bytes more : Bytes), encodeChar d = bytes →
      first :: rest = bytes ++ more → Start.char d bytes.length = .char c width → bytes ≠ [] →
        first :: rest = encodeChar c ++ rest.drop (width - 1) ∧ width ≤ rest.length + 1 := by
    rintro d (_ | ⟨b, bytes⟩) more hd hrest heq hne
    · exact absurd rfl hne
    simp only [Start.char.injEq] at heq
    obtain ⟨rfl, rfl⟩ := heq
    obtain ⟨rfl, rfl⟩ := List.cons.inj hrest
    rw [hd]
    simp
  unfold start at h
  simp only at h
  rcases announced_cases first.toNat with h0 | ⟨h1, hb⟩ | ⟨h2, hl, hb⟩ | ⟨h3, hl, hb⟩ | ⟨h4, hl, hb⟩
  · rw [h0] at h
    cases h
  · rw [h1] at h
    exact hread _ _ _ (encodeChar_one hb) rfl h (by simp)
  · rw [h2] at h
    rcases rest with _ | ⟨x, rest⟩
    · cases h
    simp only at h
    split at h
    · exact hread _ _ _ (encodeChar_two hl hb ‹_›) rfl h (by simp)
    · cases h
  · rw [h3] at h
    rcases rest with _ | ⟨x, _ | ⟨y, rest⟩⟩
    · cases h
    · simp only at h
      split at h <;> cases h
    simp only at h
    split at h
    · split at h
      · exact hread _ _ _ (encodeChar_three hl hb ‹_› ‹_›) rfl h (by simp)
      · cases h
    · cases h
  · rw [h4] at h
    rcases rest with _ | ⟨x, _ | ⟨y, _ | ⟨z, rest⟩⟩⟩
    · cases h
    · simp only at h
      split at h <;> cases h
    · simp only at h
      split at h
      · split at h <;> cases h
      · cases h
    simp only at h
    split at h
    · split at h
      · split at h
        · exact hread _ _ _ (encodeChar_four hl hb ‹_› ‹_› ‹_›) rfl h (by simp)
        · cases h
      · cases h
    · cases h

theorem eq_encode_of_decodeFrom {bytes : Bytes} {index : Nat} {done t : Text}
    (h : decodeFrom 0 index bytes done = .ok t) :
    ∃ s, t = done.reverse ++ s ∧ bytes = encode s := by
  induction hn : bytes.length using Nat.strongRecOn generalizing bytes index done with
  | ind n ih =>
    cases bytes with
    | nil =>
      rw [decodeFrom, Except.ok.injEq] at h
      exact ⟨[], by simp [h], rfl⟩
    | cons b rest =>
      rw [decodeFrom] at h
      split at h
      · rename_i c width hstart
        obtain ⟨hbytes, hwidth⟩ := encodeChar_of_start hstart
        have hlength : (rest.drop (width - 1)).length < n := by
          rw [List.length_drop, ← hn, List.length_cons]
          omega
        rw [decodeFrom_drop _ _ _ _ (by omega)] at h
        obtain ⟨s, ht, hrest⟩ := ih _ hlength h rfl
        refine ⟨c :: s, by simpa using ht, ?_⟩
        rw [hbytes, hrest]
        rfl
      · cases h
      · cases h

/-- A byte string is read as the text that it was written from, and from no other. -/
theorem decode_eq_ok_iff {bytes : Bytes} {t : Text} : decode bytes = .ok t ↔ bytes = encode t := by
  constructor
  · intro h
    obtain ⟨s, rfl, hs⟩ := eq_encode_of_decodeFrom h
    exact hs
  · rintro rfl
    exact decode_encode t

end Rtsp.Text.Utf8
