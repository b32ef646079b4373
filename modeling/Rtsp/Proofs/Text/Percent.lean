import Rtsp.Proofs.Text.Blankless
import Rtsp.Proofs.Text.Utf8
import Rtsp.Text.Percent

/-!
What a percent-encoded text stands for, character by character: an escape is one byte, and any other
character the bytes that it is written as. Encoding more characters does not change these bytes as
long as escapes are left alone, and leaving characters out always does. Whatever a text was, all
characters that its encoding has may stand for themselves.
-/
namespace Rtsp.Text.Percent

/-- The bytes that a percent-encoded text stands for. -/
def bytes (t : Text) : Bytes := decodeBytes (Utf8.encode t)

/-- The byte that a text begins with if it begins with an escape. -/
def escape? : Text → Option UInt8
  | '%' :: high :: low :: _ =>
    match hexDigit? high, hexDigit? low with
    | some h, some l => some (h * 16 + l).toUInt8
    | _, _ => none
  | _ => none

/-- The characters that escapes are made of. -/
def marks : Text := "%0123456789ABCDEFabcdef".toList

/-- Letters and digits, which stand for themselves wherever they are, and the percent sign. -/
def safe : Text :=
  "%0123456789ABCDEFGHIJKLMNOPQRSTUVWXYZabcdefghijklmnopqrstuvwxyz".toList

/-- No character of an escape is among these. -/
abbrev Spares (p : Char → Bool) : Prop := ∀ c ∈ marks, p c = false

/-- A text that stands for these bytes and is made of letters, digits and escapes only. -/
inductive Spells : Text → Bytes → Prop
  | nil : Spells [] []
  | plain {t : Text} {bs : Bytes} {c : Char} :
      c.isAlphanum = true → Spells t bs → Spells (c :: t) (c.toNat.toUInt8 :: bs)
  | escape {t : Text} {bs : Bytes} {high low : Char} {h l : Nat} :
      hexDigit? high = some h → hexDigit? low = some l → Spells t bs →
        Spells ('%' :: high :: low :: t) ((h * 16 + l).toUInt8 :: bs)

variable {t : Text} {c : Char} {reserved : Char → Bool}

theorem decode_eq_ok_iff {u : Text} : decode t = .ok u ↔ bytes t = Utf8.encode u :=
  Utf8.decode_eq_ok_iff

section Marks

theorem mem_marks_of_hexDigit? {n : Nat} (h : hexDigit? c = some n) : c ∈ marks := by
  have hdigit : ∀ a b : Nat, c.toNat < b → (∀ i : Fin b, a ≤ i.val → Char.ofNat i.val ∈ marks) →
      a ≤ c.toNat → c ∈ marks := fun a b hb hall ha => by
    have := hall ⟨c.toNat, hb⟩ ha
    rwa [Char.ofNat_toNat] at this
  unfold hexDigit? at h
  split at h
  · rename_i hc
    simp only [Char.isDigit, Bool.and_eq_true, decide_eq_true_eq] at hc
    exact hdigit 0x30 0x3A (Nat.lt_succ_of_le hc.2) (by decide) hc.1
  split at h
  · rename_i hc
    exact hdigit 0x61 0x67 (Nat.lt_succ_of_le hc.2) (by decide) hc.1
  split at h
  · rename_i hc
    exact hdigit 0x41 0x47 (Nat.lt_succ_of_le hc.2) (by decide) hc.1
  · cases h

/-- An encoded byte is an escape. -/
theorem encodeByte_eq (b : UInt8) :
    ∃ high low h l, encodeByte b = ['%', high, low] ∧ hexDigit? high = some h ∧
      hexDigit? low = some l ∧ (h * 16 + l).toUInt8 = b := by
  have hdigit : ∀ n < 16, hexDigit? n.digitChar.toUpper = some n := by decide
  have hb : b.toNat < 256 := b.toNat_lt
  exact ⟨_, _, _, _, rfl, hdigit (b.toNat / 16) (by omega), hdigit (b.toNat % 16) (by omega),
    Utf8.byte_eq (by omega)⟩

theorem mem_marks_of_mem_encodeByte {b : UInt8} (h : c ∈ encodeByte b) : c ∈ marks := by
  obtain ⟨high, low, x, y, hb, hhigh, hlow, -⟩ := encodeByte_eq b
  simp only [hb, List.mem_cons, List.not_mem_nil, or_false] at h
  rcases h with rfl | rfl | rfl
  · decide
  · exact mem_marks_of_hexDigit? hhigh
  · exact mem_marks_of_hexDigit? hlow

/-- An encoded text is made of escapes and of characters that may stand for themselves. -/
theorem mem_encode (h : c ∈ encode reserved t) :
    c ∈ marks ∨ c ∈ t ∧ isForeign c = false ∧ reserved c = false := by
  obtain ⟨d, hd, hc⟩ := List.mem_flatMap.mp h
  unfold encodeChar at hc
  split at hc
  · obtain ⟨b, -, hb⟩ := List.mem_flatMap.mp hc
    exact Or.inl (mem_marks_of_mem_encodeByte hb)
  · rename_i hkept
    obtain rfl := List.mem_singleton.mp hc
    exact Or.inr ⟨hd, by simpa using hkept⟩

theorem settled_of_mem_encode (hs : Spares reserved) (h : c ∈ encode reserved t) :
    isForeign c = false ∧ reserved c = false := by
  rcases mem_encode h with h | ⟨-, h⟩
  · have hall : Spares isForeign := by decide
    exact ⟨hall c h, hs c h⟩
  · exact h

/-- A character that is not encoded is blank only if it is a space. -/
theorem isBlank_of_not_foreign (h : isForeign c = false) (hne : c ≠ ' ') : isBlank c = false := by
  simp only [isForeign, Bool.or_eq_false_iff, decide_eq_false_iff_not, Nat.not_lt, Nat.not_le] at h
  have hspace : c.toNat ≠ 0x20 := fun heq => hne (Char.toNat_inj.mp heq)
  exact isBlank_of_visible (by omega) (by omega)

/-- Where no space stands for itself, an encoded text has no blanks. -/
theorem blankless_encode (hspace : ' ' ∈ t → reserved ' ' = true) :
    Blankless (encode reserved t) := by
  intro c hc
  rcases mem_encode hc with hc | ⟨hmem, hforeign, hreserved⟩
  · have hall : Spares isBlank := by decide
    exact hall c hc
  · apply isBlank_of_not_foreign hforeign
    rintro rfl
    rw [hspace hmem] at hreserved
    cases hreserved

end Marks

section Bytes

/-- Among bytes as among characters, only an ASCII digit is a digit, and it is one byte. -/
theorem hexByte?_encodeChar (c : Char) :
    ∃ b tail, Utf8.encodeChar c = b :: tail ∧ hexByte? b = hexDigit? c ∧
      (hexDigit? c ≠ none → tail = []) := by
  by_cases hc : c.toNat < 0x80
  · have hb : c.toNat.toUInt8.toNat = c.toNat := by simp; omega
    refine ⟨_, [], Utf8.encodeChar_of_lt hc, ?_, fun _ => rfl⟩
    rw [hexByte?, hb, if_pos hc, Char.ofNat_toNat]
  · obtain ⟨b, tail, hbytes⟩ := List.exists_cons_of_ne_nil (Utf8.encodeChar_ne_nil c)
    have hhigh := Utf8.le_of_mem_encodeChar (Nat.not_lt.mp hc) (hbytes ▸ List.mem_cons_self)
    have hnone : hexDigit? c = none := by
      cases hdigit : hexDigit? c with
      | none => rfl
      | some n =>
        have hall : ∀ d ∈ marks, d.toNat < 0x80 := by decide
        exact absurd (hall c (mem_marks_of_hexDigit? hdigit)) hc
    refine ⟨b, tail, hbytes, ?_, fun h => absurd hnone h⟩
    rw [hexByte?, if_neg (by omega), hnone]

theorem decodeBytes_append {a : Bytes} (h : (0x25 : UInt8) ∉ a) (b : Bytes) :
    decodeBytes (a ++ b) = a ++ decodeBytes b := by
  induction a with
  | nil => rfl
  | cons x a ih =>
    obtain ⟨hx, ha⟩ := List.ne_and_not_mem_of_not_mem_cons h
    rw [List.cons_append, decodeBytes.eq_def]
    simp only [if_neg (Ne.symm hx), ih ha, List.cons_append]

theorem percent_not_mem_encodeChar (h : c ≠ '%') : (0x25 : UInt8) ∉ Utf8.encodeChar c := by
  have hsingle : Utf8.encode [c] = Utf8.encodeChar c := List.flatMap_singleton _ c
  exact hsingle ▸ Utf8.not_mem_encode (c := '%') (by decide) (mt List.mem_singleton.mp h.symm)

theorem bytes_nil : bytes [] = [] := by
  simp [bytes, Utf8.encode, decodeBytes]

/-- An escape is one byte. -/
theorem bytes_escape {high low : Char} {h l : Nat} (hh : hexDigit? high = some h)
    (hl : hexDigit? low = some l) (t : Text) :
    bytes ('%' :: high :: low :: t) = (h * 16 + l).toUInt8 :: bytes t := by
  obtain ⟨a, tail, ha, hahex, hatail⟩ := hexByte?_encodeChar high
  obtain ⟨b, tail', hb, hbhex, hbtail⟩ := hexByte?_encodeChar low
  obtain rfl := hatail (by simp [hh])
  obtain rfl := hbtail (by simp [hl])
  have hpercent : Utf8.encodeChar '%' = [0x25] := by decide
  rw [bytes, Utf8.encode_cons, Utf8.encode_cons, Utf8.encode_cons, hpercent, ha, hb]
  simp only [List.cons_append, List.nil_append]
  rw [decodeBytes]
  simp only [if_true, hahex, hbhex, hh, hl, bytes]

/-- A percent sign that begins no escape stands for itself. -/
theorem bytes_percent (h : escape? ('%' :: t) = none) : bytes ('%' :: t) = 0x25 :: bytes t := by
  have hpercent : Utf8.encodeChar '%' = [0x25] := by decide
  rw [bytes, Utf8.encode_cons, hpercent, List.singleton_append, bytes]
  cases t with
  | nil => rfl
  | cons high t =>
    obtain ⟨a, tail, ha, hahex, hatail⟩ := hexByte?_encodeChar high
    rw [Utf8.encode_cons, ha, List.cons_append]
    cases hrest : tail ++ Utf8.encode t with
    | nil => simp [decodeBytes]
    | cons b rest =>
      rw [decodeBytes]
      simp only [if_true, hahex]
      split
      · -- Two digits among the bytes would be two digits in the text.
        rename_i h' l hh hl
        exfalso
        obtain rfl := hatail (by simp [hh])
        cases t with
        | nil => simp [Utf8.encode] at hrest
        | cons low t =>
          obtain ⟨b', tail', hb, hbhex, -⟩ := hexByte?_encodeChar low
          rw [List.nil_append, Utf8.encode_cons, hb, List.cons_append] at hrest
          obtain ⟨rfl, -⟩ := List.cons.inj hrest
          simp [escape?, hh, ← hbhex, hl] at h
      · rfl

/-- A character that begins no escape is its own bytes. -/
theorem bytes_cons (h : escape? (c :: t) = none) :
    bytes (c :: t) = Utf8.encodeChar c ++ bytes t := by
  by_cases hc : c = '%'
  · subst hc
    exact bytes_percent h
  · rw [bytes, Utf8.encode_cons, decodeBytes_append (percent_not_mem_encodeChar hc), bytes]

/-- A text begins with an escape if it does so in these characters. -/
theorem eq_of_escape? {b : UInt8} (h : escape? t = some b) :
    ∃ high low h l rest, t = '%' :: high :: low :: rest ∧ hexDigit? high = some h ∧
      hexDigit? low = some l ∧ b = (h * 16 + l).toUInt8 := by
  unfold escape? at h
  split at h
  · rename_i high low rest
    split at h
    · rename_i x y hx hy
      exact ⟨high, low, x, y, rest, rfl, hx, hy, (Option.some.inj h).symm⟩
    · cases h
  · cases h

theorem escape?_of_ne (h : c ≠ '%') (t : Text) : escape? (c :: t) = none := by
  rw [Option.eq_none_iff_forall_ne_some]
  intro b hb
  obtain ⟨high, low, x, y, rest, heq, -⟩ := eq_of_escape? hb
  exact h (List.cons.inj heq).1

/-- A text is taken apart into escapes and other characters from its beginning on. -/
theorem escapes_induction {motive : Text → Prop} (nil : motive [])
    (escape : ∀ high low h l t, hexDigit? high = some h → hexDigit? low = some l → motive t →
      motive ('%' :: high :: low :: t))
    (char : ∀ c t, escape? (c :: t) = none → motive t → motive (c :: t)) (t : Text) : motive t := by
  induction hn : t.length using Nat.strongRecOn generalizing t with
  | ind n ih =>
    cases t with
    | nil => exact nil
    | cons c t =>
      cases hescape : escape? (c :: t) with
      | none => exact char c t hescape (ih _ (by simp at hn; omega) t rfl)
      | some b =>
        obtain ⟨high, low, h, l, rest, heq, hh, hl, -⟩ := eq_of_escape? hescape
        rw [heq] at hn ⊢
        exact escape high low h l rest hh hl (ih _ (by simp at hn; omega) rest rfl)

end Bytes

section Encoding

theorem encodeChar_mark (hs : Spares reserved) (h : c ∈ marks) :
    encodeChar reserved c = [c] := by
  have hforeign : Spares isForeign := by decide
  simp [encodeChar, hforeign c h, hs c h]

theorem encode_cons (c : Char) (t : Text) :
    encode reserved (c :: t) = encodeChar reserved c ++ encode reserved t := by
  simp [encode]

theorem encodeChar_ne_nil (c : Char) : encodeChar reserved c ≠ [] := by
  unfold encodeChar
  split
  · obtain ⟨b, tail, hb⟩ := List.exists_cons_of_ne_nil (Utf8.encodeChar_ne_nil c)
    rw [hb, List.flatMap_cons]
    exact nofun
  · exact nofun

/-- An encoding is empty only if the text is. -/
theorem encode_ne_nil (h : t ≠ []) : encode reserved t ≠ [] := by
  obtain ⟨c, t, rfl⟩ := List.exists_cons_of_ne_nil h
  rw [encode_cons]
  exact List.append_ne_nil_of_left_ne_nil (encodeChar_ne_nil c) _

/-- An encoding begins with a digit only where the text does. -/
theorem head_of_encode {n : Nat} {rest : Text} (h : encode reserved t = c :: rest)
    (hc : hexDigit? c = some n) : ∃ t', t = c :: t' ∧ rest = encode reserved t' := by
  cases t with
  | nil => cases h
  | cons d t =>
    rw [encode_cons] at h
    unfold encodeChar at h
    split at h
    · obtain ⟨b, tail, hb⟩ := List.exists_cons_of_ne_nil (Utf8.encodeChar_ne_nil d)
      rw [hb, List.flatMap_cons, encodeByte, List.cons_append, List.cons_append] at h
      have hnone : hexDigit? '%' = none := by decide
      obtain ⟨rfl, -⟩ := List.cons.inj h
      rw [hnone] at hc
      cases hc
    · obtain ⟨rfl, rfl⟩ := List.cons.inj h
      exact ⟨t, rfl, rfl⟩

theorem escape?_encode (h : escape? (c :: t) = none) :
    escape? (c :: encode reserved t) = none := by
  rw [Option.eq_none_iff_forall_ne_some]
  intro b hb
  obtain ⟨high, low, x, y, rest, heq, hx, hy, -⟩ := eq_of_escape? hb
  obtain ⟨rfl, hhigh⟩ := List.cons.inj heq
  obtain ⟨t', rfl, hlow⟩ := head_of_encode hhigh hx
  obtain ⟨t'', rfl, -⟩ := head_of_encode hlow.symm hy
  simp [escape?, hx, hy] at h

theorem bytes_encodeByte (b : UInt8) (t : Text) : bytes (encodeByte b ++ t) = b :: bytes t := by
  obtain ⟨high, low, h, l, hb, hh, hl, rfl⟩ := encodeByte_eq b
  rw [hb]
  exact bytes_escape hh hl t

theorem bytes_encodeBytes (bs : Bytes) (t : Text) :
    bytes (bs.flatMap encodeByte ++ t) = bs ++ bytes t := by
  induction bs with
  | nil => rfl
  | cons b bs ih =>
    rw [List.flatMap_cons, List.append_assoc, bytes_encodeByte, ih, List.cons_append]

/-- Where escapes stay as they are, a text stands for the same bytes after it was encoded. -/
theorem bytes_encode (hs : Spares reserved) (t : Text) : bytes (encode reserved t) = bytes t := by
  induction t using escapes_induction with
  | nil => rfl
  | escape high low h l t hh hl ih =>
    rw [encode_cons, encode_cons, encode_cons, encodeChar_mark hs (by decide : '%' ∈ marks),
      encodeChar_mark hs (mem_marks_of_hexDigit? hh),
      encodeChar_mark hs (mem_marks_of_hexDigit? hl)]
    simp only [List.cons_append, List.nil_append]
    rw [bytes_escape hh hl, bytes_escape hh hl, ih]
  | char c t hc ih =>
    rw [encode_cons, bytes_cons hc, ← ih]
    unfold encodeChar
    split
    · exact bytes_encodeBytes _ _
    · rw [List.singleton_append, bytes_cons (escape?_encode hc)]

/-- Where escapes stay as they are, the same can be read from a text after it was encoded. -/
theorem decode_encode (hs : Spares reserved) (t : Text) :
    decode (encode reserved t) = decode t := by
  have h := bytes_encode hs t
  rw [bytes, bytes] at h
  rw [decode, decode, h]

end Encoding

section Filtering

variable {dropped : Char → Bool}

/-- A digit is one byte wherever no percent sign is before it. -/
theorem bytes_digit {n : Nat} (h : hexDigit? c = some n) (t : Text) :
    (bytes (c :: t)).length = (bytes t).length + 1 := by
  have hne : c ≠ '%' := by
    rintro rfl
    exact absurd h (by decide +revert)
  have hone : ∀ d ∈ marks, (Utf8.encodeChar d).length = 1 := by decide
  rw [bytes_cons (escape?_of_ne hne t), List.length_append, hone c (mem_marks_of_hexDigit? h)]
  omega

/-- In front of other characters one character makes no more than its own bytes. -/
theorem length_bytes_cons (c : Char) (t : Text) :
    (bytes (c :: t)).length ≤ (Utf8.encodeChar c).length + (bytes t).length := by
  cases hescape : escape? (c :: t) with
  | none =>
    have hlength : (bytes (c :: t)).length = (Utf8.encodeChar c).length + (bytes t).length := by
      rw [bytes_cons hescape, List.length_append]
    exact Nat.le_of_eq hlength
  | some b =>
    obtain ⟨high, low, h, l, rest, heq, hh, hl, -⟩ := eq_of_escape? hescape
    obtain ⟨rfl, rfl⟩ := List.cons.inj heq
    rw [bytes_escape hh hl, List.length_cons, bytes_digit hh, bytes_digit hl]
    omega

/-- Every character that is left out of a text takes away a byte at least. -/
theorem length_bytes_filter (hs : Spares dropped) (t : Text) :
    (bytes (t.filter (!dropped ·))).length + t.countP dropped ≤ (bytes t).length := by
  induction t using escapes_induction with
  | nil => simp
  | escape high low h l t hh hl ih =>
    have hpercent := hs '%' (by decide)
    have hhigh := hs high (mem_marks_of_hexDigit? hh)
    have hlow := hs low (mem_marks_of_hexDigit? hl)
    simp only [List.filter_cons, List.countP_cons, hpercent, hhigh, hlow, Bool.not_false, if_true]
    rw [bytes_escape hh hl, bytes_escape hh hl, List.length_cons, List.length_cons]
    simp only [Bool.false_eq_true, if_false]
    omega
  | char c t hc ih =>
    have hpos := Utf8.length_encodeChar_pos c
    rw [bytes_cons hc, List.length_append, List.filter_cons, List.countP_cons]
    cases hdropped : dropped c with
    | true =>
      simp only [Bool.not_true, Bool.false_eq_true, if_false, if_true]
      omega
    | false =>
      have hcons := length_bytes_cons c (t.filter (!dropped ·))
      simp only [Bool.not_false, Bool.false_eq_true, if_false, if_true]
      omega

/-- A text with characters left out stands for the same bytes only if it is the same text. -/
theorem bytes_filter_iff (hs : Spares dropped) (t : Text) :
    bytes (t.filter (!dropped ·)) = bytes t ↔ ∀ c ∈ t, dropped c = false := by
  constructor
  · intro h c hc
    have hlength := length_bytes_filter hs t
    rw [h] at hlength
    have hnone : t.countP dropped = 0 := by omega
    simpa using List.countP_eq_zero.mp hnone c hc
  · intro h
    rw [List.filter_eq_self.mpr fun c hc => by rw [h c hc]; rfl]

end Filtering

section Spelling

variable {bs : Bytes}

theorem ascii_of_isAlphanum (h : c.isAlphanum = true) : c.toNat < 0x80 := by
  rcases (Bool.or_eq_true _ _).mp h with halpha | hdigit
  · rcases (Bool.or_eq_true _ _).mp halpha with hupper | hlower
    · have hz : c.val ≤ 'Z'.val := (of_decide_eq_true hupper).2
      exact Nat.lt_of_le_of_lt hz (by decide)
    · have hz : c.val ≤ 'z'.val := of_decide_eq_true ((Bool.and_eq_true _ _).mp hlower).2
      exact Nat.lt_of_le_of_lt hz (by decide)
  · have hnine : c.val ≤ '9'.val := of_decide_eq_true ((Bool.and_eq_true _ _).mp hdigit).2
    exact Nat.lt_of_le_of_lt hnine (by decide)

theorem Spells.bytes_eq (h : Spells t bs) : bytes t = bs := by
  induction h with
  | nil => exact bytes_nil
  | @plain t bs c hc _ ih =>
    have hne : c ≠ '%' := by
      rintro rfl
      exact absurd hc (by decide)
    rw [bytes_cons (escape?_of_ne hne t), Utf8.encodeChar_of_lt (ascii_of_isAlphanum hc), ih,
      List.singleton_append]
  | escape hh hl _ ih => rw [bytes_escape hh hl, ih]

theorem mem_safe_of_isAlphanum (h : c.isAlphanum = true) : c ∈ safe := by
  have hall : ∀ i < 0x80, (Char.ofNat i).isAlphanum = true → Char.ofNat i ∈ safe := by
    decide +kernel
  have hc := hall c.toNat (ascii_of_isAlphanum h)
  rw [Char.ofNat_toNat] at hc
  exact hc h

/-- What a text is spelled with. -/
theorem Spells.mem (h : Spells t bs) (hc : c ∈ t) : c ∈ safe := by
  have hmarks : ∀ d ∈ marks, d ∈ safe := by decide
  induction h with
  | nil => cases hc
  | plain hplain _ ih =>
    rcases List.mem_cons.mp hc with rfl | hc
    · exact mem_safe_of_isAlphanum hplain
    · exact ih hc
  | escape hh hl _ ih =>
    rcases List.mem_cons.mp hc with rfl | hc
    · exact hmarks _ (by decide)
    rcases List.mem_cons.mp hc with rfl | hc
    · exact hmarks _ (mem_marks_of_hexDigit? hh)
    rcases List.mem_cons.mp hc with rfl | hc
    · exact hmarks _ (mem_marks_of_hexDigit? hl)
    · exact ih hc

/-- What spells the bytes of a text is read as this text. -/
theorem Spells.decode_eq {u : Text} (h : Spells t (Utf8.encode u)) : decode t = .ok u :=
  decode_eq_ok_iff.mpr h.bytes_eq

theorem Spells.escapes (h : Spells t bs) (a : Bytes) :
    Spells (a.flatMap encodeByte ++ t) (a ++ bs) := by
  induction a with
  | nil => exact h
  | cons b a ih =>
    obtain ⟨high, low, x, y, hb, hhigh, hlow, rfl⟩ := encodeByte_eq b
    rw [List.flatMap_cons, hb]
    exact ih.escape hhigh hlow

/-- A text can be spelled out: what is no letter and no digit is encoded. -/
theorem spells_encode (u : Text) : Spells (encode (!·.isAlphanum) u) (Utf8.encode u) := by
  induction u with
  | nil => exact .nil
  | cons c u ih =>
    rw [encode_cons, Utf8.encode_cons]
    unfold encodeChar
    split
    · exact ih.escapes _
    · rename_i hkept
      have hplain : c.isAlphanum = true := by
        simp only [Bool.or_eq_true, Bool.not_eq_true', not_or, Bool.not_eq_false] at hkept
        exact hkept.2
      rw [Utf8.encodeChar_of_lt (ascii_of_isAlphanum hplain)]
      exact ih.plain hplain

end Spelling

end Rtsp.Text.Percent
