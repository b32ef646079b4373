import Rtsp.Text.Number

/-!
UTF-8, written and read. A reader meets three beginnings: a character, bytes that no character
continues, and a character cut off by the end. The strict reader refuses the last two and says
where; the lenient one puts U+FFFD in their place, once for each. What was written is read back
by both.
-/
namespace Rtsp.Text.Utf8

def encodeChar (c : Char) : Bytes :=
  let n := c.toNat
  if n < 0x80 then [n.toUInt8]
  else if n < 0x800 then [(0xC0 + n / 0x40).toUInt8, (0x80 + n % 0x40).toUInt8]
  else if n < 0x10000 then
    [(0xE0 + n / 0x1000).toUInt8, (0x80 + n / 0x40 % 0x40).toUInt8, (0x80 + n % 0x40).toUInt8]
  else
    [(0xF0 + n / 0x40000).toUInt8, (0x80 + n / 0x1000 % 0x40).toUInt8,
      (0x80 + n / 0x40 % 0x40).toUInt8, (0x80 + n % 0x40).toUInt8]

def encode (t : Text) : Bytes := t.flatMap encodeChar

/-- How long a text is in bytes. -/
def size (t : Text) : Nat := (encode t).length

/-- How a byte string begins: with a character of `width` bytes, with `width` bytes that no
character continues, or with a character that the end cuts off. -/
inductive Start
  | char (c : Char) (width : Nat)
  | wrong (width : Nat)
  | unfinished
  deriving DecidableEq, Repr

/-- The width that a first byte announces; 0 if no character begins with it. -/
def announced (lead : Nat) : Nat :=
  if lead < 0x80 then 1
  else if lead < 0xC2 then 0
  else if lead < 0xE0 then 2
  else if lead < 0xF0 then 3
  else if lead < 0xF5 then 4
  else 0

/-- The second byte keeps out surrogates, overlong forms and what lies beyond U+10FFFF. -/
def seconds (lead second : Nat) : Bool :=
  decide ((if lead = 0xE0 then 0xA0 else if lead = 0xF0 then 0x90 else 0x80) ≤ second) &&
    decide (second < (if lead = 0xED then 0xA0 else if lead = 0xF4 then 0x90 else 0xC0))

def continues (b : Nat) : Bool := decide (0x80 ≤ b) && decide (b < 0xC0)

def start (first : UInt8) (rest : Bytes) : Start :=
  let a := first.toNat
  match announced a, rest with
  | 1, _ => .char (Char.ofNat a) 1
  | 2, [] | 3, [] | 4, [] => .unfinished
  | 2, x :: _ =>
    if seconds a x.toNat then .char (Char.ofNat ((a - 0xC0) * 0x40 + (x.toNat - 0x80))) 2
    else .wrong 1
  | 3, x :: rest =>
    if seconds a x.toNat then
      match rest with
      | [] => .unfinished
      | y :: _ =>
        if continues y.toNat then
          .char (Char.ofNat ((a - 0xE0) * 0x1000 + (x.toNat - 0x80) * 0x40 + (y.toNat - 0x80))) 3
        else .wrong 2
    else .wrong 1
  | 4, x :: rest =>
    if seconds a x.toNat then
      match rest with
      | [] => .unfinished
      | y :: rest =>
        if continues y.toNat then
          match rest with
          | [] => .unfinished
          | z :: _ =>
            if continues z.toNat then
              .char (Char.ofNat ((a - 0xF0) * 0x40000 + (x.toNat - 0x80) * 0x1000 +
                (y.toNat - 0x80) * 0x40 + (z.toNat - 0x80))) 4
            else .wrong 3
        else .wrong 2
    else .wrong 1
  | _, _ => .wrong 1

def replacement : Char := Char.ofNat 0xFFFD

/-- The lenient reader: `skip` bytes of the last beginning are still to be passed over. -/
def lossyFrom : Nat → Bytes → Text → Text
  | _, [], done => done.reverse
  | skip + 1, _ :: rest, done => lossyFrom skip rest done
  | 0, b :: rest, done =>
    match start b rest with
    | .char c width => lossyFrom (width - 1) rest (c :: done)
    | .wrong width => lossyFrom (width - 1) rest (replacement :: done)
    | .unfinished => (replacement :: done).reverse

def lossy (bytes : Bytes) : Text := lossyFrom 0 bytes []

/-- Where reading stopped, and how many bytes are wrong there; none if the end came too soon. -/
structure Fault where
  index : Nat
  width : Option Nat
  deriving DecidableEq, Repr

def Fault.message (f : Fault) : Text :=
  match f.width with
  | some width =>
    "invalid utf-8 sequence of ".toList ++ decimal width ++ " bytes from index ".toList ++
      decimal f.index
  | none => "incomplete utf-8 byte sequence from index ".toList ++ decimal f.index

def decodeFrom : Nat → Nat → Bytes → Text → Except Fault Text
  | _, _, [], done => .ok done.reverse
  | skip + 1, index, _ :: rest, done => decodeFrom skip (index + 1) rest done
  | 0, index, b :: rest, done =>
    match start b rest with
    | .char c width => decodeFrom (width - 1) (index + 1) rest (c :: done)
    | .wrong width => .error ⟨index, some width⟩
    | .unfinished => .error ⟨index, none⟩

def decode (bytes : Bytes) : Except Fault Text := decodeFrom 0 0 bytes []

theorem lossyFrom_drop (skip : Nat) (bytes : Bytes) (done : Text) :
    lossyFrom skip bytes done = lossyFrom 0 (bytes.drop skip) done := by
  induction skip generalizing bytes with
  | zero => rfl
  | succ skip ih =>
    cases bytes with
    | nil => simp [lossyFrom]
    | cons b rest => simpa [lossyFrom] using ih rest

theorem decodeFrom_drop (skip index : Nat) (bytes : Bytes) (done : Text)
    (h : skip ≤ bytes.length) :
    decodeFrom skip index bytes done = decodeFrom 0 (index + skip) (bytes.drop skip) done := by
  induction skip generalizing bytes index with
  | zero => rfl
  | succ skip ih =>
    cases bytes with
    | nil => simp at h
    | cons b rest =>
      rw [decodeFrom, ih (index + 1) rest (by simpa using h), List.drop_succ_cons,
        show index + 1 + skip = index + (skip + 1) by omega]

theorem code_lt (c : Char) : c.toNat < 0x110000 ∧ ¬ (0xD800 ≤ c.toNat ∧ c.toNat < 0xE000) := by
  have h := c.valid
  simp only [UInt32.isValidChar, Nat.isValidChar] at h
  simp only [Char.toNat]
  omega

/-- A written character is found again, whatever follows it. -/
theorem start_encodeChar (c : Char) (rest : Bytes) :
    ∃ b tail, encodeChar c = b :: tail ∧
      start b (tail ++ rest) = .char c (tail.length + 1) := by
  obtain ⟨hc, hs⟩ := code_lt c
  have hn : Char.ofNat c.toNat = c := Char.ofNat_toNat c
  generalize hN : c.toNat = n at hc hs hn
  simp only [encodeChar, hN]
  split
  · rename_i h
    refine ⟨_, _, rfl, ?_⟩
    have e : n.toUInt8.toNat = n := by simp; omega
    simp [start, e, announced, h, hn]
  split
  · rename_i h0 h
    refine ⟨_, _, rfl, ?_⟩
    have e0 : (0xC0 + n / 0x40).toUInt8.toNat = 0xC0 + n / 0x40 := by simp; omega
    have e1 : (0x80 + n % 0x40).toUInt8.toNat = 0x80 + n % 0x40 := by simp; omega
    have ha : announced (0xC0 + n / 0x40) = 2 := by
      unfold announced; repeat' split
      all_goals omega
    have hb : seconds (0xC0 + n / 0x40) (0x80 + n % 0x40) = true := by
      simp only [seconds, Bool.and_eq_true, decide_eq_true_eq]
      constructor <;> repeat' split
      all_goals omega
    have hv : (0xC0 + n / 0x40 - 0xC0) * 0x40 + (0x80 + n % 0x40 - 0x80) = n := by omega
    simp only [start, e0, ha, List.cons_append, List.nil_append, e1, hb, if_true, hv, hn,
      List.length_cons, List.length_nil]
  split
  · rename_i h0 h1 h
    refine ⟨_, _, rfl, ?_⟩
    have e0 : (0xE0 + n / 0x1000).toUInt8.toNat = 0xE0 + n / 0x1000 := by simp; omega
    have e1 : (0x80 + n / 0x40 % 0x40).toUInt8.toNat = 0x80 + n / 0x40 % 0x40 := by simp; omega
    have e2 : (0x80 + n % 0x40).toUInt8.toNat = 0x80 + n % 0x40 := by simp; omega
    have ha : announced (0xE0 + n / 0x1000) = 3 := by
      unfold announced; repeat' split
      all_goals omega
    have hb : seconds (0xE0 + n / 0x1000) (0x80 + n / 0x40 % 0x40) = true := by
      simp only [seconds, Bool.and_eq_true, decide_eq_true_eq]
      constructor <;> repeat' split
      all_goals omega
    have hk : continues (0x80 + n % 0x40) = true := by simp [continues]; omega
    have hv : (0xE0 + n / 0x1000 - 0xE0) * 0x1000 + (0x80 + n / 0x40 % 0x40 - 0x80) * 0x40 +
        (0x80 + n % 0x40 - 0x80) = n := by omega
    simp only [start, e0, ha, List.cons_append, List.nil_append, e1, hb, if_true, e2, hk, hv, hn,
      List.length_cons, List.length_nil]
  · rename_i h0 h1 h
    refine ⟨_, _, rfl, ?_⟩
    have e0 : (0xF0 + n / 0x40000).toUInt8.toNat = 0xF0 + n / 0x40000 := by simp; omega
    have e1 : (0x80 + n / 0x1000 % 0x40).toUInt8.toNat = 0x80 + n / 0x1000 % 0x40 := by
      simp; omega
    have e2 : (0x80 + n / 0x40 % 0x40).toUInt8.toNat = 0x80 + n / 0x40 % 0x40 := by simp; omega
    have e3 : (0x80 + n % 0x40).toUInt8.toNat = 0x80 + n % 0x40 := by simp; omega
    have ha : announced (0xF0 + n / 0x40000) = 4 := by
      unfold announced; repeat' split
      all_goals omega
    have hb : seconds (0xF0 + n / 0x40000) (0x80 + n / 0x1000 % 0x40) = true := by
      simp only [seconds, Bool.and_eq_true, decide_eq_true_eq]
      constructor <;> repeat' split
      all_goals omega
    have hk : continues (0x80 + n / 0x40 % 0x40) = true := by simp [continues]; omega
    have hk' : continues (0x80 + n % 0x40) = true := by simp [continues]; omega
    have hv : (0xF0 + n / 0x40000 - 0xF0) * 0x40000 + (0x80 + n / 0x1000 % 0x40 - 0x80) * 0x1000 +
        (0x80 + n / 0x40 % 0x40 - 0x80) * 0x40 + (0x80 + n % 0x40 - 0x80) = n := by omega
    simp only [start, e0, ha, List.cons_append, List.nil_append, e1, hb, if_true, e2, hk, e3, hk',
      hv, hn, List.length_cons, List.length_nil]

theorem lossyFrom_encode (t : Text) (done : Text) :
    lossyFrom 0 (encode t) done = done.reverse ++ t := by
  induction t generalizing done with
  | nil => simp [encode, lossyFrom]
  | cons c t ih =>
    obtain ⟨b, tail, hb, hs⟩ := start_encodeChar c (encode t)
    have he : encode (c :: t) = b :: (tail ++ encode t) := by
      simp [encode, hb]
    rw [he, lossyFrom, hs]
    simp only [Nat.add_sub_cancel]
    rw [lossyFrom_drop, List.drop_left, ih]
    simp

theorem lossy_encode (t : Text) : lossy (encode t) = t := by
  simp [lossy, lossyFrom_encode]

theorem decodeFrom_encode (t : Text) (index : Nat) (done : Text) :
    decodeFrom 0 index (encode t) done = .ok (done.reverse ++ t) := by
  induction t generalizing done index with
  | nil => simp [encode, decodeFrom]
  | cons c t ih =>
    obtain ⟨b, tail, hb, hs⟩ := start_encodeChar c (encode t)
    have he : encode (c :: t) = b :: (tail ++ encode t) := by
      simp [encode, hb]
    rw [he, decodeFrom, hs]
    simp only [Nat.add_sub_cancel]
    rw [decodeFrom_drop _ _ _ _ (by simp), List.drop_left, ih]
    simp

theorem decode_encode (t : Text) : decode (encode t) = .ok t := by
  simp [decode, decodeFrom_encode]

end Rtsp.Text.Utf8
