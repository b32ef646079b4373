import Rtsp.Text.Case

/-!
Numbers on the wire: decimal digits with an optional plus sign, and hexadecimal ones. A reader
has a width, and refuses a number that needs more. Writing a number and reading it gives the
number back.
-/
namespace Rtsp.Text

def decimal (n : Nat) : Text := Nat.toDigits 10 n

/-- Zeros in front up to `width` characters. -/
def padded (width : Nat) (t : Text) : Text := List.replicate (width - t.length) '0' ++ t

def isDecimal (t : Text) : Bool := t != [] && t.all Char.isDigit

/-- The number without its plus sign. -/
def unsigned : Text → Text
  | '+' :: t => t
  | t => t

/-- The first number that takes more than `width` binary digits. -/
def bound (width : Nat) : Nat := Nat.pow 2 width

/-- A decimal number of at most `width` binary digits. -/
def natural? (width : Nat) (t : Text) : Option Nat :=
  let digits := unsigned t
  if isDecimal digits then
    let n := Nat.ofDigitChars 10 digits 0
    if n < bound width then some n else none
  else none

def uint8? (t : Text) : Option UInt8 := (natural? 8 t).map UInt8.ofNat

def uint16? (t : Text) : Option UInt16 := (natural? 16 t).map UInt16.ofNat

def uint32? (t : Text) : Option UInt32 := (natural? 32 t).map UInt32.ofNat

/-- The value of a hexadecimal digit of either case. -/
def hexDigit? (c : Char) : Option Nat :=
  if c.isDigit then some (c.toNat - '0'.toNat)
  else if 'a' ≤ c ∧ c ≤ 'f' then some (c.toNat - 'a'.toNat + 10)
  else if 'A' ≤ c ∧ c ≤ 'F' then some (c.toNat - 'A'.toNat + 10)
  else none

def isHexDigit (c : Char) : Bool := (hexDigit? c).isSome

def hexadecimal (n : Nat) : Text := Nat.toDigits 16 n

/-- The value of a run of hexadecimal digits, after `sum`. -/
def hexValue? (sum : Nat) : Text → Option Nat
  | [] => some sum
  | c :: t =>
    match hexDigit? c with
    | none => none
    | some d => hexValue? (16 * sum + d) t

/-- A hexadecimal number of at most `width` binary digits. -/
def hexNatural? (width : Nat) (t : Text) : Option Nat :=
  match unsigned t with
  | [] => none
  | digits =>
    match hexValue? 0 digits with
    | none => none
    | some n => if n < bound width then some n else none

theorem decimal_ne_nil (n : Nat) : decimal n ≠ [] := Nat.toDigits_ne_nil

theorem isDigit_of_mem_decimal {n : Nat} {c : Char} (h : c ∈ decimal n) : c.isDigit = true :=
  Nat.isDigit_of_mem_toDigits (by decide) (by decide) h

theorem isDecimal_decimal (n : Nat) : isDecimal (decimal n) = true := by
  simp [isDecimal, decimal_ne_nil]
  exact fun c h => isDigit_of_mem_decimal h

theorem unsigned_decimal (n : Nat) : unsigned (decimal n) = decimal n := by
  unfold unsigned
  split
  · rename_i t h
    have : ('+' : Char).isDigit = true := isDigit_of_mem_decimal (n := n) (by simp [h])
    exact absurd this (by decide)
  · rfl

/-- Reading undoes writing, for every number that fits. -/
theorem natural?_decimal {width n : Nat} (h : n < bound width) :
    natural? width (decimal n) = some n := by
  have hv : Nat.ofDigitChars 10 (decimal n) 0 = n := Nat.ofDigitChars_ten_toDigits
  simp [natural?, unsigned_decimal, isDecimal_decimal, hv, h]

theorem natural?_lt {width n : Nat} {t : Text} (h : natural? width t = some n) :
    n < bound width := by
  simp only [natural?] at h
  split at h
  · split at h
    · simp_all
    · simp at h
  · simp at h

end Rtsp.Text
