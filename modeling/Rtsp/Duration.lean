import Rtsp.Fault
import Rtsp.Text.Blank

/-!
A length of time in nanoseconds. It is written as a number with a unit, or as several of them in a
row that add up: `90s`, `1h2m3.5s`. The sum is taken in binary floating point and rounded to whole
nanoseconds, a half going up; a sum beyond `2 ^ 64` nanoseconds is refused.
-/
namespace Rtsp

structure Duration where
  nanos : Nat
  deriving DecidableEq, Repr

namespace Duration

def ofSeconds (n : Nat) : Duration := ⟨n * 1000000000⟩

def ofMillis (n : Nat) : Duration := ⟨n * 1000000⟩

def seconds (d : Duration) : Nat := d.nanos / 1000000000

def half (d : Duration) : Duration := ⟨d.nanos / 2⟩

def longer (d e : Duration) : Duration := ⟨max d.nanos e.nanos⟩

inductive Measure
  | nanosecond
  | microsecond
  | millisecond
  | second
  | minute
  | hour
  deriving DecidableEq, Repr

def Measure.nanos : Measure → Nat
  | .nanosecond => 1
  | .microsecond => 1000
  | .millisecond => 1000000
  | .second => 1000000000
  | .minute => 60000000000
  | .hour => 3600000000000

/-- The spellings of the units; a microsecond has two. -/
def Measure.names : List (Text × Measure) :=
  [("ns".toList, .nanosecond), ("us".toList, .microsecond), ("µs".toList, .microsecond),
   ("ms".toList, .millisecond), ("s".toList, .second), ("m".toList, .minute), ("h".toList, .hour)]

def Measure.ofName? (name : Text) : Option Measure := names.lookup name

/-- A number and its unit. -/
structure Part where
  number : Text
  measure : Measure
  deriving DecidableEq, Repr

def isNumeral (c : Char) : Bool := c.isDigit || c == '.'

/-- Digits with at most one point among them. -/
def isNumber (t : Text) : Bool := t.all isNumeral && t.any Char.isDigit && t.count '.' ≤ 1

/-- The first part of a text, and what follows it. -/
def part? (t : Text) : Option (Part × Text) :=
  let number := t.takeWhile isNumeral
  let rest := t.dropWhile isNumeral
  match Measure.ofName? (rest.takeWhile (!isNumeral ·)) with
  | some measure =>
    if isNumber number then some (⟨number, measure⟩, rest.dropWhile (!isNumeral ·)) else none
  | none => none

def partsUpTo : Nat → Text → Option (List Part)
  | _, [] => some []
  | 0, _ :: _ => none
  | n + 1, t@(_ :: _) =>
    match part? t with
    | some (first, rest) => (partsUpTo n rest).map (first :: ·)
    | none => none

/-- A text as parts in a row; no part is shorter than two characters. -/
def parts? (t : Text) : Option (List Part) := partsUpTo t.length t

/-- The number in binary floating point, rounded to nearest. -/
def Part.amount (p : Part) : Float :=
  let (whole, fraction) := Text.cut '.' p.number
  Float.ofScientific (Nat.ofDigitChars 10 (whole ++ fraction) 0) true fraction.length

def Part.nanos (p : Part) : Float := p.amount * Float.ofNat p.measure.nanos

def total (parts : List Part) : Float := parts.foldl (fun sum p => sum + p.nanos) 0

/-- The nearest whole number, a half going up; the greatest `UInt64` stands for all that is not
below it. -/
def nearest (x : Float) : UInt64 :=
  let whole := x.toUInt64
  if 0.5 ≤ x - whole.toFloat then whole + 1 else whole

/-- Whole nanoseconds. -/
def ofFloat? (nanos : Float) : Option Duration :=
  if nanos ≤ 18446744073709551616 then some ⟨(nearest nanos).toNat⟩ else none

/-- The text between blanks: `0`, or parts with an optional plus sign before them. -/
def parse? (t : Text) : Option Duration :=
  let body := Text.trim t
  if body = ['0'] then some ⟨0⟩
  else if body = [] ∨ body.head? = some '-' then none
  else
    match parts? (Text.unsigned body) with
    | some parts => ofFloat? (total parts)
    | none => none

def parse (t : Text) : Except Fault Duration :=
  match parse? t with
  | some d => .ok d
  | none => .error (.setting ("invalid duration '".toList ++ t ++ "'".toList))

/-- A fraction of `width` digits without the zeros at its end. -/
def fraction (width n : Nat) : Text :=
  let digits := ((Text.padded width (Text.decimal n)).reverse.dropWhile (· == '0')).reverse
  if digits = [] then [] else '.' :: digits

/-- The length of time in the greatest unit up to the second that it fills. -/
def text (d : Duration) : Text :=
  let n := d.nanos
  if 1000000000 ≤ n then
    Text.decimal (n / 1000000000) ++ fraction 9 (n % 1000000000) ++ ['s']
  else if 1000000 ≤ n then Text.decimal (n / 1000000) ++ fraction 6 (n % 1000000) ++ "ms".toList
  else if 1000 ≤ n then Text.decimal (n / 1000) ++ fraction 3 (n % 1000) ++ "µs".toList
  else Text.decimal n ++ "ns".toList

end Duration

end Rtsp
