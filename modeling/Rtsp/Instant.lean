import Rtsp.Text.Blank
import Rtsp.Text.Number

/-!
A second of the calendar in UTC. It is read in the basic form `20230812T120000Z`, where blanks may
stand before each number, and in the form of the Internet, `2023-08-12T14:00:00.5+02:00`, whose
offset is taken off and whose fraction is dropped. It is written in the basic form. A minute may
have a leap second, number 60, and keeps it.
-/
namespace Rtsp

structure Instant where
  year : Int
  month : Nat
  day : Nat
  hour : Nat
  minute : Nat
  second : Nat
  deriving DecidableEq, Repr

namespace Instant

def isLeap (year : Int) : Bool := year % 4 == 0 && (year % 100 != 0 || year % 400 == 0)

def daysIn (year : Int) (month : Nat) : Nat :=
  if month = 2 then if isLeap year then 29 else 28
  else if month = 4 ∨ month = 6 ∨ month = 9 ∨ month = 11 then 30
  else 31

/-- The years that the calendar covers. -/
def isCovered (year : Int) : Bool := decide (-262143 ≤ year) && decide (year ≤ 262142)

def isValid (i : Instant) : Bool :=
  isCovered i.year && decide (1 ≤ i.month) && decide (i.month ≤ 12) && decide (1 ≤ i.day) &&
    decide (i.day ≤ daysIn i.year i.month) && decide (i.hour ≤ 23) && decide (i.minute ≤ 59) &&
    decide (i.second ≤ 60)

def valid? (i : Instant) : Option Instant := if i.isValid then some i else none

def nextDay (i : Instant) : Instant :=
  if i.day < daysIn i.year i.month then { i with day := i.day + 1 }
  else if i.month < 12 then { i with month := i.month + 1, day := 1 }
  else { i with year := i.year + 1, month := 1, day := 1 }

def previousDay (i : Instant) : Instant :=
  if 1 < i.day then { i with day := i.day - 1 }
  else if 1 < i.month then
    { i with month := i.month - 1, day := daysIn i.year (i.month - 1) }
  else { i with year := i.year - 1, month := 12, day := 31 }

/-- The same instant, `minutes` earlier on the clock; less than a day. -/
def earlier (i : Instant) (minutes : Int) : Instant :=
  let clock := (i.hour * 60 + i.minute : Nat) - minutes
  let ofClock := fun (j : Instant) (clock : Int) =>
    { j with hour := (clock / 60).toNat, minute := (clock % 60).toNat }
  if clock < 0 then ofClock i.previousDay (clock + 1440)
  else if 1440 ≤ clock then ofClock i.nextDay (clock - 1440)
  else ofClock i clock

/-- A number of `least` to `most` digits at the beginning, and what follows it. -/
def digits? (least most : Nat) (t : Text) : Option (Nat × Text) :=
  let digits := (t.take most).takeWhile Char.isDigit
  if least ≤ digits.length then
    some (Nat.ofDigitChars 10 digits 0, t.drop digits.length)
  else none

def sign? : Text → Option (Int × Text)
  | '+' :: t => some (1, t)
  | '-' :: t => some (-1, t)
  | _ => none

/-- A year with a sign takes every digit that follows, one without takes at most four. -/
def year? (t : Text) : Option (Int × Text) :=
  let t := Text.trimStart t
  match sign? t with
  | some (sign, t) => (digits? 1 t.length t).map fun (n, rest) => (sign * n, rest)
  | none => (digits? 1 4 t).map fun (n, rest) => ((n : Int), rest)

/-- A field of one or two digits behind blanks. -/
def field? (t : Text) : Option (Nat × Text) := digits? 1 2 (Text.trimStart t)

def basic? (t : Text) : Option Instant := do
  let (year, t) ← year? t
  let (month, t) ← field? t
  let (day, t) ← field? t
  let t ← Text.after? ['T'] t
  let (hour, t) ← field? t
  let (minute, t) ← field? t
  let (second, t) ← field? t
  if t = ['Z'] then valid? ⟨year, month, day, hour, minute, second⟩ else none

/-- A fraction of a second counts for nothing. -/
def skipFraction? : Text → Option Text
  | '.' :: t => (digits? 1 t.length t).map (·.2)
  | t => some t

/-- The sign of an offset; the minus sign of mathematics is one. -/
def offsetSign? : Text → Option (Int × Text)
  | '\u2212' :: t => some (-1, t)
  | t => sign? t

/-- The offset from UTC in minutes, which ends the text. -/
def offset? (t : Text) : Option Int :=
  if t = ['Z'] ∨ t = ['z'] then some 0
  else do
    let (sign, t) ← offsetSign? t
    let (hours, t) ← digits? 2 2 t
    let t ← Text.after? [':'] t
    let (minutes, t) ← digits? 2 2 t
    if t = [] ∧ hours ≤ 23 ∧ minutes ≤ 59 then some (sign * (hours * 60 + minutes)) else none

def internet? (t : Text) : Option Instant := do
  let (year, t) ← digits? 4 4 t
  let t ← Text.after? ['-'] t
  let (month, t) ← digits? 2 2 t
  let t ← Text.after? ['-'] t
  let (day, t) ← digits? 2 2 t
  let t ← (Text.after? ['T'] t).or ((Text.after? ['t'] t).or (Text.after? [' '] t))
  let (hour, t) ← digits? 2 2 t
  let t ← Text.after? [':'] t
  let (minute, t) ← digits? 2 2 t
  let t ← Text.after? [':'] t
  let (second, t) ← digits? 2 2 t
  let t ← skipFraction? t
  let offset ← offset? t
  let written ← valid? ⟨year, month, day, hour, minute, second⟩
  some (written.earlier offset)

def parse? (t : Text) : Option Instant := (basic? t).or (internet? t)

/-- Four digits; a year outside them has a sign. -/
def yearText (year : Int) : Text :=
  let digits := Text.padded 4 (Text.decimal year.natAbs)
  if year < 0 then '-' :: digits else if 9999 < year then '+' :: digits else digits

def two (n : Nat) : Text := Text.padded 2 (Text.decimal n)

/-- The basic form. -/
def text (i : Instant) : Text :=
  yearText i.year ++ two i.month ++ two i.day ++ 'T' :: two i.hour ++ two i.minute ++
    two i.second ++ ['Z']

end Instant

end Rtsp
