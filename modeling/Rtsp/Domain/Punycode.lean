import Rtsp.Text.Number

/-!
Punycode: a label of a domain in ASCII alone. The ASCII characters of the label stand first, before
the last hyphen. Behind it each other character is inserted by one number, that counts the code
points and places passed over since the one before. A number has its lowest digit first, and its
last digit is the first one below a threshold, which grows with the place of the digit and follows
the size of the numbers that came before.
-/
namespace Rtsp.Domain.Punycode

/-- The small letters are digits, and behind them the figures. -/
def digit? (c : Char) : Option Nat :=
  if 'a' ≤ c ∧ c ≤ 'z' then some (c.toNat - 'a'.toNat)
  else if c.isDigit then some (c.toNat - '0'.toNat + 26)
  else none

def divided (bias delta : Nat) : Nat :=
  if 455 < delta then divided (bias + 36) (delta / 35) else bias + 36 * delta / (delta + 38)
termination_by delta

/-- The bias behind a number: larger ones make it larger. The first number of a label, which has
most of the way to go, counts less. -/
def biasAfter (delta length : Nat) (isFirst : Bool) : Nat :=
  let delta := if isFirst then delta / 700 else delta / 2
  divided 0 (delta + delta / length)

/-- Digits below the threshold are the last of their number. -/
def threshold (place bias : Nat) : Nat := max 1 (min 26 (place - bias))

/-- A label while it is read: `code` and `index` are those that the next number counts from, and
`sum` holds the digits read of it so far, the next of which has a `place` and a `weight`. -/
structure Reading where
  label : Text
  code : Nat := 0x80
  index : Nat := 0
  bias : Nat := 72
  sum : Nat := 0
  place : Nat := 36
  weight : Nat := 1

namespace Reading

/-- The label with the character that the number leads to. -/
def insert? (r : Reading) (sum : Nat) : Option Reading :=
  let length := r.label.length + 1
  let n := r.code + (r.index + sum) / length
  let index := (r.index + sum) % length
  if n.isValidChar then
    some
      { label := r.label.insertIdx index (Char.ofNat n)
        code := n
        index := index + 1
        bias := biasAfter sum length (r.index == 0) }
  else none

/-- No number reaches 2^32, with what it counts from, and no weight does. -/
def read? (r : Reading) (c : Char) : Option Reading := do
  let d ← digit? c
  let t := threshold r.place r.bias
  let sum := r.sum + d * r.weight
  let weight := r.weight * (36 - t)
  if Text.bound 32 ≤ r.index + sum then none
  else if d < t then r.insert? sum
  else if Text.bound 32 ≤ weight then none
  else some { r with sum := sum, place := r.place + 36, weight := weight }

end Reading

/-- What stands before the last hyphen, and what behind it; none is cut off if it comes first. -/
def base (t : Text) : Text × Text :=
  match Text.cut? '-' t.reverse with
  | some (digits, before) => if before = [] then ([], t) else (before.reverse, digits.reverse)
  | none => ([], t)

/-- The label written as `t`. -/
def decode? (t : Text) : Option Text := do
  let (label, digits) := base t
  let r ← digits.foldlM Reading.read? { label := label }
  if r.place = 36 then some r.label else none

end Rtsp.Domain.Punycode
