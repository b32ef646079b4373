import Rtsp.Text.Number

/-!
Addresses of eight pieces of sixteen bits. In writing one run of zeros may be left out, where two
colons stand, and the last two pieces may be four decimal numbers. Written here is the longest run
left out, the first of equals, if it is two or more.
-/
namespace Rtsp.Url

/-- The eight pieces of an address. -/
structure Ipv6 where
  pieces : List Nat
  deriving DecidableEq, Repr

namespace Ipv6

/-- A piece of one to four hexadecimal digits. -/
def piece? (t : Text) : Option Nat :=
  if t ≠ [] ∧ t.length ≤ 4 then Text.hexValue? 0 t else none

/-- A decimal number up to 255 without zeros in front. -/
def octet? (t : Text) : Option Nat :=
  if Text.isDecimal t ∧ t.length ≤ 3 ∧ (t.head? ≠ some '0' ∨ t.length = 1) then
    let n := Nat.ofDigitChars 10 t 0
    if n ≤ 255 then some n else none
  else none

/-- Four decimal numbers as two pieces. -/
def octets? (t : Text) : Option (List Nat) :=
  match (t.splitOn '.').mapM octet? with
  | some [a, b, c, d] => some [a * 256 + b, c * 256 + d]
  | _ => none

/-- Pieces with colons between them; the last may be four decimal numbers if `tail` says so. -/
def piecesOf? (tail : Bool) : List Text → Option (List Nat)
  | [] => some []
  | [last] => if tail && last.contains '.' then octets? last else (piece? last).map ([·])
  | first :: rest => do
    let n ← piece? first
    let ns ← piecesOf? tail rest
    some (n :: ns)

def pieces? (tail : Bool) (t : Text) : Option (List Nat) := piecesOf? tail (t.splitOn ':')

/-- What stands before the first two colons in a row, and what stands after them. -/
def gap? : Text → Option (Text × Text)
  | ':' :: ':' :: rest => some ([], rest)
  | c :: rest => (gap? rest).map fun p => (c :: p.1, p.2)
  | [] => none

/-- One side of the gap, which may be empty. -/
def side? (tail : Bool) (t : Text) : Option (List Nat) := if t = [] then some [] else pieces? tail t

def parse? (t : Text) : Option Ipv6 :=
  match gap? t with
  | none => do
    let all ← pieces? true t
    if all.length = 8 then some ⟨all⟩ else none
  | some (left, right) => do
    let left ← side? false left
    let right ← side? true right
    let given := left.length + right.length
    if given ≤ 7 then some ⟨left ++ List.replicate (8 - given) 0 ++ right⟩ else none

/-- How many zeros stand in a row from `index` on. -/
def zerosAt (pieces : List Nat) (index : Nat) : Nat :=
  ((pieces.drop index).takeWhile (· == 0)).length

/-- Where the longest run of zeros begins and how long it is; a run of one is none. -/
def longestZeros (pieces : List Nat) : Nat × Nat :=
  (List.range pieces.length).foldl
    (fun best i => if best.2 < zerosAt pieces i then (i, zerosAt pieces i) else best) (0, 1)

def piecesText (pieces : List Nat) : Text := [':'].intercalate (pieces.map Text.hexadecimal)

def text (a : Ipv6) : Text :=
  let (start, count) := longestZeros a.pieces
  if 2 ≤ count then
    piecesText (a.pieces.take start) ++ ':' :: ':' :: piecesText (a.pieces.drop (start + count))
  else piecesText a.pieces

theorem length_of_parse? {t : Text} {a : Ipv6} (h : parse? t = some a) : a.pieces.length = 8 := by
  unfold parse? at h
  split at h
  · simp only [Option.bind_eq_bind, Option.bind_eq_some_iff] at h
    obtain ⟨all, _, h⟩ := h
    split at h <;> simp_all
    subst h
    assumption
  · simp only [Option.bind_eq_bind, Option.bind_eq_some_iff] at h
    obtain ⟨l, _, r, _, h⟩ := h
    split at h
    · simp only [Option.some.injEq] at h
      subst h
      simp
      omega
    · simp at h

end Ipv6

end Rtsp.Url
