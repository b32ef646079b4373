import Rtsp.Text.Number
import Std.Data.TreeMap.Basic

/-!
Tables over the characters: runs of code points that do not overlap, each with what holds in it.
They are written in hexadecimal, `41-5A` for a run and `AA` for a run of one, and behind a colon
stand the code points that belong to the run, as in `A8:20+308`.
-/
namespace Rtsp.Text

/-- The code points from `first` to `last`, and those that belong to them. -/
structure Run where
  first : Nat
  last : Nat
  values : List Nat
  deriving DecidableEq, Repr

namespace Run

def code (t : Text) : Nat := (hexValue? 0 t).getD 0

def ofText (t : Text) : Run :=
  let (range, values) := cut ':' t
  let (first, last) := cut '-' range
  ⟨code first, code (if last = [] then first else last), (pieces '+' values).map code⟩

/-- The runs of a table in writing, with blanks between them. -/
def ofLines (lines : List String) : List Run :=
  lines.flatMap fun line => (pieces ' ' line.toList).map ofText

end Run

/-- The end of each run and what holds in it, by the run's first code point. -/
abbrev Table (α : Type) := Std.TreeMap Nat (Nat × α)

namespace Table

variable {α : Type}

def add (t : Table α) (runs : List Run) (value : Run → α) : Table α :=
  runs.foldl (fun t run => t.insert run.first (run.last, value run)) t

/-- What holds for a character, if a run of the table has it. -/
def find? (t : Table α) (c : Char) : Option α :=
  match t.getEntryLE? c.toNat with
  | some (_, last, a) => if c.toNat ≤ last then some a else none
  | none => none

def contains (t : Table α) (c : Char) : Bool := (t.find? c).isSome

end Table

end Rtsp.Text
