import Rtsp.Text.Blank
import Rtsp.Text.Case

/-!
The parameters of a challenge: names with values behind an equals sign, separated by commas. A
value in double quotes may hold commas, and a backslash in it takes the next character as it is.
Names are read in lower case, and neither names nor values have blanks around them.
-/
namespace Rtsp.Auth

structure Parameter where
  name : Text
  value : Text
  deriving DecidableEq, Repr

namespace Parameter

/-- A quoted value, whose first characters are `done` in reverse, and what follows its quote. -/
def quoted (done : Text) : Text → Text × Text
  | [] => (done.reverse, [])
  | '\\' :: [] => (done.reverse, [])
  | '\\' :: c :: rest => quoted (c :: done) rest
  | c :: rest => if c = '"' then (done.reverse, rest) else quoted (c :: done) rest

/-- A value behind the equals sign, and what follows it. -/
def readValue (t : Text) : Text × Text :=
  match Text.trimStart t with
  | '"' :: rest => quoted [] rest
  | t => (t.takeWhile (· != ','), t.dropWhile (· != ','))

def isNamePart (c : Char) : Bool := c != '=' && c != ','

def isGap (c : Char) : Bool := c == ',' || Text.isBlank c

/-- The first parameter behind commas and blanks, whose name may be empty, and what follows it. -/
def next? (t : Text) : Option (Parameter × Text) :=
  match t.dropWhile isGap with
  | [] => none
  | t@(_ :: _) =>
    let name := Text.lower (Text.trim (t.takeWhile isNamePart))
    match t.dropWhile isNamePart with
    | '=' :: rest =>
      let (value, rest) := readValue rest
      some (⟨name, Text.trim value⟩, rest)
    | rest => some (⟨name, []⟩, rest)

def listUpTo : Nat → Text → List Parameter
  | 0, _ => []
  | fuel + 1, t =>
    match next? t with
    | none => []
    | some (p, rest) => if p.name = [] then listUpTo fuel rest else p :: listUpTo fuel rest

/-- All parameters with a name; each takes at least one character. -/
def list (t : Text) : List Parameter := listUpTo t.length t

/-- The value of the first parameter of a name. -/
def find? (ps : List Parameter) (name : String) : Option Text :=
  (ps.find? fun p => p.name == name.toList).map Parameter.value

end Parameter

end Rtsp.Auth
