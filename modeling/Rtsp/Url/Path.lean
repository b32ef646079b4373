import Rtsp.Text.Case
import Rtsp.Text.Percent

/-!
The path of a URL. A dot between slashes stands for nothing, two dots take the segment before them
away, and either dot may be percent-encoded. A segment that begins like the letter of a drive is
never taken away.
-/
namespace Rtsp.Url.Path

/-- ASCII characters of a path that are percent-encoded. -/
def isReserved (c : Char) : Bool := " \"<>`#?\x7b\x7d".toList.contains c

def dot : List Text := [".".toList, "%2e".toList]

def isDot (segment : Text) : Bool := dot.contains (Text.lower segment)

def isDoubleDot (segment : Text) : Bool :=
  (dot.flatMap fun a => dot.map fun b => a ++ b).contains (Text.lower segment)

/-- A letter and a colon or bar, and then nothing more or a backslash. -/
def isDrive : Text → Bool
  | letter :: c :: rest =>
    letter.isAlpha && (c == ':' || c == '|') && (rest == [] || rest.head? == some '\\')
  | _ => false

/-- The segments before the last one, latest first, without their latest. -/
def shorten : List Text → List Text
  | [] => []
  | latest :: rest => if isDrive latest then latest :: rest else rest

/-- One more segment behind those before it, latest first. -/
def enter (before : List Text) (segment : Text) : List Text :=
  if isDoubleDot segment then shorten before
  else if isDot segment then before
  else segment :: before

/-- The path whose segments before the last one are `before`, latest first. -/
def close (before : List Text) (last : Text) : Text :=
  let (before, last) :=
    if isDoubleDot last then (shorten before, [])
    else if isDot last then (before, [])
    else (before, last)
  '/' :: before.reverse.flatMap (· ++ ['/']) ++ last

/-- The path that a text with a slash or something else before it stands for. -/
def normalize (t : Text) : Text :=
  let t := if t.head? = some '/' then t.drop 1 else t
  let segments := (t.splitOn '/').map (Text.Percent.encode isReserved)
  close (segments.dropLast.foldl enter []) (segments.getLast?.getD [])

/-- Nothing stays nothing. -/
def parse (t : Text) : Text := if t = [] then [] else normalize t

end Rtsp.Url.Path
