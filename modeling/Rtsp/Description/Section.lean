import Rtsp.Description.Line
import Rtsp.Text.Blank

/-!
A description falls into sections: the first is about the session, and each of the others begins
with the line of a medium. What is kept of a section are its attributes, in order.

A line that cannot be taken apart ends the open section and is passed over. What follows it begins
the section of a medium: a second such line is refused, and any line but that of a medium is
stray, which ends the reading without a defect to name.
-/
namespace Rtsp.Description

structure Attribute where
  name : Text
  value : Option Text
  deriving DecidableEq, Repr

def Attribute.ofLine (value : Text) : Attribute :=
  match Text.cut? ':' value with
  | some (name, value) => ⟨name, some value⟩
  | none => ⟨value, none⟩

/-- The line that opens the section of a medium. -/
structure Heading where
  kind : Text
  profile : Text
  formats : Text
  deriving DecidableEq, Repr

/-- A port, and perhaps how many of them behind a slash. -/
def Heading.checkPort (n : Nat) (value : Text) : Except Defect Unit := do
  let (port, count) := match Text.cut? '/' value with
    | some (port, count) => (port, some count)
    | none => (value, none)
  let _ ← Line.expect n "Media port" (Text.natural? 16 port)
  match count with
  | some count =>
    let _ ← Line.expect n "Media num-ports" (Text.natural? 16 count)
  | none => pure ()

def Heading.parse (n : Nat) (value : Text) : Except Defect Heading := do
  let (kind, rest) ← Line.need n "Media media" (Text.parts ' ' 4 value)
  let (port, rest) ← Line.need n "Media port" rest
  checkPort n port
  let (profile, rest) ← Line.need n "Media proto" rest
  let (formats, _) ← Line.need n "Media fmt" rest
  pure ⟨kind, profile, formats⟩

structure Section where
  heading : Option Heading
  attributes : List Attribute
  deriving DecidableEq, Repr

namespace Section

/-- The values of an attribute, in order. -/
def values (s : Section) (name : String) : List Text :=
  (s.attributes.filter fun a => a.name == name.toList).filterMap Attribute.value

/-- The first value of an attribute without blanks around it, and nothing if it has none. -/
def control (s : Section) : Text := Text.trim ((s.values "control").headD [])

end Section

/-- Why reading stops before the end of the text: for a defect, or at a stray line. -/
inductive Stop
  | defect (d : Defect)
  | stray
  deriving DecidableEq, Repr

/-- What has been read: the name of the session, the sections before the open one, latest first,
and the open one with its attributes latest first and the keys of its lines. -/
structure Reading where
  name : Text
  closed : List Section
  heading : Option Heading
  attributes : List Attribute
  keys : List Char
  deriving DecidableEq, Repr

namespace Reading

def start : Reading := ⟨[], [], none, [], []⟩

/-- Which keys come once in the open section, and what they are called if they come again. -/
def once? (r : Reading) (key : Char) : Option String :=
  if r.heading.isSome then
    match key with
    | 'i' => some "media titles"
    | 'k' => some "keys"
    | _ => none
  else
    match key with
    | 'o' => some "origins"
    | 's' => some "session-names"
    | 'i' => some "session-information"
    | 'u' => some "URIs"
    | 'c' => some "connections"
    | 'z' => some "zones"
    | 'k' => some "keys"
    | _ => none

/-- A key that comes once has not come before. -/
def claim (r : Reading) (l : Line) : Except Defect Unit :=
  match r.once? l.key with
  | none => .ok ()
  | some what =>
    if r.keys.contains l.key then .error (.multiple l.number what.toList) else .ok ()

/-- What a line leaves behind in the open section. -/
def keep (r : Reading) (l : Line) : Reading :=
  let r := { r with keys := r.keys.insert l.key }
  if l.key = 'a' then { r with attributes := .ofLine l.value :: r.attributes }
  else if l.key = 's' ∧ r.heading = none then { r with name := l.value }
  else r

/-- One more line in the open section. -/
def add (r : Reading) (l : Line) : Except Defect Reading := do
  r.claim l
  if r.heading.isSome then l.checkMedium else l.checkSession (r.keys.contains 't')
  pure (r.keep l)

def openSection (r : Reading) : Section := ⟨r.heading, r.attributes.reverse⟩

/-- The line of a medium closes the open section and opens the next. -/
def next (r : Reading) (l : Line) : Except Defect Reading :=
  (Heading.parse l.number l.value).map fun h =>
    ⟨r.name, r.openSection :: r.closed, some h, [], []⟩

/-- Line after line, up to a stray one or a defect. -/
def run (r : Reading) : List (Except Defect Line) → Except Stop Reading
  | [] => .ok r
  | .ok l :: rest =>
    match if l.key = 'm' then r.next l else r.add l with
    | .ok r => run r rest
    | .error d => .error (.defect d)
  | .error _ :: rest =>
    match rest with
    | [] => .ok r
    | .error d :: _ => .error (.defect d)
    | .ok l :: _ => if l.key = 'm' then run r rest else .error .stray

/-- All sections in order, the session's first. -/
def sections (r : Reading) : List Section := (r.openSection :: r.closed).reverse

/-- The first line tells the version, which is zero. -/
def ofText (t : Text) : Except Stop Reading :=
  match Line.list t with
  | [] => .error (.defect .noVersion)
  | .error d :: _ => .error (.defect d)
  | .ok l :: rest =>
    if l.key ≠ 'v' then .error (.defect .noVersion)
    else if l.value ≠ ['0'] then .error (.defect (.version l.number l.value))
    else run start rest

end Reading

end Rtsp.Description
