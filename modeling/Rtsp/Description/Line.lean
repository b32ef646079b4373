import Rtsp.Text.Lines
import Rtsp.Text.Number

/-!
The lines of a session description: one letter, an equals sign, and a value whose grammar depends
on the letter. Lines are numbered from one, empty ones included. A value is checked as far as its
grammar goes, also where nothing of it is used afterwards.
-/
namespace Rtsp.Description

structure Line where
  number : Nat
  key : Char
  value : Text
  deriving DecidableEq, Repr

/-- Why a text is no description of playable media. -/
inductive Defect
  | noVersion
  | version (line : Nat) (value : Text)
  | noEquals (line : Nat)
  | longKey (line : Nat)
  | missing (line : Nat) (field : Text)
  | format (line : Nat) (field : Text)
  | trailing (line : Nat) (field : Text)
  | multiple (line : Nat) (what : Text)
  | noSections
  | noPlayable
  deriving DecidableEq, Repr

namespace Defect

def invalid (reason : Text) : Text := "invalid SDP: ".toList ++ reason

def message : Defect → Text
  | .noVersion => invalid "No version line".toList
  | .version line value =>
    invalid ("Invalid version at line ".toList ++ Text.decimal line ++ ": ".toList ++ value)
  | .noEquals line =>
    invalid ("Invalid formatted line ".toList ++ Text.decimal line ++
      ": \"Line not in key=value format\"".toList)
  | .longKey line =>
    invalid ("Invalid formatted line ".toList ++ Text.decimal line ++
      ": \"Line key not 1 character\"".toList)
  | .missing line field =>
    invalid ("Missing field ".toList ++ field ++ " in line ".toList ++ Text.decimal line)
  | .format line field =>
    invalid ("Invalid field formatting in line ".toList ++ Text.decimal line ++ " at ".toList ++
      field)
  | .trailing line field =>
    invalid ("Field ".toList ++ field ++ " in line ".toList ++ Text.decimal line ++
      " has trailing data".toList)
  | .multiple line what =>
    invalid ("Multiple ".toList ++ what ++ " in line ".toList ++ Text.decimal line)
  | .noSections => "no media sections".toList
  | .noPlayable => "no playable media".toList

end Defect

namespace Line

/-- A key is a single ASCII character. -/
def parse (number : Nat) (t : Text) : Except Defect Line :=
  match Text.cut? '=' t with
  | some ([key], value) =>
    if key.toNat < 0x80 then .ok ⟨number, key, value⟩ else .error (.longKey number)
  | some _ => .error (.longKey number)
  | none => .error (.noEquals number)

/-- The lines of a text that are not empty. -/
def list (t : Text) : List (Except Defect Line) :=
  ((Text.lines t).zipIdx 1).filterMap fun p => if p.1 = [] then none else some (parse p.2 p.1)

/-- The next of some fields, and those behind it. -/
def need (line : Nat) (field : String) : List Text → Except Defect (Text × List Text)
  | [] => .error (.missing line field.toList)
  | t :: rest => .ok (t, rest)

/-- A value that has been read, unless the field is not what it should be. -/
def expect {α : Type} (line : Nat) (field : String) : Option α → Except Defect α
  | some x => .ok x
  | none => .error (.format line field.toList)

/-- Nothing is left of a value. -/
def finish (line : Nat) (field : String) : List Text → Except Defect Unit
  | [] => .ok ()
  | _ :: _ => .error (.trailing line field.toList)

/-- The number of seconds in a unit of time. -/
def secondsIn : Char → Option Nat
  | 'd' => some 86400
  | 'h' => some 3600
  | 'm' => some 60
  | 's' => some 1
  | _ => none

/-- A number of seconds, or of a longer unit whose letter follows it; below `limit`. -/
def time? (limit : Nat) (t : Text) : Option Nat :=
  let (digits, scale) := match t.getLast?.bind secondsIn with
    | some scale => (t.dropLast, scale)
    | none => (t, 1)
  match Text.natural? 64 digits with
  | some n => if n * scale < limit then some (n * scale) else none
  | none => none

/-- How far a time lies from another, before or after it. -/
def offset? : Text → Option Nat
  | '-' :: t => time? (Text.bound 63) t
  | t => time? (Text.bound 63) t

def checkOrigin (n : Nat) (value : Text) : Except Defect Unit := do
  let (_, rest) ← need n "Origin username" (Text.parts ' ' 6 value)
  let (_, rest) ← need n "Origin sess-id" rest
  let (version, rest) ← need n "Origin sess-version" rest
  let _ ← expect n "Origin sess-version" (Text.natural? 64 version)
  let (_, rest) ← need n "Origin nettype" rest
  let (_, rest) ← need n "Origin addrtype" rest
  let _ ← need n "Origin unicast-address" rest

def checkConnection (n : Nat) (value : Text) : Except Defect Unit := do
  let (_, rest) ← need n "Connection nettype" (Text.parts ' ' 3 value)
  let (_, rest) ← need n "Connection addrtype" rest
  let _ ← need n "Connection connection-address" rest

def checkBandwidth (n : Nat) (value : Text) : Except Defect Unit := do
  let (_, rest) ← need n "Bandwidth bwtype" (value.splitOn ':')
  let (amount, rest) ← need n "Bandwidth bandwidth" rest
  let _ ← expect n "Bandwidth bandwidth" (Text.natural? 64 amount)
  finish n "Bandwidth" rest

def checkTime (n : Nat) (value : Text) : Except Defect Unit := do
  let (start, rest) ← need n "Time start-time" (Text.pieces ' ' value)
  let _ ← expect n "Time start-time" (Text.natural? 64 start)
  let (stop, rest) ← need n "Time stop-time" rest
  let _ ← expect n "Time stop-time" (Text.natural? 64 stop)
  finish n "Time" rest

def checkRepeat (n : Nat) (value : Text) : Except Defect Unit := do
  let (interval, rest) ← need n "Repeat repeat-interval" (Text.pieces ' ' value)
  let _ ← expect n "Repeat repeat-interval" (time? (Text.bound 64) interval)
  let (active, rest) ← need n "Repeat active-duration" rest
  let _ ← expect n "Repeat active-duration" (time? (Text.bound 64) active)
  let _ ← expect n "Repeat active-duration" (rest.mapM (time? (Text.bound 64)))

def checkZones (n : Nat) : List Text → Except Defect Unit
  | [] => .ok ()
  | [time] => do
    let _ ← expect n "TimeZone adjustment-time" (Text.natural? 64 time)
    .error (.missing n "TimeZone offset".toList)
  | time :: offset :: rest => do
    let _ ← expect n "TimeZone adjustment-time" (Text.natural? 64 time)
    let _ ← expect n "TimeZone offset" (offset? offset)
    checkZones n rest

/-- A line of the session as a whole. A repetition is one of a time, and without a time before it
it is not looked at. -/
def checkSession (timed : Bool) (l : Line) : Except Defect Unit :=
  match l.key with
  | 'o' => checkOrigin l.number l.value
  | 'c' => checkConnection l.number l.value
  | 'b' => checkBandwidth l.number l.value
  | 't' => checkTime l.number l.value
  | 'r' => if timed then checkRepeat l.number l.value else .ok ()
  | 'z' => checkZones l.number (Text.pieces ' ' l.value)
  | _ => .ok ()

/-- A line of one medium. -/
def checkMedium (l : Line) : Except Defect Unit :=
  match l.key with
  | 'c' => checkConnection l.number l.value
  | 'b' => checkBandwidth l.number l.value
  | _ => .ok ()

end Line

end Rtsp.Description
