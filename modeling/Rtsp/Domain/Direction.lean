import Rtsp.Text.Mark

/-!
The direction in which the characters of a name are read. A name with a letter or number that is
read from right to left has no label that runs both ways: then each label begins with a letter,
keeps its direction, and ends in a letter or a number, whatever marks stand behind it.
-/
namespace Rtsp.Domain

open Text

inductive Direction
  | left
  | right
  | arabicNumber
  | europeanNumber
  | neutral
  | mark
  deriving DecidableEq, Repr

namespace Direction

/-! ### Characters

The tables are as of Unicode 17.0. Runs may go over marks and over characters that no name holds;
all others are read from the left. -/

def rightRuns : List String :=
  ["5BE-5F4 608 60B 60D 61B-64A 66D-6D5 6E5-6E6 6EE-6EF 6FA-7F5 7FA-8C9 FBB2-FBC2 FE73",
   "10800-1091B 10920-10B35 10B40-10D23 10D4A-10D4F 10D6F-10D8F 10E80-10EC7 10F00-10FF6",
   "1E800-1ED3D"]

def arabicNumberRuns : List String :=
  ["660-669 66B-66C 10D30-10D49 10E60-10E7E"]

def europeanNumberRuns : List String :=
  ["30-39 6F0-6F9 102E1-102FB"]

def neutralRuns : List String :=
  ["21-2F 3A-60 7B-D7 F7 2B9-2BA 2C2-2CF 2D2-2ED 2EF-2FF 375 3F6 58A-58F 606-607 609-60A 60C",
   "60E-60F 66A 6DE 6E9 7F6-7F9 9F2-9F3 9FB AF1 BF3-BFA C78-C7E E3F F3A-F3D 1390-1399 1400",
   "169B-169C 17DB 17F0-180A 1940-1945 19DE-19FF 200C-214D 218A-2335 237B-2394 2396-26AB",
   "26AD-27FF 2900-2BFF 2CE5-2CEA 2CF9-2CFF 2E00-3004 3008-3020 3030 3037 303D-303F 30A0 30FB",
   "31C0-31E5 4DC0-4DFF A490-A4C6 A60D-A60F A673-A67F A700-A721 A788 A828-A82B A838-A839",
   "A874-A877 AB6A-AB6B FBC3-FE46 10101 10140-1018C 10190-101A0 1091F 10B39-10B3F 10D6E",
   "10ED0-10ED8 11052-11065 11660-1166C 11FD5-11FF1 16FE2 1CC00-1CEF0 1D1E9-1D245 1D300-1D356",
   "1E2FF 1EEF0-1F12F 1F16D-1F16F 1F1AD 1F260-1FBFA"]

/-- Marks that are read as letters are. -/
def letterMarks : List Nat := [0xCBF, 0xCC6, 0x11A07, 0x11A08, 0x11C3F]

def table : Table Direction :=
  let t := Table.add {} (Run.ofLines rightRuns) fun _ => .right
  let t := t.add (Run.ofLines arabicNumberRuns) fun _ => .arabicNumber
  let t := t.add (Run.ofLines europeanNumberRuns) fun _ => .europeanNumber
  t.add (Run.ofLines neutralRuns) fun _ => .neutral

def of (c : Char) : Direction :=
  if letterMarks.contains c.toNat then .left
  else if Mark.isNonspacing c then .mark
  else (table.find? c).getD .left

/-! ### Labels -/

/-- A letter or number that is read from right to left. -/
def isRight (c : Char) : Bool :=
  match of c with
  | .right | .arabicNumber => true
  | _ => false

/-- The last one that is no mark is among `ends`, if there is any. -/
def endsIn (ends ds : List Direction) : Bool :=
  (ds.reverse.dropWhile (· == mark)).head?.all ends.contains

/-- A label that runs one way. -/
def isOneWay (label : Text) : Bool :=
  match label.map of with
  | [] => true
  | .left :: ds =>
    ds.all [left, europeanNumber, neutral, mark].contains && endsIn [left, europeanNumber] ds
  | .right :: ds =>
    ds.all [right, arabicNumber, europeanNumber, neutral, mark].contains &&
      endsIn [right, arabicNumber, europeanNumber] ds &&
      !(ds.contains arabicNumber && ds.contains europeanNumber)
  | _ => false

end Direction

end Rtsp.Domain
