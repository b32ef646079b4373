import Rtsp.Domain.Direction
import Rtsp.Domain.Joiner
import Rtsp.Domain.Mapping
import Rtsp.Domain.Punycode

/-!
Names of domains: labels with dots between them, in any script. A name is read as what its
characters stand for, and a label behind `xn--` as the one whose punycode it is: that one is not
in ASCII, and each of its characters already stands for itself.
-/
namespace Rtsp.Domain

open Text

/-- ASCII characters that no name has. -/
def isDenied (c : Char) : Bool :=
  decide (c.toNat ≤ 0x20) || "#/:<>?@[\\]^|%\x7f".toList.contains c

def isAscii (c : Char) : Bool := decide (c.toNat < 0x80)

/-- The label that `coded` is the punycode of. -/
def decoded? (coded : Text) : Option Text := do
  if !coded.all isAscii || decide (2000 < coded.length) then none
  let label ← Punycode.decode? coded
  if !label.all isAscii && label.all isPlain && compose label == label then some label else none

/-- A label as it is read. -/
def label? (t : Text) : Option Text :=
  match after? "xn--".toList t with
  | some coded => decoded? coded
  | none => some t

/-- A label begins with no mark, and its joiners can be seen. One that needs punycode has at most
1000 characters. -/
def isLabel (t : Text) : Bool :=
  !(t.head?.any Mark.isMark) && areJoinersSeen [] t && (t.all isAscii || decide (t.length ≤ 1000))

/-- Labels of one name: if anything in it is read from right to left, each runs one way. -/
def areLabels (ts : List Text) : Bool :=
  ts.all isLabel && (!(ts.any fun t => t.any Direction.isRight) || ts.all Direction.isOneWay)

/-- A name in the characters that it stands for, if it is one. -/
def name? (t : Text) : Option Text := do
  let name ← plain? t
  if name.any isDenied then none
  let labels ← (name.splitOn '.').mapM label?
  if areLabels labels then some name else none

end Rtsp.Domain
