import Rtsp.Text.Composite
import Rtsp.Text.Mark

/-!
The composed form of a text: a letter and the marks behind it become one letter where there is
one. Texts that differ only in how their letters are put together have the same composed form,
because each letter is taken apart first and its marks put into their order. Characters that are
only another way to write some letter are not known here.
-/
namespace Rtsp.Text

open Composite Mark

/-- The parts of a letter with at most `marks` marks. -/
def apart (marks : Nat) (c : Char) : Text :=
  match marks, parts? c with
  | marks + 1, some (first, second) => apart marks first ++ [second]
  | _, _ => [c]

/-- Each letter before its marks, and these in the order of their classes. -/
def inOrder (t : Text) : Text :=
  (t.splitBy fun _ c => combiningClass c != 0).flatMap
    (·.mergeSort fun c d => combiningClass c ≤ combiningClass d)

/-- No letter has more than three marks. -/
def decompose (t : Text) : Text := inOrder (t.flatMap (apart 3))

/-- Joins to `letter` each mark that no mark of the same or a higher class keeps from it. The
marks that stay are in `held`, and the letters before in `done`, both last first. -/
def composeFrom (done : Text) (letter : Char) (held : Text) : Text → Text
  | [] => (held ++ letter :: done).reverse
  | c :: t =>
    match if held.head?.all (combiningClass · < combiningClass c) then whole? letter c else none with
    | some whole => composeFrom done whole held t
    | none =>
      if combiningClass c = 0 then composeFrom (held ++ letter :: done) c [] t
      else composeFrom done letter (c :: held) t

def compose (t : Text) : Text :=
  match decompose t with
  | [] => []
  | c :: t => composeFrom [] c [] t

end Rtsp.Text
