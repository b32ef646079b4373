import Rtsp.Fault
import Rtsp.Text.Blank
import Rtsp.Text.Case
import Rtsp.Text.Lines
import Rtsp.Text.Utf8

/-!
The header of a message: named values in order, one a line. Letter case does not count in a name,
and a name may come more than once. Names and values are read without the blanks around them, up
to the first empty line.
-/
namespace Rtsp

namespace Header

structure Field where
  name : Text
  value : Text
  deriving DecidableEq, Repr

def Field.isNamed (f : Field) (name : Text) : Bool := Text.sameName f.name name

/-- A field as a line, with its end. -/
def Field.line (f : Field) : Text := f.name ++ ": ".toList ++ f.value ++ ['\r', '\n']

end Header

abbrev Header := List Header.Field

namespace Header

/-- Every value of a name, in order. -/
def values (h : Header) (name : Text) : List Text :=
  (h.filter fun f => f.isNamed name).map Field.value

/-- The first value of a name. -/
def value? (h : Header) (name : Text) : Option Text :=
  (h.find? fun f => f.isNamed name).map Field.value

def add (h : Header) (name value : Text) : Header := h ++ [⟨name, value⟩]

/-- One value in the place of all that a name has, at the end. -/
def put (h : Header) (name value : Text) : Header :=
  (h.filter fun f => !f.isNamed name) ++ [⟨name, value⟩]

def text (h : Header) : Text := h.flatMap Field.line

/-- A line of a header: a name before the first colon, a value behind it. -/
def field? (line : Text) : Option Field :=
  (Text.cut? ':' line).map fun p => ⟨Text.trim p.1, Text.trim p.2⟩

/-- The lines up to the first empty one. -/
def ofLines (lines : List Text) : Except ParseFault Header :=
  match (lines.takeWhile (· != [])).mapM field? with
  | some h => .ok h
  | none => .error .header

theorem value?_eq_head? (h : Header) (name : Text) : h.value? name = (h.values name).head? := by
  simp [value?, values, List.head?_filter]

theorem values_append (g h : Header) (name : Text) :
    Header.values (g ++ h) name = g.values name ++ h.values name := by
  simp [values]

theorem values_put (h : Header) (name value : Text) : (h.put name value).values name = [value] := by
  simp [put, values, Field.isNamed, Text.sameName_refl]

/-- Taking out all fields of a name leaves the values of every other name. -/
theorem values_filter_of_ne (h : Header) {own name : Text} (hne : Text.sameName own name = false) :
    Header.values (h.filter fun f => !f.isNamed own) name = h.values name := by
  have hother : ∀ f : Field, f.isNamed name = true → f.isNamed own = false := by
    intro f hf
    cases hown : f.isNamed own with
    | false => rfl
    | true =>
      have hname : Text.sameName own name = true :=
        Text.sameName_trans (Text.sameName_comm f.name own ▸ hown) hf
      rw [hname] at hne
      cases hne
  rw [values, values, List.filter_filter]
  congr 1
  apply List.filter_congr
  intro f _
  cases hf : f.isNamed name with
  | false => rfl
  | true => simp [hother f hf]

end Header

/-- What stands between the start line and the end of a message: the header, and the body with a
field that tells its length in bytes. -/
def Header.withBody (h : Header) : Option Text → Text
  | none => h.text ++ ['\r', '\n']
  | some body =>
    h.text ++ (Header.Field.mk "Content-Length".toList (Text.decimal (Text.Utf8.size body))).line ++
      ['\r', '\n'] ++ body

end Rtsp
