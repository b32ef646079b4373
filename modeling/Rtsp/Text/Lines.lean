import Rtsp.Text.Basic

/-!
A line ends at a line feed, and a carriage return directly before it belongs to the line end. A
last line without a line feed is a line if it is not empty, and keeps every carriage return.
-/
namespace Rtsp.Text

/-- The line without the carriage return before its line feed. -/
def dropReturn (l : Text) : Text := if l.getLast? = some '\r' then l.dropLast else l

def lines (t : Text) : List Text :=
  let pieces := t.splitOn '\n'
  let last := pieces.getLast?.getD []
  pieces.dropLast.map dropReturn ++ if last = [] then [] else [last]

theorem dropReturn_append (l : Text) : dropReturn (l ++ ['\r']) = l := by
  simp [dropReturn]

/-- The first line is what stands before the first line feed. -/
theorem lines_append {l : Text} (h : '\n' ∉ l) (t : Text) :
    lines (l ++ '\n' :: t) = dropReturn l :: lines t := by
  have hne : t.splitOn '\n' ≠ [] := List.splitOn_ne_nil _ _
  simp only [lines, List.splitOn_append_cons_self_of_not_mem h]
  cases hp : t.splitOn '\n' with
  | nil => exact absurd hp hne
  | cons p ps => simp [List.dropLast]

end Rtsp.Text
