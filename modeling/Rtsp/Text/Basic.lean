/-!
Everything on the control stream is text or bytes. A text is a list of characters and a byte
string a list of bytes, so that each rule of the wire is a rule on lists. Here are the two types
and the ways of taking a text apart that every reader uses: at its separators, and after a given
beginning.
-/
namespace Rtsp

abbrev Text := List Char

abbrev Bytes := List UInt8

namespace Text

/-- What stands before the first `sep`, and what stands after it. -/
def cut? (sep : Char) (t : Text) : Option (Text × Text) :=
  match t.dropWhile (· != sep) with
  | [] => none
  | _ :: after => some (t.takeWhile (· != sep), after)

/-- `cut?`, where a text without the separator is all first part. -/
def cut (sep : Char) (t : Text) : Text × Text :=
  (cut? sep t).getD (t, [])

/-- What follows `start`, if the text begins with it. -/
def after? (start t : Text) : Option Text :=
  if start.isPrefixOf t then some (t.drop start.length) else none

/-- At most `n` parts; the last one holds whatever separators are left. -/
def parts (sep : Char) : Nat → Text → List Text
  | 0, _ => []
  | 1, t => [t]
  | n + 2, t =>
    match cut? sep t with
    | none => [t]
    | some (first, rest) => first :: parts sep (n + 1) rest

/-- The pieces between separators, without those that are empty. -/
def pieces (sep : Char) (t : Text) : List Text := (t.splitOn sep).filter (· != [])

theorem dropWhile_ne_append {sep : Char} {a : Text} (h : sep ∉ a) (b : Text) :
    (a ++ sep :: b).dropWhile (· != sep) = sep :: b := by
  induction a with
  | nil => simp
  | cons c a ih =>
    simp only [List.mem_cons, not_or] at h
    have hc : (c != sep) = true := by simpa using fun e => h.1 e.symm
    simp [hc, ih h.2]

theorem takeWhile_ne_append {sep : Char} {a : Text} (h : sep ∉ a) (b : Text) :
    (a ++ sep :: b).takeWhile (· != sep) = a := by
  induction a with
  | nil => simp
  | cons c a ih =>
    simp only [List.mem_cons, not_or] at h
    have hc : (c != sep) = true := by simpa using fun e => h.1 e.symm
    simp [hc, ih h.2]

/-- A text is cut exactly at its first separator. -/
theorem cut?_append {sep : Char} {a : Text} (h : sep ∉ a) (b : Text) :
    cut? sep (a ++ sep :: b) = some (a, b) := by
  simp [cut?, dropWhile_ne_append h, takeWhile_ne_append h]

theorem cut?_eq_none {sep : Char} {t : Text} (h : sep ∉ t) : cut? sep t = none := by
  have : t.dropWhile (· != sep) = [] := by
    induction t with
    | nil => rfl
    | cons c t ih =>
      simp only [List.mem_cons, not_or] at h
      have hc : (c != sep) = true := by simpa using fun e => h.1 e.symm
      simp [hc, ih h.2]
  simp [cut?, this]

/-- Nothing is lost by a cut but the separator. -/
theorem eq_of_cut? {sep : Char} {t a b : Text} (h : cut? sep t = some (a, b)) :
    t = a ++ sep :: b ∧ sep ∉ a := by
  induction t generalizing a with
  | nil => simp [cut?] at h
  | cons c t ih =>
    by_cases hc : c = sep
    · subst hc
      simp [cut?] at h
      simp [h.1, h.2]
    · have hb : (c != sep) = true := by simpa using hc
      simp only [cut?, List.dropWhile_cons, hb, if_true, List.takeWhile_cons] at h
      cases hd : t.dropWhile (· != sep) with
      | nil => simp [hd] at h
      | cons d r =>
        simp only [hd, Option.some.injEq, Prod.mk.injEq] at h
        obtain ⟨h1, h2⟩ := h
        have ht : cut? sep t = some (t.takeWhile (· != sep), b) := by simp [cut?, hd, h2]
        obtain ⟨e, hn⟩ := ih ht
        subst h1
        exact ⟨by rw [List.cons_append, ← e], by simpa [Ne.symm hc] using hn⟩

theorem after?_append (start t : Text) : after? start (start ++ t) = some t := by
  simp [after?]

end Text

end Rtsp
