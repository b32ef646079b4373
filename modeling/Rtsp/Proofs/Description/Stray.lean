import Rtsp.Description.Basic
import Rtsp.Proofs.Result

/-!
Where the reading of a description comes to a stray line. A line that cannot be taken apart is
passed over if the line of a medium follows it, or nothing at all. Any other line behind it is
stray, provided that everything before was read without a defect.
-/
namespace Rtsp.Description

/-- All is well up to a line that cannot be taken apart, and behind it comes one that is not of a
medium. -/
inductive Strays (t : Text) : Prop
  | behind {version l : Line} {read rest : List (Except Defect Line)} {d : Defect} {r : Reading}
      (hlist : Line.list t = .ok version :: (read ++ .error d :: .ok l :: rest))
      (hversion : version.key = 'v' ∧ version.value = ['0'])
      (hread : Reading.start.run (read ++ [.error d]) = .ok r) (hkey : l.key ≠ 'm')

section Run

variable {r : Reading} {l : Line} {rest : List (Except Defect Line)}

theorem run_ok {r' : Reading} (h : (if l.key = 'm' then r.next l else r.add l) = .ok r') :
    r.run (.ok l :: rest) = r'.run rest := by
  rw [Reading.run, h]

theorem run_defect {d : Defect} (h : (if l.key = 'm' then r.next l else r.add l) = .error d) :
    r.run (.ok l :: rest) = .error (.defect d) := by
  rw [Reading.run, h]

theorem run_unreadable_medium {d : Defect} (hkey : l.key = 'm') :
    r.run (.error d :: .ok l :: rest) = r.run (.ok l :: rest) := if_pos hkey

theorem run_unreadable_stray {d : Defect} (hkey : l.key ≠ 'm') :
    r.run (.error d :: .ok l :: rest) = .error .stray := if_neg hkey

/-- Reading goes wrong at a stray line exactly if there is one. -/
theorem run_eq_stray_iff {r : Reading} {ls : List (Except Defect Line)} :
    r.run ls = .error .stray ↔
      ∃ read d l rest r', ls = read ++ .error d :: .ok l :: rest ∧
        r.run (read ++ [.error d]) = .ok r' ∧ l.key ≠ 'm' := by
  constructor
  · intro h
    induction ls generalizing r with
    | nil => cases h
    | cons first ls ih =>
      cases first with
      | ok l =>
        cases hline : if l.key = 'm' then r.next l else r.add l with
        | error d =>
          rw [run_defect hline] at h
          cases h
        | ok r' =>
          rw [run_ok hline] at h
          obtain ⟨read, d, l', rest, r'', rfl, hread, hkey⟩ := ih h
          exact ⟨.ok l :: read, d, l', rest, r'', rfl, (run_ok hline).trans hread, hkey⟩
      | error d =>
        cases ls with
        | nil => cases h
        | cons second ls =>
          cases second with
          | error d' => cases h
          | ok l =>
            by_cases hkey : l.key = 'm'
            · rw [run_unreadable_medium hkey] at h
              obtain ⟨read, d', l', rest, r', heq, hread, hkey'⟩ := ih h
              cases read with
              | nil => cases heq
              | cons second' read =>
                obtain ⟨rfl, rfl⟩ := List.cons.inj heq
                exact ⟨.error d :: .ok l :: read, d', l', rest, r', rfl,
                  (run_unreadable_medium hkey).trans hread, hkey'⟩
            · exact ⟨[], d, l, ls, r, rfl, rfl, hkey⟩
  · rintro ⟨read, d, l, rest, r', rfl, hread, hkey⟩
    induction read generalizing r with
    | nil => exact run_unreadable_stray hkey
    | cons first read ih =>
      cases first with
      | ok l' =>
        rw [List.cons_append] at hread
        rw [List.cons_append]
        cases hline : if l'.key = 'm' then r.next l' else r.add l' with
        | error d' =>
          rw [run_defect hline] at hread
          cases hread
        | ok r'' =>
          rw [run_ok hline] at hread
          exact (run_ok hline).trans (ih hread)
      | error d' =>
        cases read with
        | nil => cases hread
        | cons second read =>
          cases second with
          | error d'' => cases hread
          | ok l' =>
            by_cases hkey' : l'.key = 'm'
            · exact (run_unreadable_medium hkey').trans
                (ih ((run_unreadable_medium hkey').symm.trans hread))
            · cases (run_unreadable_stray hkey').symm.trans hread

end Run

/-- A text comes to nothing, not even to a defect, exactly if it strays. -/
theorem read_eq_stray_iff {t : Text} : read t = .error .stray ↔ Strays t := by
  have hreading : read t = .error .stray ↔ Reading.ofText t = .error .stray := by
    unfold read
    cases Reading.ofText t with
    | error stop => simp only [Except.error.injEq]
    | ok r =>
      cases hr : ofReading r with
      | error d => simp [hr, mapError_error]
      | ok d => simp [hr, mapError_ok]
  rw [hreading]
  constructor
  · intro h
    unfold Reading.ofText at h
    split at h
    · cases h
    · cases h
    · rename_i version rest hlist
      split at h
      · cases h
      rename_i hkey
      split at h
      · cases h
      rename_i hvalue
      obtain ⟨before, d, l, after, r, rfl, hread, hother⟩ := run_eq_stray_iff.mp h
      exact .behind hlist ⟨Decidable.not_not.mp hkey, Decidable.not_not.mp hvalue⟩ hread hother
  · rintro ⟨hlist, ⟨hkey, hvalue⟩, hread, hother⟩
    simp only [Reading.ofText, hlist, hkey, hvalue, ne_eq, not_true_eq_false, if_false]
    exact run_eq_stray_iff.mpr ⟨_, _, _, _, _, rfl, hread, hother⟩

end Rtsp.Description
