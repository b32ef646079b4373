/-!
What is known of a result that was mapped: how it was reached, and that nothing else was.
-/
namespace Rtsp

variable {ε α β : Type}

section Except

variable {x : Except ε α} {f : α → β}

theorem exists_of_map_eq_ok {b : β} (h : x.map f = .ok b) : ∃ a, x = .ok a ∧ f a = b := by
  cases x with
  | error e => cases h
  | ok a => exact ⟨a, rfl, Except.ok.inj h⟩

theorem eq_error_of_map {e : ε} (h : x.map f = .error e) : x = .error e := by
  cases x with
  | error e' => exact congrArg Except.error (Except.error.inj h)
  | ok a => cases h

theorem mapError_ok {ε' : Type} {g : ε → ε'} {a : α} :
    (Except.ok a : Except ε α).mapError g = .ok a := rfl

theorem mapError_error {ε' : Type} {g : ε → ε'} {e : ε} :
    (Except.error e : Except ε α).mapError g = .error (g e) := rfl

end Except

section Option

variable {f : α → Option β}

theorem exists_of_mapM_cons {a : α} {l : List α} {r : List β} (h : (a :: l).mapM f = some r) :
    ∃ b, f a = some b ∧ ∃ rest, l.mapM f = some rest ∧ b :: rest = r := by
  simpa only [List.mapM_cons, Option.bind_eq_bind, Option.bind_eq_some_iff, Option.pure_def,
    Option.some.injEq] using h

/-- Each value comes from a member of the list. -/
theorem exists_of_mem_mapM {l : List α} {r : List β} (h : l.mapM f = some r) :
    ∀ b ∈ r, ∃ a ∈ l, f a = some b := by
  induction l generalizing r with
  | nil =>
    rw [List.mapM_nil] at h
    obtain rfl := Option.some.inj h
    exact fun b hb => absurd hb List.not_mem_nil
  | cons a l ih =>
    obtain ⟨b, hb, rest, hrest, rfl⟩ := exists_of_mapM_cons h
    refine List.forall_mem_cons.mpr ⟨⟨a, List.mem_cons_self, hb⟩, fun b' hb' => ?_⟩
    obtain ⟨a', ha', hvalue⟩ := ih hrest b' hb'
    exact ⟨a', List.mem_cons_of_mem a ha', hvalue⟩

end Option

end Rtsp
