import Rtsp.Proofs.Handshake.Round

/-!
The course of a handshake against an arbitrary server. A part of the handshake follows an agenda
if the rounds that it takes are sound, go through the agenda in order, and go on only after a
reply of success; it ends well only with all of the agenda done. Two parts that follow their
agendas follow both, one after the other. The whole handshake asks for the description, sets up
each medium that the description offers, and asks for all of them to be played.
-/
namespace Rtsp.Handshake

/-- What was said from `before` to `after` are the rounds, which go through the agenda. -/
structure Course (server : List Request → Except Halt Response) (settings : Settings)
    (before after : List Request) (agenda : List (Method × Text)) (rounds : List Round) : Prop where
  said : ∃ more, after = before ++ more ∧
    turnsAfter server before more = rounds.flatMap Round.turns
  sound : ∀ r ∈ rounds, r.Sound settings
  passed : ∀ r ∈ rounds.dropLast, r.Passed
  ordered : rounds.map Round.target <+: agenda

/-- All of the agenda was done, with success. -/
def Completes (agenda : List (Method × Text)) (rounds : List Round) : Prop :=
  rounds.map Round.target = agenda ∧ ∀ r ∈ rounds, r.Passed

/-- From wherever a dialogue starts it takes its course, and it ends well only if that is complete. -/
def Follows {α : Type} (server : List Request → Except Halt Response) (settings : Settings)
    (agenda : List (Method × Text)) (d : Dialogue α) : Prop :=
  ∀ before, ∃ rounds,
    Course server settings before (d.run (listening server) before).2 agenda rounds ∧
    ∀ x, (d.run (listening server) before).1 = .ok x → Completes agenda rounds

variable {server : List Request → Except Halt Response} {settings : Settings}
  {before mid after : List Request} {agenda agenda' : List (Method × Text)}
  {rounds rounds' : List Round} {α β : Type}

theorem Course.nil (server : List Request → Except Halt Response) (settings : Settings)
    (before : List Request) (agenda : List (Method × Text)) :
    Course server settings before before agenda [] where
  said := ⟨[], by simp, rfl⟩
  sound := by simp
  passed := by simp
  ordered := List.nil_prefix

/-- A course may end before its agenda does. -/
theorem Course.extend (h : Course server settings before after agenda rounds)
    (agenda' : List (Method × Text)) :
    Course server settings before after (agenda ++ agenda') rounds :=
  { h with ordered := h.ordered.trans (List.prefix_append agenda agenda') }

theorem Course.append (h : Course server settings before mid agenda rounds)
    (hdone : Completes agenda rounds) (h' : Course server settings mid after agenda' rounds') :
    Course server settings before after (agenda ++ agenda') (rounds ++ rounds') where
  said := by
    obtain ⟨a, rfl, ha⟩ := h.said
    obtain ⟨b, rfl, hb⟩ := h'.said
    refine ⟨a ++ b, List.append_assoc before a b, ?_⟩
    rw [turnsAfter_append, ha, hb, List.flatMap_append]
  sound := by
    intro r hr
    rcases List.mem_append.mp hr with hr | hr
    · exact h.sound r hr
    · exact h'.sound r hr
  passed := by
    intro r hr
    by_cases hnil : rounds' = []
    · rw [hnil, List.append_nil] at hr
      exact h.passed r hr
    · rw [List.dropLast_append_of_ne_nil hnil] at hr
      rcases List.mem_append.mp hr with hr | hr
      · exact hdone.2 r hr
      · exact h'.passed r hr
  ordered := by
    rw [List.map_append, hdone.1]
    exact (List.prefix_append_right_inj agenda).mpr h'.ordered

theorem Completes.append (h : Completes agenda rounds) (h' : Completes agenda' rounds') :
    Completes (agenda ++ agenda') (rounds ++ rounds') := by
  constructor
  · rw [List.map_append, h.1, h'.1]
  · intro r hr
    rcases List.mem_append.mp hr with hr | hr
    · exact h.2 r hr
    · exact h'.2 r hr

theorem follows_done (result : Except Halt α) :
    Follows server settings [] (Dialogue.done result) := by
  intro before
  exact ⟨[], Course.nil server settings before [], fun x _ => ⟨rfl, by simp⟩⟩

/-- One part after the other. -/
theorem Follows.andThen {d : Dialogue α} {k : α → Dialogue β}
    (hd : Follows server settings agenda d) (hk : ∀ x, Follows server settings agenda' (k x)) :
    Follows server settings (agenda ++ agenda') (Dialogue.andThen k d) := by
  intro before
  obtain ⟨rounds, hcourse, hdone⟩ := hd before
  rw [Dialogue.run_andThen]
  rcases hrun : d.run (listening server) before with ⟨result, mid⟩
  rw [hrun] at hcourse hdone
  cases result with
  | error h => exact ⟨rounds, hcourse.extend agenda', fun x hx => by simp at hx⟩
  | ok x =>
    obtain ⟨rounds', hcourse', hdone'⟩ := hk x mid
    refine ⟨rounds ++ rounds', hcourse.append (hdone x rfl) hcourse', ?_⟩
    intro y hy
    exact (hdone x rfl).append (hdone' y hy)

section Send

variable {p : Progress} {method : Method} {uri : Text} {fields : Header}
  {k : Response × Progress → Dialogue α}

/-- A request whose response is looked at without another one: all goes on only after success. -/
theorem exists_step
    (hk : ∀ x, ∃ result, k x = .done result ∧ ∀ y, result = .ok y → x.1.isSuccess = true)
    (before : List Request) :
    ∃ r,
      Course server settings before
        ((Dialogue.andThen k (send settings p method uri fields)).run (listening server) before).2
        [(method, uri)] [r] ∧
      ∀ y,
        ((Dialogue.andThen k (send settings p method uri fields)).run (listening server) before).1 =
          .ok y →
        r.target = (method, uri) ∧ r.Passed ∧
          ∃ x, r.answer = .ok x.1 ∧ k x = .done (.ok y) := by
  obtain ⟨r, more, hsound, htarget, hturns, hsaid, hanswer⟩ :=
    exists_round server settings p method uri fields before
  rw [Dialogue.run_andThen]
  rcases hrun : (send settings p method uri fields).run (listening server) before with
    ⟨result, mid⟩
  rw [hrun] at hsaid hanswer
  have hcourse : Course server settings before mid [(method, uri)] [r] :=
    { said := ⟨more, hsaid, by simpa using hturns⟩
      sound := by simpa using hsound
      passed := by simp
      ordered := by simp [htarget] }
  cases result with
  | error h => exact ⟨r, hcourse, fun y hy => by simp at hy⟩
  | ok x =>
    obtain ⟨result, hdone, hsuccess⟩ := hk x
    simp only [hdone, Dialogue.run]
    refine ⟨r, hcourse, ?_⟩
    rintro y rfl
    have hx := hanswer x rfl
    exact ⟨htarget, ⟨x.1, hx, hsuccess y rfl⟩, x, hx, hdone⟩

theorem follows_send
    (hk : ∀ x, ∃ result, k x = .done result ∧ ∀ y, result = .ok y → x.1.isSuccess = true) :
    Follows server settings [(method, uri)]
      (Dialogue.andThen k (send settings p method uri fields)) := by
  intro before
  obtain ⟨r, hcourse, hok⟩ := exists_step hk before
  refine ⟨[r], hcourse, ?_⟩
  intro y hy
  obtain ⟨htarget, hpassed, -⟩ := hok y hy
  exact ⟨by simp [htarget], by simpa using hpassed⟩

end Send

end Rtsp.Handshake
