import Rtsp.Proofs.Handshake.Course
import Rtsp.Proofs.Result

/-!
What a handshake asks for, whoever the server is: the description of the stream, then each medium
that the description offers, in its order, then all of them to be played. How far it gets is a
beginning of this agenda, and a handshake succeeds only with the whole of it.
-/
namespace Rtsp.Handshake

/-- The base of the control attributes and the description that an answer brings. -/
def described? (plan : Plan) : Except Halt Response → Option (Text × Description)
  | .ok response =>
    match Description.parse (response.body.getD []) with
    | .ok description => some (baseOf plan.settings.locator.uri response, description)
    | .error _ => none
  | .error _ => none

def setupAgenda (base : Text) (media : List Media.Medium) : List (Method × Text) :=
  media.map fun medium => (.setup, Control.resolve base medium.control)

/-- All that there is to ask for, as far as it is known from the description. -/
def agenda (plan : Plan) : Option (Text × Description) → List (Method × Text)
  | none => [(.describe, plan.settings.locator.uri)]
  | some (base, description) =>
    (.describe, plan.settings.locator.uri) ::
      (setupAgenda base description.media ++
        [(.play, Control.resolve base description.control)])

variable (server : List Request → Except Halt Response) (plan : Plan)

theorem isSuccess_of_accept {p : Progress} {control : Text} {proposal : Proposal}
    {response : Response} {x : (Session.Carrier × Option UInt32) × Progress}
    (h : accept plan p control proposal response = .ok x) : response.isSuccess = true := by
  unfold accept at h
  split at h
  · simp at h
  split at h
  · simp at h
  · rename_i hsuccess
    simpa using hsuccess

theorem follows_setup (p : Progress) (index : Nat) (base : Text) (medium : Media.Medium) :
    Follows server plan.settings [(.setup, Control.resolve base medium.control)]
      (setup plan p index base medium) := by
  refine Follows.andThen (?_ : Follows server plan.settings [] _) ?_
  · exact follows_done _
  · rintro ⟨⟨proposal, pair⟩, p⟩
    apply follows_send
    rintro ⟨response, p⟩
    cases haccept : accept plan p (Control.resolve base medium.control) proposal response with
    | error f =>
      refine ⟨.error (.fault f), ?_, by simp⟩
      simp only [haccept]
      rfl
    | ok x =>
      have hsuccess := isSuccess_of_accept plan haccept
      refine ⟨.ok ((⟨medium, Control.resolve base medium.control, x.1.1, x.1.2⟩, pair), x.2), ?_,
        fun _ _ => hsuccess⟩
      simp only [haccept]
      rfl

/-- Medium after medium is set up. -/
theorem follows_setupAll (base : Text) (index : Nat) (p : Progress) (media : List Media.Medium) :
    Follows server plan.settings (setupAgenda base media)
      (setupAll plan base index p media) := by
  induction media generalizing index p with
  | nil => exact follows_done _
  | cons medium media ih =>
    have hfirst := follows_setup server plan p index base medium
    apply hfirst.andThen
    rintro ⟨⟨track, pair⟩, p⟩
    have hrest := (ih (index + 1) p).andThen fun x =>
      follows_done (.ok ((track :: x.1.1, pair.toList ++ x.1.2), x.2))
    rw [List.append_nil] at hrest
    exact hrest

theorem follows_play (p : Progress) (uri : Text) :
    Follows server plan.settings [(.play, uri)] (play plan p uri) := by
  apply follows_send
  rintro ⟨response, p⟩
  by_cases hsuccess : response.isSuccess = true
  · refine ⟨_, if_pos hsuccess, fun _ _ => hsuccess⟩
  · refine ⟨.error (.fault (unexpected .play response)), if_neg hsuccess, by simp⟩

/-- What the response to the first request is good for. -/
def opened (x : Response × Progress) : Except Halt ((Text × Description) × Progress) :=
  if x.1.isSuccess then
    (Description.parse (x.1.body.getD [])).map
      fun d => ((baseOf plan.settings.locator.uri x.1, d), x.2)
  else .error (.fault (unexpected .describe x.1))

theorem opened_eq_ok {x : Response × Progress} {y : (Text × Description) × Progress}
    (h : opened plan x = .ok y) :
    x.1.isSuccess = true ∧ described? plan (.ok x.1) = some y.1 := by
  unfold opened at h
  split at h
  · rename_i hsuccess
    refine ⟨hsuccess, ?_⟩
    obtain ⟨d, hparse, rfl⟩ := exists_of_map_eq_ok h
    simp only [described?, hparse]
  · simp at h

theorem describe_eq (p : Progress) :
    describe plan p =
      Dialogue.andThen (fun x => .done (opened plan x))
        (send plan.settings p .describe plan.settings.locator.uri
          [⟨"Accept".toList, "application/sdp".toList⟩]) := by
  unfold describe
  change Dialogue.andThen _ _ = Dialogue.andThen _ _
  congr 1
  funext ⟨response, p⟩
  by_cases hsuccess : response.isSuccess = true
  · simp only [opened, hsuccess, if_true]
    cases Description.parse (response.body.getD []) <;> rfl
  · simp only [opened, hsuccess, if_false, Bool.false_eq_true]
    rfl

/-- The description is asked for first, and what it says is in the answer. -/
theorem exists_opening (p : Progress) :
    ∃ opening,
      Course server plan.settings [] ((describe plan p).run (listening server) []).2
        (agenda plan none) [opening] ∧
      ∀ x, ((describe plan p).run (listening server) []).1 = .ok x →
        Completes (agenda plan none) [opening] ∧ described? plan opening.answer = some x.1 := by
  rw [describe_eq]
  obtain ⟨opening, hcourse, hok⟩ :=
    exists_step (fun x => ⟨opened plan x, rfl, fun y hy => (opened_eq_ok plan hy).1⟩) []
  refine ⟨opening, hcourse, ?_⟩
  intro y hy
  obtain ⟨htarget, hpassed, x, hx, hdone⟩ := hok y hy
  have hopened : opened plan x = .ok y := by injection hdone
  refine ⟨⟨by simp [agenda, htarget], by simpa using hpassed⟩, ?_⟩
  rw [hx]
  exact (opened_eq_ok plan hopened).2

/-- What is left of a handshake once the description is there. -/
def proceed (base : Text) (description : Description) (p : Progress) : Dialogue Negotiated := do
  let ((tracks, pairs), p) ← setupAll plan base 0 p description.media
  let (range, p) ← play plan p (Control.resolve base description.control)
  pure ⟨sessionOf p base tracks range, pairs, p.signer, p.entropy⟩

theorem dialogue_eq (e : Auth.Entropy) :
    dialogue plan e =
      Dialogue.andThen (fun x => proceed plan x.1.1 x.1.2 x.2) (describe plan (.start e)) := rfl

theorem follows_proceed (base : Text) (description : Description) (p : Progress) :
    Follows server plan.settings
      (setupAgenda base description.media ++ [(.play, Control.resolve base description.control)])
      (proceed plan base description p) := by
  have hall := follows_setupAll server plan base 0 p description.media
  apply hall.andThen
  rintro ⟨⟨tracks, pairs⟩, p⟩
  have hplay := follows_play server plan p (Control.resolve base description.control)
  have hend := hplay.andThen fun x => follows_done
    (.ok (⟨sessionOf x.2 base tracks x.1, pairs, x.2.signer, x.2.entropy⟩ : Negotiated))
  rw [List.append_nil] at hend
  exact hend

/-- Against every server a handshake is a sequence of sound rounds that goes through the agenda in
order, from one to the next only after success. If the handshake succeeds, the description came,
and all that the agenda has was asked for and granted. -/
theorem dialogue_follows_agenda (e : Auth.Entropy) :
    ∃ opening rest,
      turnsAfter server [] ((dialogue plan e).against server).2 =
        (opening :: rest).flatMap Round.turns ∧
      (∀ r ∈ opening :: rest, r.Sound plan.settings) ∧
      (∀ r ∈ (opening :: rest).dropLast, r.Passed) ∧
      (opening :: rest).map Round.target <+: agenda plan (described? plan opening.answer) ∧
      ∀ n, ((dialogue plan e).against server).1 = .ok n →
        (described? plan opening.answer).isSome ∧
        (opening :: rest).map Round.target = agenda plan (described? plan opening.answer) ∧
        ∀ r ∈ opening :: rest, r.Passed := by
  obtain ⟨opening, hcourse, hok⟩ := exists_opening server plan (.start e)
  change ∃ opening rest,
    turnsAfter server [] ((dialogue plan e).run (listening server) []).2 = _ ∧ _ ∧ _ ∧ _ ∧
      ∀ n, ((dialogue plan e).run (listening server) []).1 = _ → _
  rw [dialogue_eq, Dialogue.run_andThen]
  rcases hrun : (describe plan (.start e)).run (listening server) [] with ⟨result, mid⟩
  rw [hrun] at hcourse hok
  cases result with
  | error halt =>
    obtain ⟨more, rfl, hmore⟩ := hcourse.said
    refine ⟨opening, [], hmore, hcourse.sound, hcourse.passed, ?_, fun n hn => by simp at hn⟩
    apply hcourse.ordered.trans
    cases described? plan opening.answer with
    | none => exact List.prefix_refl _
    | some d => exact List.prefix_append [_] _
  | ok x =>
    obtain ⟨hdone, hdescribed⟩ := hok x rfl
    obtain ⟨rounds, hcourse', hok'⟩ := follows_proceed server plan x.1.1 x.1.2 x.2 mid
    have hall := hcourse.append hdone hcourse'
    obtain ⟨more, hsaid, hmore⟩ := hall.said
    rw [List.nil_append] at hsaid
    refine ⟨opening, rounds, hsaid ▸ hmore, hall.sound, hall.passed, ?_, ?_⟩
    · rw [hdescribed]
      exact hall.ordered
    · intro n hn
      have hfull := hdone.append (hok' n hn)
      rw [hdescribed]
      exact ⟨rfl, hfull.1, hfull.2⟩

end Rtsp.Handshake
