import Rtsp.Proofs.Handshake.Script
import Rtsp.Proofs.Handshake.Verdict

/-!
How a handshake ends. Round after round goes through the agenda, until one of them stops it, or
ports or channels are lacking for the next medium, or the agenda is done. The rounds say which of
these it was, and so they say what the error is.
-/
namespace Rtsp.Handshake

/-- The rounds that are left of an agenda, the first of which has this number, and the error that
they end with, if there is one. -/
inductive Ends (plan : Plan) : Nat → List (Method × Text) → List Round → Option Halt → Prop
  | done (number : Nat) : Ends plan number [] [] none
  | lacking {index : Nat} {control : Text} {agenda : List (Method × Text)} {f : Fault}
      (h : Lacks plan index control f) :
      Ends plan (index + 1) ((.setup, control) :: agenda) [] (some (.fault f))
  | stopped {number : Nat} {target : Method × Text} {agenda : List (Method × Text)} {r : Round}
      {halt : Halt} (htarget : r.target = target) (h : r.Stops plan number halt) :
      Ends plan number (target :: agenda) [r] (some halt)
  | passed {number : Nat} {target : Method × Text} {agenda : List (Method × Text)} {r : Round}
      {rounds : List Round} {ending : Option Halt} (htarget : r.target = target)
      (hpassed : ∀ halt, ¬ r.Stops plan number halt)
      (hrest : Ends plan (number + 1) agenda rounds ending) :
      Ends plan number (target :: agenda) (r :: rounds) ending

section Ends

variable {plan : Plan} {number : Nat} {agenda agenda' : List (Method × Text)}
  {rounds rounds' : List Round} {ending ending' : Option Halt} {halt : Halt}

/-- The rounds determine the ending. -/
theorem Ends.unique (h : Ends plan number agenda rounds ending)
    (h' : Ends plan number agenda rounds ending') : ending = ending' := by
  induction h with
  | done number =>
    cases h'
    rfl
  | lacking h =>
    cases h' with
    | lacking h' => rw [h.unique h']
  | stopped htarget h =>
    cases h' with
    | stopped htarget' h' => rw [h.unique h']
    | passed htarget' hpassed => exact absurd h (hpassed _)
  | passed htarget hpassed hrest ih =>
    cases h' with
    | stopped htarget' h' => exact absurd h' (hpassed _)
    | passed htarget' hpassed' hrest' => exact ih hrest'

/-- A round goes to its target, and is the last one if it is stopped. -/
theorem Ends.first {target : Method × Text} {r : Round}
    (h : Ends plan number (target :: agenda) (r :: rounds) ending) :
    r.target = target ∧ ∀ halt, r.Stops plan number halt → ending = some halt := by
  cases h with
  | stopped htarget h => exact ⟨htarget, fun halt h' => congrArg some (h.unique h')⟩
  | passed htarget hpassed => exact ⟨htarget, fun halt h' => absurd h' (hpassed halt)⟩

/-- An error ends the whole agenda, whatever is left of it. -/
theorem Ends.extend (h : Ends plan number agenda rounds (some halt))
    (agenda' : List (Method × Text)) :
    Ends plan number (agenda ++ agenda') rounds (some halt) := by
  generalize hending : some halt = ending at h
  induction h with
  | done number => cases hending
  | lacking h => exact .lacking h
  | stopped htarget h => exact .stopped htarget h
  | passed htarget hpassed _ ih => exact .passed htarget hpassed (ih hending)

/-- After an agenda that is done comes the next. -/
theorem Ends.append (h : Ends plan number agenda rounds none)
    (h' : Ends plan (number + agenda.length) agenda' rounds' ending) :
    Ends plan number (agenda ++ agenda') (rounds ++ rounds') ending := by
  generalize hending : none = ending' at h
  induction h with
  | done number => exact h'
  | lacking h => cases hending
  | stopped htarget h => cases hending
  | passed htarget hpassed _ ih =>
    rw [List.length_cons, Nat.add_comm _ 1, ← Nat.add_assoc] at h'
    exact .passed htarget hpassed (ih h' hending)

end Ends

section Concludes

/-- However the dialogue ends after the turns `past`, whoever the server is, all turns and the
result are in the relation. -/
inductive Concludes {α : Type} (P : List Turn → Except Halt α → Prop) :
    List Turn → Dialogue α → Prop
  | done {past : List Turn} {result : Except Halt α} (h : P past result) :
      Concludes P past (.done result)
  | ask {past : List Turn} {request : Request} {next : Response → Dialogue α}
      (hhalt : ∀ halt, P (past ++ [⟨request, .error halt⟩]) (.error halt))
      (hnext : ∀ response, Concludes P (past ++ [⟨request, .ok response⟩]) (next response)) :
      Concludes P past (.ask request next)

variable {α β : Type} {P : List Turn → Except Halt α → Prop}
  {P' : List Turn → Except Halt β → Prop} {past : List Turn} {d : Dialogue α}

theorem Concludes.andThen {k : α → Dialogue β} (hd : Concludes P past d)
    (hhalt : ∀ now halt, P now (.error halt) → P' now (.error halt))
    (hk : ∀ now x, P now (.ok x) → Concludes P' now (k x)) :
    Concludes P' past (Dialogue.andThen k d) := by
  induction hd with
  | @done past result h =>
    cases result with
    | error halt => exact .done (hhalt past halt h)
    | ok x => exact hk past x h
  | ask h _ ih => exact .ask (fun halt => hhalt _ halt (h halt)) ih

theorem Concludes.mono {P' : List Turn → Except Halt α → Prop} (hd : Concludes P past d)
    (h : ∀ now result, P now result → P' now result) : Concludes P' past d := by
  induction hd with
  | done hP => exact .done (h _ _ hP)
  | ask hhalt _ ih => exact .ask (fun halt => h _ _ (hhalt halt)) ih

/-- A run that goes on after the requests `before`. -/
theorem Concludes.run (hd : Concludes P past d) (server : List Request → Except Halt Response)
    {before : List Request} (hpast : turnsAfter server [] before = past) :
    P (turnsAfter server [] (d.run (listening server) before).2)
      (d.run (listening server) before).1 := by
  induction hd generalizing before with
  | done h => exact hpast ▸ h
  | @ask past request next h _ ih =>
    have hnow : turnsAfter server [] (before ++ [request]) =
        past ++ [⟨request, server (before ++ [request])⟩] := by
      rw [turnsAfter_append, hpast, List.nil_append, turnsAfter, turnsAfter]
    cases hreply : server (before ++ [request]) with
    | error halt =>
      rw [run_ask_error hreply, hnow, hreply]
      exact h halt
    | ok response =>
      rw [run_ask_ok hreply]
      exact ih response (hnow.trans (by rw [hreply]))

end Concludes

/-- The error of a result. -/
def halted? {α : Type} : Except Halt α → Option Halt
  | .ok _ => none
  | .error halt => some halt

theorem halted?_eq_some {α : Type} {result : Except Halt α} {halt : Halt}
    (h : halted? result = some halt) : result = .error halt := by
  cases result with
  | ok x => cases h
  | error halt' => rw [Option.some.inj h]

section Send

/-- What one request comes to. -/
structure Round.Comes (plan : Plan) (p : Progress) (target : Method × Text) (r : Round)
    (result : Except Halt (Response × Progress)) : Prop where
  sound : r.Sound plan.settings
  target_eq : r.target = target
  halted : ∀ halt, result = .error halt → ∀ number, r.Stops plan number halt
  answered : ∀ x, result = .ok x → r.answer = .ok x.1 ∧ x.1.status ≠ unauthorized
  kept : ∀ x, result = .ok x → x.2.bound = p.bound ∧ x.2.session = p.session

variable {plan : Plan} {p : Progress} {method : Method} {uri : Text} {fields : Header}
  {past : List Turn}

theorem Round.Comes.of_halt {r : Round} (hsound : r.Sound plan.settings) {halt : Halt}
    (h : ∀ number, r.Stops plan number halt) : r.Comes plan p r.target (.error halt) where
  sound := hsound
  target_eq := rfl
  halted := by
    rintro _ ⟨⟩
    exact h
  answered := by rintro _ ⟨⟩
  kept := by rintro _ ⟨⟩

theorem Round.Comes.of_response {r : Round} (hsound : r.Sound plan.settings)
    {x : Response × Progress} (hanswer : r.answer = .ok x.1) (hstatus : x.1.status ≠ unauthorized)
    (hkept : x.2.bound = p.bound ∧ x.2.session = p.session) :
    r.Comes plan p r.target (.ok x) where
  sound := hsound
  target_eq := rfl
  halted := by rintro _ ⟨⟩
  answered := by
    rintro _ ⟨⟩
    exact ⟨hanswer, hstatus⟩
  kept := by
    rintro _ ⟨⟩
    exact hkept

/-- Why a refusal is not answered. -/
theorem answer?_eq_error {response : Response} {f : Fault} {r : Round} (hagain : r.again = none)
    (h : answer? plan.settings r.method response = .error f) :
    f = .authentication (r.refusal plan.settings) := by
  unfold answer? at h
  unfold Round.refusal
  rw [hagain]
  split at h
  · rename_i hnone
    rw [← Except.error.inj h, hnone]
    rfl
  · rename_i credentials hsome
    split at h
    · rw [← Except.error.inj h, hsome]
      rfl
    · cases h

theorem concludes_send :
    Concludes (fun now result => ∃ r : Round, now = past ++ r.turns ∧
      r.Comes plan p (method, uri) result) past (send plan.settings p method uri fields) := by
  rw [send_eq]
  have hkept : ∀ signer,
      let again := compose { (compose p method uri fields).2 with signer := some signer }
        method uri fields
      again.2.bound = p.bound ∧ again.2.session = p.session := fun signer =>
    ⟨(compose_bound _ method uri fields).trans (compose_bound p method uri fields),
      (compose_session _ method uri fields).trans (compose_session p method uri fields)⟩
  refine .ask (fun halt => ⟨_, rfl, .of_halt (Round.sound_once
    (Round.not_answerable_error plan.settings halt)) fun _ => .unanswered rfl⟩) fun response => ?_
  have hiff := Round.answerable_ok_iff plan.settings method response
  by_cases hstatus : response.status ≠ unauthorized
  · rw [if_pos hstatus]
    exact .done ⟨_, rfl, .of_response (Round.sound_once (mt hiff.mp fun h => hstatus h.1)) rfl
      hstatus ⟨compose_bound p method uri fields, compose_session p method uri fields⟩⟩
  rw [if_neg hstatus]
  cases hanswer : answer? plan.settings method response with
  | error f =>
    have hno := mt hiff.mp fun h => by simp [hanswer] at h
    refine .done ⟨⟨method, uri, _, none⟩, rfl, .of_halt (Round.sound_once hno) fun _ => ?_⟩
    rw [answer?_eq_error (r := ⟨method, uri, _, none⟩) rfl hanswer]
    exact .unauthorized rfl (Decidable.not_not.mp hstatus)
  | ok signer =>
    have hyes := hiff.mpr ⟨Decidable.not_not.mp hstatus, signer, hanswer⟩
    refine .ask (fun halt => ⟨_, List.append_assoc _ _ _, .of_halt
      (Round.sound_twice hyes signer) fun _ => .unanswered rfl⟩) fun last => ?_
    by_cases hlast : last.status ≠ unauthorized
    · rw [if_pos hlast]
      exact .done ⟨_, List.append_assoc _ _ _, .of_response (Round.sound_twice hyes signer) rfl
        hlast (hkept signer)⟩
    · rw [if_neg hlast]
      exact .done ⟨_, List.append_assoc _ _ _, .of_halt (Round.sound_twice hyes signer) fun _ =>
        .unauthorized rfl (Decidable.not_not.mp hlast)⟩

end Send

section Step

/-- What a request and the look at its response come to. -/
structure Round.Settles {α : Type} (plan : Plan) (number : Nat) (target : Method × Text)
    (r : Round) (result : Except Halt α) : Prop where
  sound : r.Sound plan.settings
  target_eq : r.target = target
  stopped : ∀ halt, result = .error halt → r.Stops plan number halt
  passed : ∀ y, result = .ok y → ∀ halt, ¬ r.Stops plan number halt

variable {α : Type} {plan : Plan} {number : Nat} {p : Progress} {method : Method} {uri : Text}
  {fields : Header} {past : List Turn}

theorem Round.Settles.ends {target : Method × Text} {r : Round} {result : Except Halt α}
    (h : r.Settles plan number target result) :
    Ends plan number [target] [r] (halted? result) := by
  cases result with
  | error halt => exact .stopped h.target_eq (h.stopped halt rfl)
  | ok y => exact .passed h.target_eq (h.passed y rfl) (.done (number + 1))

/-- A request whose response is looked at without another one. -/
theorem concludes_step (number : Nat) {look : Response × Progress → Except Halt α}
    (hlook : ∀ response p', p'.bound = p.bound → p'.session = p.session → ∀ halt,
      look (response, p') = .error halt ↔ Objects plan number method uri response halt) :
    Concludes (fun now result => ∃ r : Round, now = past ++ r.turns ∧
      r.Settles plan number (method, uri) result ∧
      ∀ y, result = .ok y → ∃ response p', r.answer = .ok response ∧ p'.bound = p.bound ∧
        p'.session = p.session ∧ look (response, p') = .ok y)
      past (Dialogue.andThen (fun x => .done (look x))
        (send plan.settings p method uri fields)) := by
  refine concludes_send.andThen ?_ ?_
  · rintro now halt ⟨r, hnow, hr⟩
    refine ⟨r, hnow, ⟨hr.sound, hr.target_eq, ?_, by rintro _ ⟨⟩⟩, by rintro _ ⟨⟩⟩
    rintro _ ⟨⟩
    exact hr.halted halt rfl number
  · rintro now ⟨response, p'⟩ ⟨r, hnow, hr⟩
    obtain ⟨hanswer, hstatus⟩ := hr.answered _ rfl
    obtain ⟨hbound, hsession⟩ := hr.kept _ rfl
    obtain ⟨hmethod, huri⟩ := Prod.mk.inj hr.target_eq
    have hiff := hlook response p' hbound hsession
    rw [← hmethod, ← huri] at hiff
    refine .done ⟨r, hnow, ⟨hr.sound, hr.target_eq, fun halt h => ?_, fun y h halt hstops => ?_⟩,
      fun y h => ⟨response, p', hanswer, hbound, hsession, h⟩⟩
    · exact .objected hanswer hstatus ((hiff halt).mp h)
    · cases hstops with
      | unanswered hanswer' => cases hanswer.symm.trans hanswer'
      | unauthorized hanswer' hstatus' =>
        obtain rfl := Except.ok.inj (hanswer.symm.trans hanswer')
        exact hstatus hstatus'
      | objected hanswer' hstatus' hobjects =>
        obtain rfl := Except.ok.inj (hanswer.symm.trans hanswer')
        cases ((hiff halt).mpr hobjects).symm.trans h

end Step

section Parts

variable {α β : Type} {plan : Plan}

/-- A part of a handshake: its rounds go through its agenda, and its result is how they end. -/
structure Part (plan : Plan) (number : Nat) (agenda : List (Method × Text))
    (past now : List Turn) (rounds : List Round) (result : Except Halt α) : Prop where
  said : now = past ++ rounds.flatMap Round.turns
  sound : ∀ r ∈ rounds, r.Sound plan.settings
  ends : Ends plan number agenda rounds (halted? result)

variable {number : Nat} {agenda agenda' : List (Method × Text)} {past now now' : List Turn}
  {rounds rounds' : List Round}

theorem Part.of_settles {target : Method × Text} {r : Round} {result : Except Halt α}
    (h : r.Settles plan number target result) :
    Part plan number [target] past (past ++ r.turns) [r] result where
  said := by rw [List.flatMap_singleton]
  sound := List.forall_mem_singleton.mpr h.sound
  ends := h.ends

/-- A part that fails is the end of the whole. -/
theorem Part.extend {halt : Halt}
    (h : Part plan number agenda past now rounds (.error halt : Except Halt α))
    (agenda' : List (Method × Text)) :
    Part plan number (agenda ++ agenda') past now rounds (.error halt : Except Halt β) :=
  ⟨h.said, h.sound, h.ends.extend agenda'⟩

theorem Part.append {x : α} {result : Except Halt β}
    (h : Part plan number agenda past now rounds (.ok x : Except Halt α))
    (h' : Part plan (number + agenda.length) agenda' now now' rounds' result) :
    Part plan number (agenda ++ agenda') past now' (rounds ++ rounds') result where
  said := by rw [h'.said, h.said, List.flatMap_append, List.append_assoc]
  sound := List.forall_mem_append.mpr ⟨h.sound, h'.sound⟩
  ends := h.ends.append h'.ends

/-- The progress once all media before `index` are set up. -/
structure AtIndex (plan : Plan) (index : Nat) (p : Progress) : Prop where
  bound_eq : plan.mode = .udp → p.bound = index
  session_iff : p.session = none ↔ index = 0

end Parts

section Whole

variable {plan : Plan} {number index : Nat} {base : Text} {p : Progress} {past : List Turn}

theorem session_of_nameSession {p p' : Progress} {response : Response}
    (h : nameSession p response = some p') : p'.session ≠ none := by
  unfold nameSession at h
  split at h
  · rename_i hsession
    rw [← Option.some.inj h, hsession]
    exact Option.some_ne_none _
  · rw [← Option.some.inj h]
    exact Option.some_ne_none _
  · cases h

/-- What the reply to a proposal makes of a medium, for which a pair of ports may have been taken. -/
def settled (plan : Plan) (control : Text) (medium : Media.Medium) (proposed : Proposal × Option Pair)
    (x : Response × Progress) : Except Halt ((Session.Track × Option Pair) × Progress) :=
  ((accept plan x.2 control proposed.1 x.1).map fun y =>
    ((⟨medium, control, y.1.1, y.1.2⟩, proposed.2), y.2)).mapError .fault

theorem setup_eq (p : Progress) (index : Nat) (base : Text) (medium : Media.Medium) :
    setup plan p index base medium =
      Dialogue.andThen (fun y => Dialogue.andThen
          (fun x => .done (settled plan (Control.resolve base medium.control) medium y.1 x))
          (send plan.settings y.2 .setup (Control.resolve base medium.control)
            [⟨"Transport".toList, y.1.1.transport.text⟩]))
        (ofExcept (propose plan p index (Control.resolve base medium.control))) := by
  unfold setup
  change Dialogue.andThen _ _ = Dialogue.andThen _ _
  congr 1
  funext ⟨⟨proposal, pair⟩, p⟩
  change Dialogue.andThen _ _ = Dialogue.andThen _ _
  congr 1
  funext ⟨response, p⟩
  unfold settled
  cases haccept : accept plan p (Control.resolve base medium.control) proposal response <;>
    simp only [haccept] <;> rfl

theorem settled_eq_ok {p : Progress} {control : Text} {medium : Media.Medium}
    {proposed : Proposal × Option Pair} {response : Response}
    {x : (Session.Track × Option Pair) × Progress}
    (h : settled plan control medium proposed (response, p) = .ok x) :
    nameSession p response = some x.2 := by
  unfold settled at h
  cases haccept : accept plan p control proposed.1 response with
  | error f =>
    rw [haccept] at h
    cases h
  | ok y =>
    rw [haccept] at h
    rw [← Except.ok.inj h]
    exact (accept_eq_ok haccept).2.1

theorem settled_eq_error_iff {p : Progress} {index : Nat} {control : Text} {medium : Media.Medium}
    {proposed : Proposal × Option Pair} {response : Response} {halt : Halt}
    (hproposes : Proposes plan index proposed.1 proposed.2)
    (hsession : p.session = none ↔ number = 1) :
    settled plan control medium proposed (response, p) = .error halt ↔
      Objects plan number .setup control response halt := by
  have hiff : ∀ f, accept plan p control proposed.1 response = .error f ↔
      Refuses plan number control response f := fun f => accept_eq_error_iff hproposes hsession
  constructor
  · intro h
    unfold settled at h
    cases haccept : accept plan p control proposed.1 response with
    | ok y =>
      rw [haccept] at h
      cases h
    | error f =>
      rw [haccept] at h
      obtain rfl := Except.error.inj h
      exact .refused rfl ((hiff f).mp haccept)
  · intro h
    cases h with
    | unexpected hmethod => exact absurd rfl hmethod
    | malformed hmethod => cases hmethod
    | stray hmethod => cases hmethod
    | refused hmethod h =>
      unfold settled
      rw [(hiff _).mpr h]
      rfl

/-- One medium: nothing can be proposed for it, or it takes a round. -/
theorem concludes_setup (medium : Media.Medium) (hp : AtIndex plan index p) :
    Concludes (fun now result => ∃ rounds,
      Part plan (index + 1) [(.setup, Control.resolve base medium.control)] past now rounds result ∧
      ∀ x, result = .ok x → AtIndex plan (index + 1) x.2)
      past (setup plan p index base medium) := by
  rw [setup_eq]
  cases hpropose : propose plan p index (Control.resolve base medium.control) with
  | error f =>
    have hlacks := (propose_eq_error_iff hp.bound_eq).mp hpropose
    refine .done ⟨[], ⟨?_, by simp, .lacking hlacks⟩, by rintro _ ⟨⟩⟩
    rw [List.flatMap_nil, List.append_nil]
  | ok y =>
    obtain ⟨⟨proposal, pair⟩, p'⟩ := y
    obtain ⟨hproposes, hbound⟩ := proposes_of_propose hp.bound_eq hpropose
    have hsession : p'.session = none ↔ index + 1 = 1 := by
      obtain ⟨-, -, bound, rfl⟩ := propose_eq_ok hpropose
      rw [hp.session_iff]
      omega
    refine (concludes_step (index + 1) fun _ _ _ hkept _ =>
      settled_eq_error_iff hproposes (hkept ▸ hsession)).mono ?_
    rintro now result ⟨r, rfl, hr, hok⟩
    refine ⟨[r], .of_settles hr, ?_⟩
    rintro x rfl
    obtain ⟨response, p'', hanswer, hbound'', -, hlook⟩ := hok x rfl
    have hname := settled_eq_ok hlook
    refine ⟨fun hudp => ?_, fun hnone => absurd hnone (session_of_nameSession hname),
      fun h => by omega⟩
    exact ((nameSession_eq_some hname).1.trans hbound'').trans (hbound hudp)

/-- Medium after medium. -/
theorem concludes_setupAll (media : List Media.Medium) (hp : AtIndex plan index p) :
    Concludes (fun now result => ∃ rounds,
      Part plan (index + 1) (setupAgenda base media) past now rounds result)
      past (setupAll plan base index p media) := by
  induction media generalizing index p past with
  | nil => exact .done ⟨[], by simp, by simp, .done (index + 1)⟩
  | cons medium media ih =>
    refine (concludes_setup medium hp).andThen ?_ ?_
    · rintro now halt ⟨rounds, hpart, -⟩
      exact ⟨rounds, hpart.extend (setupAgenda base media)⟩
    · rintro now ⟨⟨track, pair⟩, p'⟩ ⟨rounds, hpart, hp'⟩
      refine (ih (hp' _ rfl)).andThen ?_ ?_
      · rintro now' halt ⟨rounds', hpart'⟩
        exact ⟨rounds ++ rounds', hpart.append ⟨hpart'.said, hpart'.sound, hpart'.ends⟩⟩
      · rintro now' ⟨⟨tracks, pairs⟩, p''⟩ ⟨rounds', hpart'⟩
        exact .done ⟨rounds ++ rounds', hpart.append ⟨hpart'.said, hpart'.sound, hpart'.ends⟩⟩

theorem concludes_play (number : Nat) (p : Progress) (uri : Text) :
    Concludes (fun now result => ∃ rounds, Part plan number [(.play, uri)] past now rounds result)
      past (play plan p uri) := by
  rw [play_eq]
  refine (concludes_step number fun _ _ _ _ _ => played_eq_error_iff).mono ?_
  rintro now result ⟨r, rfl, hr, -⟩
  exact ⟨[r], .of_settles hr⟩

/-- What is left once the description is there. -/
theorem concludes_proceed (description : Description) (hp : AtIndex plan 0 p) :
    Concludes (fun now result => ∃ rounds,
      Part plan 1 (setupAgenda base description.media ++
        [(.play, Control.resolve base description.control)]) past now rounds result)
      past (proceed plan base description p) := by
  refine (concludes_setupAll description.media hp).andThen ?_ ?_
  · rintro now halt ⟨rounds, hpart⟩
    exact ⟨rounds, hpart.extend _⟩
  rintro now ⟨⟨tracks, pairs⟩, p'⟩ ⟨rounds, hpart⟩
  refine (concludes_play (1 + (setupAgenda base description.media).length) p' _).andThen ?_ ?_
  · rintro now' halt ⟨rounds', hpart'⟩
    exact ⟨rounds ++ rounds', hpart.append ⟨hpart'.said, hpart'.sound, hpart'.ends⟩⟩
  · rintro now' ⟨range, p''⟩ ⟨rounds', hpart'⟩
    exact .done ⟨rounds ++ rounds', hpart.append ⟨hpart'.said, hpart'.sound, hpart'.ends⟩⟩

/-- The round of the description. -/
theorem concludes_describe (p : Progress) :
    Concludes (fun now result => ∃ opening,
      Part plan 0 (agenda plan none) past now [opening] result ∧
      ∀ x, result = .ok x → described? plan opening.answer = some x.1 ∧
        x.2.bound = p.bound ∧ x.2.session = p.session)
      past (describe plan p) := by
  rw [describe_eq]
  refine (concludes_step 0 fun _ _ _ _ _ => opened_eq_error_iff).mono ?_
  rintro now result ⟨r, rfl, hr, hok⟩
  refine ⟨r, .of_settles hr, ?_⟩
  rintro x rfl
  obtain ⟨response, p', hanswer, hbound, hsession, hopened⟩ := hok x rfl
  obtain ⟨y, rfl⟩ : ∃ y, x = (y, p') := by
    unfold opened at hopened
    split at hopened
    · obtain ⟨d, -, rfl⟩ := exists_of_map_eq_ok hopened
      exact ⟨_, rfl⟩
    · cases hopened
  exact ⟨hanswer ▸ (opened_eq_ok plan hopened).2, hbound, hsession⟩

/-- The rounds of a whole handshake go through the agenda that the first of them brings. -/
theorem concludes_dialogue (plan : Plan) (e : Auth.Entropy) :
    Concludes (fun now result => ∃ opening rest,
      Part plan 0 (agenda plan (described? plan opening.answer)) [] now (opening :: rest) result)
      [] (dialogue plan e) := by
  rw [dialogue_eq]
  refine (concludes_describe (.start e)).andThen ?_ ?_
  · rintro now halt ⟨opening, hpart, -⟩
    refine ⟨opening, [], ?_⟩
    cases described? plan opening.answer with
    | none => exact ⟨hpart.said, hpart.sound, hpart.ends⟩
    | some d => exact hpart.extend _
  · rintro now ⟨⟨base, description⟩, p⟩ ⟨opening, hpart, hok⟩
    obtain ⟨hdescribed, hbound, hsession⟩ := hok _ rfl
    have hp : AtIndex plan 0 p :=
      { bound_eq := fun _ => hbound
        session_iff := ⟨fun _ => rfl, fun _ => hsession⟩ }
    refine (concludes_proceed description hp).mono ?_
    rintro now' result ⟨rounds, hpart'⟩
    refine ⟨opening, rounds, ?_⟩
    rw [hdescribed]
    exact hpart.append hpart'

end Whole

/-- A description that cannot be played stops the handshake in its first round. -/
theorem stops_of_undescribed {plan : Plan} {r : Round} {response : Response}
    (hmethod : r.method = .describe) (hanswer : r.answer = .ok response)
    (hsuccess : response.isSuccess = true) (hnone : described? plan (.ok response) = none) :
    ∃ halt, r.Stops plan 0 halt ∧
      ((∃ reason, halt = .fault (.description reason)) ↔
        ¬ Description.Strays (response.body.getD [])) := by
  have hstatus : response.status ≠ unauthorized := by
    intro h
    rw [Response.isSuccess, h] at hsuccess
    cases hsuccess
  cases hread : Description.read (response.body.getD []) with
  | ok d =>
    simp only [described?, Description.parse, hread, mapError_ok] at hnone
    cases hnone
  | error stop =>
    cases stop with
    | defect d =>
      refine ⟨_, .objected hanswer hstatus (.malformed hmethod hsuccess hread), fun _ hstrays => ?_,
        fun _ => ⟨d.message, rfl⟩⟩
      rw [Description.read_eq_stray_iff.mpr hstrays] at hread
      cases hread
    | stray =>
      have hstrays := Description.read_eq_stray_iff.mp hread
      refine ⟨_, .objected hanswer hstatus (.stray hmethod hsuccess hstrays), ?_,
        fun h => absurd hstrays h⟩
      rintro ⟨reason, hreason⟩
      cases hreason

/-- Against every server the rounds of a handshake determine how it ends: with which error, or with
none. In particular a description that cannot be played is reported as malformed exactly if its text
does not stray. -/
theorem dialogue_ends (server : List Request → Except Halt Response) (plan : Plan)
    (e : Auth.Entropy) :
    let handshake := (dialogue plan e).against server
    ∃ opening rest,
      turnsAfter server [] handshake.2 = (opening :: rest).flatMap Round.turns ∧
      (∀ r ∈ opening :: rest, r.Sound plan.settings) ∧
      (∀ ending, halted? handshake.1 = ending ↔
        Ends plan 0 (agenda plan (described? plan opening.answer)) (opening :: rest) ending) ∧
      ∀ response, opening.answer = .ok response → response.isSuccess = true →
        described? plan (.ok response) = none →
        ((∃ reason, handshake.1 = .error (.fault (.description reason))) ↔
          ¬ Description.Strays (response.body.getD [])) := by
  intro handshake
  obtain ⟨opening, rest, hpart⟩ :=
    (concludes_dialogue plan e).run server (show turnsAfter server [] [] = [] from rfl)
  refine ⟨opening, rest, hpart.said, hpart.sound,
    fun ending => ⟨fun h => h ▸ hpart.ends, fun h => hpart.ends.unique h⟩, ?_⟩
  intro response hanswer hsuccess hnone
  have hends := hpart.ends
  rw [hanswer, hnone] at hends
  obtain ⟨htarget, hlast⟩ := hends.first
  obtain ⟨halt, hstops, hiff⟩ :=
    stops_of_undescribed (Prod.mk.inj htarget).1 hanswer hsuccess hnone
  have hhalted : handshake.1 = .error halt := halted?_eq_some (hlast halt hstops)
  rw [← hiff, hhalted]
  simp only [Except.error.injEq]

/-- A description without any medium, in which a line strays. -/
def astray : Response := ⟨200, "OK".toList, [], some "v=0\r\njunk\r\ns=x\r\n".toList⟩

/-- There are descriptions that cannot be played and are not reported as malformed. -/
theorem stray_not_malformed :
    ∃ settings, (Settings.Draft.ofUrl "rtsp://cam/live".toList).build = .ok settings ∧
      let plan : Plan := ⟨settings, .tcp, fun _ => none⟩
      described? plan (.ok astray) = none ∧ ∀ reason,
        ((dialogue plan (.counting 0)).against (script [astray])).1 ≠
          .error (.fault (.description reason)) := by
  have hcomes : (Settings.Draft.ofUrl "rtsp://cam/live".toList).build.map (fun settings =>
      let plan : Plan := ⟨settings, .tcp, fun _ => none⟩
      (described? plan (.ok astray),
        halted? ((dialogue plan (.counting 0)).against (script [astray])).1)) =
      .ok (none, some .stray) := by
    decide +kernel
  obtain ⟨settings, hbuild, hend⟩ := exists_of_map_eq_ok hcomes
  obtain ⟨hnone, hstray⟩ := Prod.mk.inj hend
  refine ⟨settings, hbuild, hnone, fun reason h => ?_⟩
  rw [h] at hstray
  cases hstray

end Rtsp.Handshake
