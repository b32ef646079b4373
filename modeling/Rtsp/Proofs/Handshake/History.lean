import Rtsp.Proofs.Handshake.Agenda

/-!
A dialogue in the light of what was said before. A request may depend on all turns so far, and so may
the result, whoever the server is. What is shown of a dialogue with the turns so far as a parameter
holds of each request in each run, together with the turns that came before it.
-/
namespace Rtsp.Handshake

/-- After the turns `past` every request is in the relation `Q` to the turns before it, and the
result in the relation `P` to all of them. -/
inductive Recounts {α : Type} (Q : List Turn → Request → Prop) (P : List Turn → α → Prop) :
    List Turn → Dialogue α → Prop
  | value {past : List Turn} {x : α} (h : P past x) : Recounts Q P past (.done (.ok x))
  | halt {past : List Turn} (h : Halt) : Recounts Q P past (.done (.error h))
  | ask {past : List Turn} {request : Request} {next : Response → Dialogue α}
      (hQ : Q past request)
      (hnext : ∀ response, Recounts Q P (past ++ [⟨request, .ok response⟩]) (next response)) :
      Recounts Q P past (.ask request next)

variable {α β : Type} {Q : List Turn → Request → Prop} {P : List Turn → α → Prop}
  {P' : List Turn → β → Prop} {past : List Turn}

theorem Recounts.andThen {d : Dialogue α} {k : α → Dialogue β} (hd : Recounts Q P past d)
    (hk : ∀ now x, P now x → Recounts Q P' now (k x)) :
    Recounts Q P' past (Dialogue.andThen k d) := by
  induction hd with
  | value h => exact hk _ _ h
  | halt h => exact .halt h
  | ask hQ _ ih => exact .ask hQ ih

theorem recounts_ofExcept (r : Except Fault α) :
    Recounts Q (fun now x => now = past ∧ r = .ok x) past (ofExcept r) := by
  cases r with
  | ok x => exact .value ⟨rfl, rfl⟩
  | error f => exact .halt (.fault f)

section Run

variable {d : Dialogue α}

/-- A run that goes on after the requests `before`. -/
theorem Recounts.run (hd : Recounts Q P past d) (server : List Request → Except Halt Response)
    {before : List Request} (hpast : turnsAfter server [] before = past) :
    ∃ more, (d.run (listening server) before).2 = before ++ more ∧
      (∀ a r b, more = a ++ r :: b → Q (turnsAfter server [] (before ++ a)) r) ∧
      ∀ x, (d.run (listening server) before).1 = .ok x →
        P (turnsAfter server [] (before ++ more)) x := by
  induction hd generalizing before with
  | value h =>
    refine ⟨[], (List.append_nil before).symm, by simp, ?_⟩
    rintro x ⟨⟩
    rwa [List.append_nil, hpast]
  | halt h => exact ⟨[], (List.append_nil before).symm, by simp, by rintro x ⟨⟩⟩
  | @ask past request next hQ hnext ih =>
    have hfirst : ∀ a r b, [request] = a ++ r :: b → Q (turnsAfter server [] (before ++ a)) r := by
      intro a r b h
      obtain ⟨rfl, rfl, rfl⟩ : a = [] ∧ r = request ∧ b = [] := by
        cases a <;> simp_all
      rwa [List.append_nil, hpast]
    cases hreply : server (before ++ [request]) with
    | error h =>
      rw [run_ask_error hreply]
      exact ⟨[request], rfl, hfirst, by rintro x ⟨⟩⟩
    | ok response =>
      have hnow : turnsAfter server [] (before ++ [request]) =
          past ++ [⟨request, .ok response⟩] := by
        rw [turnsAfter_append, hpast, List.nil_append, turnsAfter, turnsAfter, hreply]
      obtain ⟨more, hsaid, hmore, hend⟩ := ih response hnow
      have hall : before ++ [request] ++ more = before ++ request :: more :=
        (List.append_cons before request more).symm
      rw [run_ask_ok hreply]
      refine ⟨request :: more, hsaid.trans hall, ?_, ?_⟩
      · intro a r b h
        cases a with
        | nil => exact hfirst [] r [] (by simp_all)
        | cons r' a =>
          obtain ⟨rfl, hrest⟩ := List.cons.inj h
          rw [List.append_cons]
          exact hmore a r b hrest
      · rw [← hall]
        exact hend

/-- A run from the start: each request with the turns before it, and the result with all turns. -/
theorem Recounts.against (hd : Recounts Q P [] d) (server : List Request → Except Halt Response) :
    (∀ i : Fin (d.against server).2.length,
      Q (turnsAfter server [] ((d.against server).2.take i)) (d.against server).2[i]) ∧
    ∀ x, (d.against server).1 = .ok x → P (turnsAfter server [] (d.against server).2) x := by
  obtain ⟨more, hsaid, hmore, hend⟩ := hd.run server (show turnsAfter server [] [] = [] from rfl)
  rw [List.nil_append] at hsaid hend
  change (d.against server).2 = more at hsaid
  refine ⟨fun i => ?_, fun x hx => ?_⟩
  · rw [← hsaid] at hmore
    refine hmore _ _ ((d.against server).2.drop (i + 1)) ?_
    rw [Fin.getElem_fin, ← List.drop_eq_getElem_cons i.isLt, List.take_append_drop]
  · rw [hsaid]
    exact hend x hx

end Run

/-- A request, and its repetition with a new signature if the reply to it is a refusal that can be
answered. -/
theorem recounts_send {settings : Settings} {p : Progress} {method : Method} {uri : Text}
    {fields : Header} {P : List Turn → Response × Progress → Prop}
    (hfirst : Q past (compose p method uri fields).1)
    (honce : ∀ response, response.status ≠ unauthorized →
      P (past ++ [⟨(compose p method uri fields).1, .ok response⟩])
        (response, (compose p method uri fields).2))
    (hagain : ∀ refusal signer, refusal.status = unauthorized →
      answer? settings method refusal = .ok signer →
      let now := past ++ [⟨(compose p method uri fields).1, .ok refusal⟩]
      let again := compose { (compose p method uri fields).2 with signer := some signer }
        method uri fields
      Q now again.1 ∧ ∀ response, response.status ≠ unauthorized →
        P (now ++ [⟨again.1, .ok response⟩]) (response, again.2)) :
    Recounts Q P past (send settings p method uri fields) := by
  rw [send_eq]
  refine .ask hfirst fun response => ?_
  split
  · rename_i hstatus
    exact .value (honce response hstatus)
  rename_i hstatus
  split
  · exact .halt _
  · rename_i signer hanswer
    obtain ⟨hsecond, htwice⟩ := hagain response signer (Decidable.not_not.mp hstatus) hanswer
    refine .ask hsecond fun response => ?_
    split
    · rename_i hstatus
      exact .value (htwice response hstatus)
    · exact .halt _

end Rtsp.Handshake
