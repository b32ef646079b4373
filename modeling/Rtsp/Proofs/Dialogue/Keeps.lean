import Rtsp.Dialogue

/-!
What a dialogue keeps to, whoever responds. Every request is of some kind, every way in which the
dialogue breaks off by itself is of some kind, and so is what it results in, as long as the
responses are of some kind too. Such a statement about a dialogue is one about each run of it, with
any other side whose state can be described.
-/
namespace Rtsp.Dialogue

variable {α β σ : Type} {H : Response → Prop} {Q : Request → Prop} {F : Halt → Prop}
  {P : α → Prop} {P' : β → Prop}

/-- Against responses that satisfy `H` the requests satisfy `Q`, and the end satisfies `F` or `P`. -/
inductive Keeps (H : Response → Prop) (Q : Request → Prop) (F : Halt → Prop) (P : α → Prop) :
    Dialogue α → Prop
  | value {x : α} (h : P x) : Keeps H Q F P (.done (.ok x))
  | halt {h : Halt} (hF : F h) : Keeps H Q F P (.done (.error h))
  | ask {request : Request} {next : Response → Dialogue α} (hQ : Q request)
      (hnext : ∀ response, H response → Keeps H Q F P (next response)) :
      Keeps H Q F P (.ask request next)

theorem Keeps.andThen {d : Dialogue α} {k : α → Dialogue β} (hd : Keeps H Q F P d)
    (hk : ∀ x, P x → Keeps H Q F P' (k x)) : Keeps H Q F P' (Dialogue.andThen k d) := by
  induction hd with
  | value h => exact hk _ h
  | halt hF => exact .halt hF
  | ask hQ _ ih => exact .ask hQ ih

/-- The other side responds with what satisfies `H`, breaks off with what satisfies `E`, and keeps
an invariant of its own. -/
structure Hosts (H : Response → Prop) (Q : Request → Prop) (E : Halt → Prop) (I : σ → Prop)
    (exchange : Exchange σ) : Prop where
  kept : ∀ s r, I s → Q r → I (exchange s r).2
  response : ∀ s r, I s → Q r → ∀ response, (exchange s r).1 = .ok response → H response
  halt : ∀ s r, I s → Q r → ∀ h, (exchange s r).1 = .error h → E h

/-- A run of a dialogue with such a side. -/
theorem Keeps.run {E : Halt → Prop} {I : σ → Prop} {exchange : Exchange σ} {d : Dialogue α}
    (hd : Keeps H Q F P d) (hside : Hosts H Q E I exchange) {s : σ} (hs : I s) :
    I (d.run exchange s).2 ∧ (∀ x, (d.run exchange s).1 = .ok x → P x) ∧
      ∀ h, (d.run exchange s).1 = .error h → F h ∨ E h := by
  induction hd generalizing s with
  | value hP =>
    refine ⟨hs, ?_, ?_⟩
    · rintro x ⟨⟩
      exact hP
    · rintro h ⟨⟩
  | halt hF =>
    refine ⟨hs, ?_, ?_⟩
    · rintro x ⟨⟩
    · rintro h ⟨⟩
      exact Or.inl hF
  | @ask request next hQ hnext ih =>
    have hkept := hside.kept s request hs hQ
    have hresponse := hside.response s request hs hQ
    have hhalt := hside.halt s request hs hQ
    unfold Dialogue.run
    rcases hreply : exchange s request with ⟨reply, s'⟩
    rw [hreply] at hkept hresponse hhalt
    cases reply with
    | ok response => exact ih response (hresponse response rfl) hkept
    | error h =>
      refine ⟨hkept, ?_, ?_⟩
      · rintro x ⟨⟩
      · rintro h' ⟨⟩
        exact Or.inr (hhalt h rfl)

/-- A run against a server whose responses satisfy `H`: every request that is made satisfies `Q`. -/
theorem Keeps.against {server : List Request → Except Halt Response} {d : Dialogue α}
    (hd : Keeps H Q F P d)
    (hserver : ∀ said response, server said = .ok response → H response) :
    ∀ r ∈ (d.against server).2, Q r := by
  have hside : Hosts H Q (fun _ => True) (fun said : List Request => ∀ r ∈ said, Q r)
      (fun said request => (server (said ++ [request]), said ++ [request])) := by
    refine ⟨?_, fun s r _ _ response h => hserver _ response h, fun _ _ _ _ _ _ => trivial⟩
    intro said r hsaid hr x hx
    rcases List.mem_append.mp hx with hx | hx
    · exact hsaid x hx
    · rw [List.mem_singleton.mp hx]
      exact hr
  exact (hd.run hside fun r hr => absurd hr List.not_mem_nil).1

end Rtsp.Dialogue
