import Mathlib.Logic.Function.Basic
import Rtsp.Auth.Signer
import Rtsp.Proofs.Text.Hexadecimal

/-!
The uses of a signer. Against a nonce that counts its uses, a signature shows the nonce and the
number of the use, in eight hexadecimal digits or more, so that different numbers look different. A
signer remembers nothing else of what it has signed.
-/
namespace Rtsp

namespace Auth

/-- The nonce, if its uses are numbered. -/
def Challenge.nonce? : Challenge → Option Text
  | .basic _ => none
  | .digest terms => if terms.counted then some terms.nonce else none

/-- The sequence after some more numbers. -/
def Entropy.after (e : Entropy) (n : Nat) : Entropy := { e with drawn := e.drawn + n }

namespace Signer

/-- The signer after some more uses. -/
def after (s : Signer) (n : Nat) : Signer :=
  { s with uses := if s.challenge.nonce?.isSome then s.uses + n else s.uses }

/-- The nonce and the number that the next signature shows. -/
def mark? (s : Signer) : Option (Text × Text) :=
  s.challenge.nonce?.map fun nonce => (nonce, countText (s.uses + 1))

/-- A signature that shows a nonce and a number, or neither. -/
inductive Shows (method uri : Text) : Text → Option (Text × Text) → Prop
  | credentials (token : Text) : Shows method uri ("Basic ".toList ++ token) none
  | digest (c : Credentials) (terms : DigestTerms) :
      Shows method uri
        ("Digest ".toList ++ [',', ' '].intercalate (digestFields c terms none method uri)) none
  | counted (c : Credentials) (terms : DigestTerms) (n : Nat) (cnonce : Text) :
      Shows method uri
        ("Digest ".toList ++
          [',', ' '].intercalate (digestFields c terms (some (n, cnonce)) method uri))
        (some (terms.nonce, countText n))

theorem countText_injective : Function.Injective countText := by
  have hread : ∀ n, Text.hexValue? 0 (countText n) = some n := fun n => by
    rw [countText, Text.padded, Text.hexValue?_append, Text.hexValue?_zeros, Option.bind_some,
      Text.hexValue?_hexadecimal]
  intro m n h
  exact Option.some.inj ((hread m).symm.trans ((congrArg _ h).trans (hread n)))

variable (s : Signer)

@[simp] theorem after_zero : s.after 0 = s := by
  simp [after]

@[simp] theorem after_after (m n : Nat) : (s.after m).after n = s.after (m + n) := by
  unfold after
  cases s.challenge.nonce? <;> simp [Nat.add_assoc]

theorem signWith_after (cnonce method uri : Text) :
    (s.signWith cnonce method uri).2 = s.after 1 := by
  obtain ⟨credentials, challenge, uses⟩ := s
  cases challenge with
  | basic realm => rfl
  | digest terms =>
    have hcounts : (Challenge.digest terms).nonce?.isSome = terms.counted := by
      simp only [Challenge.nonce?]
      cases terms.counted <;> rfl
    simp only [signWith, after, hcounts]

theorem sign_snd (e : Entropy) (method uri : Text) :
    (s.sign e method uri).2 = (s.after 1, e.after 1) :=
  Prod.ext (s.signWith_after e.draw.1 method uri) rfl

theorem shows_signWith (cnonce method uri : Text) :
    Shows method uri (s.signWith cnonce method uri).1 s.mark? := by
  unfold signWith mark? Challenge.nonce?
  cases s.challenge with
  | basic realm => exact .credentials _
  | digest terms =>
    simp only
    cases terms.counted with
    | false => exact .digest s.credentials terms
    | true => exact .counted s.credentials terms (s.uses + 1) cnonce

/-- After some more uses the numbers go on. -/
theorem mark?_after (n : Nat) :
    (s.after n).mark? = s.challenge.nonce?.map fun nonce => (nonce, countText (s.uses + n + 1)) := by
  unfold mark? after
  cases s.challenge.nonce? <;> rfl

end Signer

end Auth

end Rtsp
