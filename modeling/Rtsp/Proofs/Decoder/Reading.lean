import Rtsp.Proofs.Decoder.Look

/-!
A stream that arrives in chunks. After each chunk unit after unit is taken until more bytes are
needed or a unit is refused; a reading is what has come of it so far. Taking a unit and going on
with the rest is all there is to a drain, so that a reading of one more chunk is a drain of the
bytes kept and the chunk.
-/
namespace Rtsp.Decoder

/-- The units that were taken, and the decoder that waits for more, or what stopped it. -/
structure Reading where
  units : List Message
  state : Except Outcome Decoder

def Outcome.message? : Outcome → Option Message
  | .message m => some m
  | _ => none

theorem Outcome.message?_eq_some_iff {outcome : Outcome} {m : Message} :
    outcome.message? = some m ↔ outcome = .message m := by
  cases outcome <;> simp [Outcome.message?]

/-- The decoder after a last look, unless that look was the end. -/
def afterLook (last : Option Outcome) (d : Decoder) : Except Outcome Decoder :=
  match last with
  | some .more | none => .ok d
  | some outcome => .error outcome

/-- A drain as a reading. -/
def exhaust (d : Decoder) : Reading :=
  let (found, rest) := d.drain
  ⟨found.filterMap Outcome.message?, afterLook found.getLast? rest⟩

namespace Reading

def start : Reading := ⟨[], .ok .empty⟩

/-- Some units before those of a reading. -/
def after (units : List Message) (r : Reading) : Reading := { r with units := units ++ r.units }

/-- A chunk is pushed and drained; once a unit was refused nothing is read any more. -/
def feed (r : Reading) (chunk : Bytes) : Reading :=
  match r.state with
  | .ok d => (d.push chunk).exhaust.after r.units
  | .error _ => r

end Reading

/-- Chunk after chunk, from an empty decoder. -/
def read (chunks : List Bytes) : Reading := chunks.foldl Reading.feed .start

theorem read_concat (chunks : List Bytes) (chunk : Bytes) :
    read (chunks ++ [chunk]) = (read chunks).feed chunk := by
  simp [read]

/-- More fuel than bytes changes nothing. -/
theorem drainUpTo_eq_drainUpTo (fuel fuel' : Nat) (d : Decoder) (h : d.pending.length < fuel)
    (h' : d.pending.length < fuel') : drainUpTo fuel d = drainUpTo fuel' d := by
  induction fuel generalizing d fuel' with
  | zero => omega
  | succ fuel ih =>
    obtain ⟨fuel', rfl⟩ : ∃ k, fuel' = k + 1 := ⟨fuel' - 1, by omega⟩
    simp only [drainUpTo]
    rcases hd : d.decode with ⟨outcome, rest⟩
    cases outcome with
    | message m =>
      have hlt : rest.pending.length < d.pending.length := length_lt_of_decode_eq_message hd
      have hrest := ih fuel' rest (by omega) (by omega)
      simp only [hrest]
    | more => rfl
    | refused cause => rfl
    | overflow => rfl

theorem drain_of_message {d rest : Decoder} {m : Message} (hd : d.decode = (.message m, rest)) :
    d.drain = (.message m :: rest.drain.1, rest.drain.2) := by
  have hlt : rest.pending.length < d.pending.length := length_lt_of_decode_eq_message hd
  have hfuel := drainUpTo_eq_drainUpTo d.pending.length (rest.pending.length + 1) rest hlt
    (by omega)
  simp only [drain, drainUpTo, hd, hfuel]

theorem drain_of_not_message {d rest : Decoder} {outcome : Outcome}
    (hd : d.decode = (outcome, rest)) (h : outcome.message? = none) :
    d.drain = ([outcome], rest) := by
  cases outcome with
  | message m => simp [Outcome.message?] at h
  | more => simp only [drain, drainUpTo, hd]
  | refused cause => simp only [drain, drainUpTo, hd]
  | overflow => simp only [drain, drainUpTo, hd]

theorem drain_ne_nil (d : Decoder) : d.drain.1 ≠ [] := by
  rcases hd : d.decode with ⟨outcome, rest⟩
  cases hm : outcome.message? with
  | none => simp [drain_of_not_message hd hm]
  | some m =>
    cases outcome with
    | message m' => simp [drain_of_message hd]
    | more | refused _ | overflow => simp [Outcome.message?] at hm

/-- A unit is taken, and the rest is drained. -/
theorem exhaust_of_message {d rest : Decoder} {m : Message} (hd : d.decode = (.message m, rest)) :
    d.exhaust = rest.exhaust.after [m] := by
  obtain ⟨outcome, found, hfound⟩ := List.exists_cons_of_ne_nil (drain_ne_nil rest)
  simp [exhaust, Reading.after, drain_of_message hd, hfound, Outcome.message?]

theorem exhaust_of_more {d rest : Decoder} (hd : d.decode = (.more, rest)) :
    d.exhaust = ⟨[], .ok rest⟩ := by
  simp [exhaust, drain_of_not_message hd rfl, Outcome.message?, afterLook]

theorem exhaust_of_refusal {d rest : Decoder} {outcome : Outcome}
    (hd : d.decode = (outcome, rest)) (h : outcome.message? = none) (hmore : outcome ≠ .more) :
    d.exhaust = ⟨[], .error outcome⟩ := by
  cases outcome with
  | message m => simp [Outcome.message?] at h
  | more => exact absurd rfl hmore
  | refused cause => simp [exhaust, drain_of_not_message hd rfl, Outcome.message?, afterLook]
  | overflow => simp [exhaust, drain_of_not_message hd rfl, Outcome.message?, afterLook]

theorem exhaust_skip (s : Bytes) : exhaust ⟨skip s⟩ = exhaust ⟨s⟩ := by
  rcases hd : decode ⟨s⟩ with ⟨outcome, rest⟩
  have hd' := decode_skip s
  rw [hd] at hd'
  cases outcome with
  | message m => rw [exhaust_of_message hd, exhaust_of_message hd']
  | more => rw [exhaust_of_more hd, exhaust_of_more hd']
  | refused cause =>
    rw [exhaust_of_refusal hd rfl (by simp), exhaust_of_refusal hd' rfl (by simp)]
  | overflow => rw [exhaust_of_refusal hd rfl (by simp), exhaust_of_refusal hd' rfl (by simp)]

end Rtsp.Decoder
