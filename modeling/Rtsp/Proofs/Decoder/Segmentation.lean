import Rtsp.Proofs.Decoder.Reading

/-!
Whether it matters how a stream is cut into chunks. What a look finds in some bytes is firm if
more bytes do not change it, and a stream is steady if all looks at it are firm, unit after unit.
The main statement: the beginnings of a stream are read alike however they are cut exactly if the
stream is steady. Frames are always firm, and so is a text whose head does not grow when bytes are
added: a stream within the limit in which no line feed follows another directly is steady. A head
that is ended by two bare line feeds is not firm where the stream goes on to an empty line that is
written with carriage returns.
-/
namespace Rtsp.Decoder

/-- What a look finds in a beginning of the bytes it finds in every longer beginning. -/
def Firm (bytes : Bytes) : Prop :=
  ∀ u v, u ++ v <+: bytes → ∀ outcome d, decode ⟨u⟩ = (outcome, d) → outcome ≠ .more →
    ∃ d', decode ⟨u ++ v⟩ = (outcome, d') ∧
      (outcome.message?.isSome → skip d'.pending = skip (d.pending ++ v))

/-- Every look at a stream is firm, from unit to unit. -/
inductive Steady : Bytes → Prop
  | intro (s : Bytes) (firm : Firm (skip s))
      (next : ∀ m d, decode ⟨s⟩ = (.message m, d) → Steady d.pending) : Steady s

namespace Reading

theorem after_nil (r : Reading) : r.after [] = r := rfl

theorem after_inj {units : List Message} {r r' : Reading} (h : r.after units = r'.after units) :
    r = r' := by
  obtain ⟨us, e⟩ := r
  obtain ⟨us', e'⟩ := r'
  simp only [after, mk.injEq, List.append_cancel_left_eq] at h ⊢
  exact h

theorem feed_waiting (units : List Message) (d : Decoder) (chunk : Bytes) :
    feed ⟨units, .ok d⟩ chunk = (d.push chunk).exhaust.after units := rfl

theorem feed_stopped (units : List Message) (outcome : Outcome) (chunk : Bytes) :
    feed ⟨units, .error outcome⟩ chunk = ⟨units, .error outcome⟩ := rfl

theorem feed_after (units : List Message) (r : Reading) (chunk : Bytes) :
    (r.after units).feed chunk = (r.feed chunk).after units := by
  obtain ⟨us, e⟩ := r
  cases e with
  | ok d => simp [feed, after, List.append_assoc]
  | error outcome => rfl

end Reading

theorem exhaust_of_skip_eq_nil {s : Bytes} (h : skip s = []) : exhaust ⟨s⟩ = .start :=
  exhaust_of_more (decode_of_skip_eq_nil h)

theorem exhaust_congr {s t : Bytes} (h : skip s = skip t) : exhaust ⟨s⟩ = exhaust ⟨t⟩ := by
  rw [← exhaust_skip s, h, exhaust_skip]

theorem decode_congr {s t : Bytes} (h : skip s = skip t) : decode ⟨s⟩ = decode ⟨t⟩ := by
  rw [← decode_skip s, h, decode_skip]

/-- A reading that begins with a unit comes from a look that finds it. -/
theorem decode_of_exhaust_eq_after {s : Bytes} {m : Message} {r : Reading}
    (h : exhaust ⟨s⟩ = r.after [m]) : ∃ d, decode ⟨s⟩ = (.message m, d) := by
  rcases hd : decode ⟨s⟩ with ⟨outcome, d⟩
  cases hm : outcome.message? with
  | none =>
    by_cases hmore : outcome = .more
    · subst hmore
      simp [exhaust_of_more hd, Reading.after] at h
    · simp [exhaust_of_refusal hd hm hmore, Reading.after] at h
  | some m' =>
    rw [Outcome.message?_eq_some_iff] at hm
    subst hm
    rw [exhaust_of_message hd] at h
    have hunits := congrArg Reading.units h
    simp only [Reading.after, List.singleton_append, List.cons.injEq] at hunits
    exact ⟨d, by rw [hunits.1]⟩

/-- A reading without units comes from a look that finds none. -/
theorem decode_of_exhaust_units_eq_nil {s : Bytes} (h : (exhaust ⟨s⟩).units = []) :
    ∃ outcome d, decode ⟨s⟩ = (outcome, d) ∧ outcome.message? = none := by
  rcases hd : decode ⟨s⟩ with ⟨outcome, d⟩
  refine ⟨outcome, d, rfl, ?_⟩
  cases outcome with
  | message m => simp [exhaust_of_message hd, Reading.after] at h
  | more | refused _ | overflow => rfl

/-- Bytes that are read without any unit, and of which nothing is left, are line breaks. -/
theorem skip_eq_nil_of_exhaust {s : Bytes} (h : exhaust ⟨s⟩ = .start) : skip s = [] := by
  obtain ⟨outcome, d, hd, hm⟩ := decode_of_exhaust_units_eq_nil (congrArg Reading.units h)
  by_cases hmore : outcome = .more
  · subst hmore
    rw [exhaust_of_more hd, decode_eq_more hd] at h
    simpa [Reading.start, empty] using h
  · simp [exhaust_of_refusal hd hm hmore, Reading.start] at h

theorem decode_of_exhaust_eq_error {s : Bytes} {outcome : Outcome}
    (h : exhaust ⟨s⟩ = ⟨[], .error outcome⟩) : ∃ d, decode ⟨s⟩ = (outcome, d) := by
  obtain ⟨outcome', d, hd, hm⟩ := decode_of_exhaust_units_eq_nil (congrArg Reading.units h)
  by_cases hmore : outcome' = .more
  · subst hmore
    simp [exhaust_of_more hd] at h
  · simp only [exhaust_of_refusal hd hm hmore, Reading.mk.injEq, Except.error.injEq,
      true_and] at h
    exact ⟨d, h ▸ hd⟩

/-- It is enough that a look which needs no more finds the same in more bytes and leaves them. -/
theorem firm_of_append {s : Bytes}
    (h : ∀ u v, u ≠ [] → u ++ v <+: s → ∀ outcome d, decode ⟨u⟩ = (outcome, d) →
      outcome ≠ .more → decode ⟨u ++ v⟩ = (outcome, ⟨d.pending ++ v⟩)) : Firm s := by
  intro u v huv outcome d hd hmore
  by_cases hu : u = []
  · subst hu
    rw [decode_of_skip_eq_nil rfl] at hd
    exact absurd (Prod.mk.inj hd).1.symm hmore
  · exact ⟨_, h u v hu huv outcome d hd hmore, fun _ => rfl⟩

theorem firm_nil : Firm [] := by
  apply firm_of_append
  intro u v hu huv
  exact absurd (List.prefix_nil.mp ((List.prefix_append u v).trans huv)) hu

/-- A frame is found only once all of it is there. -/
theorem firm_frame (tail : Bytes) : Firm (Frame.marker :: tail) := by
  have hbreak : isBreak Frame.marker = false := by decide
  apply firm_of_append
  intro u v hu huv outcome d hd hmore
  obtain ⟨b, u, rfl⟩ := List.exists_cons_of_ne_nil hu
  obtain ⟨rfl, -⟩ := List.cons_prefix_cons.mp huv
  rw [decode_cons hbreak, if_pos rfl] at hd
  have happend := decodeFrame_append (by rwa [hd]) v
  rw [hd] at happend
  rw [List.cons_append, decode_cons hbreak, if_pos rfl, happend]

/-- A text is firm if the heads of its beginnings do not grow, and none is waited for beyond the
limit. -/
theorem firm_text {b : UInt8} {tail : Bytes} (hbreak : isBreak b = false) (hb : b ≠ Frame.marker)
    (hhead : ∀ u v h, u ++ v <+: b :: tail → headLength? u = some h →
      headLength? (u ++ v) = some h)
    (hlimit : ∀ u, u <+: b :: tail → headLength? u = none → u.length ≤ limit) :
    Firm (b :: tail) := by
  apply firm_of_append
  intro u v hu huv outcome d hd hmore
  obtain ⟨b', u, rfl⟩ := List.exists_cons_of_ne_nil hu
  obtain ⟨rfl, -⟩ := List.cons_prefix_cons.mp huv
  rw [decode_cons hbreak, if_neg hb] at hd
  cases hh : headLength? (b' :: u) with
  | none =>
    have hle := hlimit _ ((List.prefix_append _ v).trans huv) hh
    rw [decodeText_of_headless hh, if_neg (by omega)] at hd
    exact absurd (Prod.mk.inj hd).1.symm hmore
  | some h =>
    have happend := decodeText_append hh (hhead _ v h huv hh) (by rwa [hd])
    rw [hd] at happend
    rw [List.cons_append, decode_cons hbreak, if_neg hb]
    exact happend

/-- Where no line feed follows another directly, the end of a head is never revised. -/
theorem headLength?_append_of_spaced {u v : Bytes} {h : Nat}
    (hspaced : position? [0x0A, 0x0A] u = none) (hh : headLength? u = some h) :
    headLength? (u ++ v) = some h := by
  unfold headLength? at hh ⊢
  rw [hspaced, Option.map_none] at hh
  cases hk : position? [0x0D, 0x0A, 0x0D, 0x0A] u with
  | none => simp [hk] at hh
  | some k =>
    rw [hk] at hh
    rw [position?_append hk v]
    exact hh

/-- A stream within the limit in which no line feed follows another directly is steady. -/
theorem steady_of_spaced (s : Bytes) (hl : s.length ≤ limit)
    (hspaced : position? [0x0A, 0x0A] s = none) : Steady s := by
  induction hn : s.length using Nat.strong_induction_on generalizing s with
  | h n ih =>
    obtain ⟨z, -, hsplit⟩ := exists_breaks s
    have hskip : position? [0x0A, 0x0A] (skip s) = none := by
      rw [hsplit] at hspaced
      exact position?_eq_none_of_suffix hspaced
    refine Steady.intro s ?_ ?_
    · cases hs : skip s with
      | nil => exact firm_nil
      | cons b tail =>
        have hbreak := not_isBreak_of_skip hs
        have hle := length_skip_le s
        rw [hs] at hskip hle
        by_cases hb : b = Frame.marker
        · subst hb
          exact firm_frame tail
        · apply firm_text hbreak hb
          · rintro u v h ⟨w, hw⟩ hh
            rw [← hw, List.append_assoc] at hskip
            exact headLength?_append_of_spaced (position?_eq_none_of_append hskip) hh
          · intro u hu _
            have := hu.length_le
            omega
    · intro m d hd
      obtain ⟨c, -, hc, -⟩ := decode_eq_message hd
      have hlt := length_lt_of_decode_eq_message hd
      rw [hc] at hskip
      exact ih d.pending.length (by omega) d.pending (by omega)
        (position?_eq_none_of_suffix hskip) rfl

theorem read_nil : read [] = exhaust ⟨[]⟩ := (exhaust_of_skip_eq_nil rfl).symm

theorem read_singleton (chunk : Bytes) : read [chunk] = exhaust ⟨chunk⟩ := by
  simp [read, Reading.feed, Reading.start, Reading.after_nil, push, empty]

theorem read_pair (u v : Bytes) : read [u, v] = (exhaust ⟨u⟩).feed v := by
  rw [show [u, v] = [u] ++ [v] from rfl, read_concat, read_singleton]

/-- The pending bytes of a steady stream are read on as if they had come with what follows. -/
def Resumes (s : Bytes) : Prop :=
  ∀ u v, u ++ v <+: s → exhaust ⟨u ++ v⟩ = (exhaust ⟨u⟩).feed v

theorem read_eq_exhaust {s : Bytes} (hs : Resumes s) (chunks : List Bytes)
    (h : chunks.flatten <+: s) : read chunks = exhaust ⟨chunks.flatten⟩ := by
  induction chunks using List.reverseRecOn with
  | nil => exact read_nil
  | append_singleton chunks chunk ih =>
    rw [List.flatten_concat] at h ⊢
    rw [read_concat, ih ((List.prefix_append _ _).trans h), hs _ _ h]

theorem resumes_iff (s : Bytes) :
    Resumes s ↔ ∀ cs ds : List Bytes, cs.flatten = ds.flatten → cs.flatten <+: s →
      read cs = read ds := by
  constructor
  · intro hs cs ds heq h
    rw [read_eq_exhaust hs cs h, read_eq_exhaust hs ds (heq ▸ h), heq]
  · intro hs u v h
    have hcut := hs [u ++ v] [u, v] (by simp) (by simpa using h)
    rw [← read_pair, ← hcut, read_singleton]

theorem Steady.congr {s t : Bytes} (hs : Steady s) (h : skip s = skip t) : Steady t := by
  cases hs with
  | intro _ firm next =>
    refine Steady.intro t (h ▸ firm) ?_
    rw [← decode_congr h]
    exact next

/-- What a steady stream holds is taken from each of its beginnings in the same way. -/
theorem Steady.resumes {s : Bytes} (hs : Steady s) : Resumes s := by
  -- Each unit that is taken leaves a shorter stream, which is steady again.
  induction hn : s.length using Nat.strong_induction_on generalizing s with
  | h n ih =>
    intro u v huv
    cases hs with
    | intro _ firm next =>
      rcases hd : decode ⟨u⟩ with ⟨outcome, d⟩
      by_cases hmore : outcome = .more
      · subst hmore
        rw [exhaust_of_more hd, decode_eq_more hd, Reading.feed_waiting, Reading.after_nil]
        exact (exhaust_congr (skip_skip_append u v)).symm
      have hne : skip u ≠ [] := by
        intro hnil
        rw [decode_of_skip_eq_nil hnil] at hd
        exact hmore (Prod.mk.inj hd).1.symm
      obtain ⟨w, rfl⟩ := huv
      have hskip : skip (u ++ v ++ w) = skip u ++ (v ++ w) := by
        rw [List.append_assoc, skip_append_of_skip_ne_nil hne]
      have hd' : decode ⟨skip u⟩ = (outcome, d) := by rw [decode_skip, hd]
      obtain ⟨e, he, hrest⟩ := firm (skip u) v
        (by rw [hskip, ← List.append_assoc]; exact List.prefix_append _ w) outcome d hd' hmore
      rw [← skip_append_of_skip_ne_nil hne, decode_skip] at he
      cases hm : outcome.message? with
      | none =>
        rw [exhaust_of_refusal hd hm hmore, exhaust_of_refusal he hm hmore, Reading.feed_stopped]
      | some m =>
        rw [Outcome.message?_eq_some_iff] at hm
        subst hm
        obtain ⟨f, hf, hall⟩ := firm (skip u) (v ++ w) (hskip ▸ List.prefix_refl _) _ d hd' hmore
        rw [← hskip, decode_skip] at hf
        have hsteady : Steady (d.pending ++ v ++ w) := by
          apply (next m f hf).congr
          rw [hall rfl, List.append_assoc]
        have hlt := length_lt_of_decode_eq_message hd
        have hrec := ih (d.pending ++ v ++ w).length
          (by rw [← hn]; simp only [List.length_append]; omega) hsteady rfl d.pending v
          (List.prefix_append _ w)
        rw [exhaust_of_message hd, exhaust_of_message he, Reading.feed_after, ← hrec,
          exhaust_congr (hrest rfl)]

theorem Resumes.skip {s : Bytes} (hs : Resumes s) : Resumes (skip s) := by
  intro u v huv
  obtain ⟨z, hz, hsplit⟩ := exists_breaks s
  have hcut := hs (z ++ u) v (by
    rw [hsplit, List.append_assoc]
    exact (List.prefix_append_right_inj z).mpr huv)
  rwa [List.append_assoc, exhaust_congr (skip_append_of_skip_eq_nil hz (u ++ v)),
    exhaust_congr (skip_append_of_skip_eq_nil hz u)] at hcut

theorem exhaust_eq_of_decode {c : Bytes} {m : Message} (hc : decode ⟨c⟩ = (.message m, ⟨[]⟩)) :
    exhaust ⟨c⟩ = Reading.start.after [m] := by
  rw [exhaust_of_message hc, exhaust_of_skip_eq_nil rfl]

/-- Behind a unit that a longer one begins with there are line breaks only. -/
theorem Resumes.skip_eq_nil {s c x : Bytes} {m : Message} (hs : Resumes s) (h : c ++ x <+: s)
    (hc : decode ⟨c⟩ = (.message m, ⟨[]⟩)) (hx : decode ⟨c ++ x⟩ = (.message m, ⟨[]⟩)) :
    Decoder.skip x = [] := by
  apply skip_eq_nil_of_exhaust
  have hcut := hs c x h
  rw [exhaust_eq_of_decode hc, exhaust_eq_of_decode hx, Reading.feed_after] at hcut
  exact (Reading.after_inj hcut).symm

theorem Resumes.firm {s : Bytes} (hs : Resumes s) : Firm (Decoder.skip s) := by
  intro u v huv outcome d hd hmore
  have hcut := hs.skip u v huv
  cases hm : outcome.message? with
  | none =>
    rw [exhaust_of_refusal hd hm hmore, Reading.feed_stopped] at hcut
    obtain ⟨e, he⟩ := decode_of_exhaust_eq_error hcut
    exact ⟨e, he, by simp⟩
  | some m =>
    rw [Outcome.message?_eq_some_iff] at hm
    subst hm
    rw [exhaust_of_message hd, Reading.feed_after] at hcut
    obtain ⟨e, he⟩ := decode_of_exhaust_eq_after hcut
    refine ⟨e, he, fun _ => ?_⟩
    -- The unit was cut off twice, and the two pieces begin alike.
    obtain ⟨c, hne, hc, hdc⟩ := decode_eq_message hd
    obtain ⟨c', -, hc', hdc'⟩ := decode_eq_message he
    have hu : Decoder.skip u ≠ [] := by simp [hc, hne]
    rw [skip_append_of_skip_ne_nil hu, hc, List.append_assoc] at hc'
    obtain ⟨w, hw⟩ := huv
    have hwhole : c ++ (d.pending ++ v) ++ w = Decoder.skip s := by
      rw [← skip_skip, ← hw, List.append_assoc u, skip_append_of_skip_ne_nil hu, hc]
      simp only [List.append_assoc]
    rcases List.append_eq_append_iff.mp hc' with ⟨x, rfl, hx⟩ | ⟨x, rfl, hx⟩
    · have hin : c ++ x <+: Decoder.skip s := by
        rw [← hwhole, hx]
        exact ⟨e.pending ++ w, by simp only [List.append_assoc]⟩
      have hbreaks := hs.skip.skip_eq_nil hin hdc hdc'
      rw [hx, skip_append_of_skip_eq_nil hbreaks]
    · have hin : c' ++ x <+: Decoder.skip s := by
        rw [← hwhole]
        exact ⟨d.pending ++ v ++ w, by simp only [List.append_assoc]⟩
      have hbreaks := hs.skip.skip_eq_nil hin hdc' hdc
      rw [hx, skip_append_of_skip_eq_nil hbreaks]

/-- What is left behind a unit is read on as the stream was. -/
theorem Resumes.next {s : Bytes} (hs : Resumes s) {m : Message} {d : Decoder}
    (hd : decode ⟨s⟩ = (.message m, d)) : Resumes d.pending := by
  intro u v huv
  obtain ⟨c, -, hc, hdc⟩ := decode_eq_message hd
  have hin : c ++ (u ++ v) <+: Decoder.skip s := by
    rw [hc]
    exact (List.prefix_append_right_inj c).mpr huv
  have hwhole := hs.skip c (u ++ v) hin
  have hpieces := hs.skip (c ++ u) v (by rwa [List.append_assoc])
  have hfirst := hs.skip c u ((List.prefix_append_right_inj c).mpr (List.prefix_append u v) |>.trans hin)
  rw [exhaust_eq_of_decode hdc, Reading.feed_after] at hwhole hfirst
  rw [hfirst, List.append_assoc, hwhole, Reading.feed_after] at hpieces
  exact Reading.after_inj hpieces

theorem Resumes.steady {s : Bytes} (hs : Resumes s) : Steady s := by
  induction hn : s.length using Nat.strong_induction_on generalizing s with
  | h n ih =>
    refine Steady.intro s hs.firm ?_
    intro m d hd
    exact ih d.pending.length (hn ▸ length_lt_of_decode_eq_message hd) (hs.next hd) rfl

/-- The beginnings of a stream are read alike, however they are cut, if and only if every look at
the stream is firm. -/
theorem readings_agree_iff_steady (s : Bytes) :
    (∀ cs ds : List Bytes, cs.flatten = ds.flatten → cs.flatten <+: s → read cs = read ds) ↔
      Steady s := by
  rw [← resumes_iff]
  exact ⟨Resumes.steady, Steady.resumes⟩

/-- A response that ends at two line feeds is taken when it comes alone, and swallows the next one
when it comes together with it. -/
theorem readings_differ :
    let first := Text.Utf8.encode "RTSP/1.0 200 OK\nCSeq: 1\n\n".toList
    let second := Text.Utf8.encode "RTSP/1.0 200 OK\r\nCSeq: 2\r\n\r\n".toList
    [first, second].flatten = [first ++ second].flatten ∧
      read [first, second] ≠ read [first ++ second] := by
  intro first second
  refine ⟨by simp, fun h => ?_⟩
  have hunits := congrArg (fun r : Reading => r.units.length) h
  have hapart : (read [first, second]).units.length = 2 := by decide +kernel
  have htogether : (read [first ++ second]).units.length = 1 := by decide +kernel
  simp only [hapart, htogether] at hunits
  omega

end Rtsp.Decoder
