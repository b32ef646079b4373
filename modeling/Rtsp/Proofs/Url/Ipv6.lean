import Mathlib.Data.List.TakeWhile
import Rtsp.Proofs.Result
import Rtsp.Proofs.Text.Blankless
import Rtsp.Proofs.Text.Hexadecimal
import Rtsp.Url.Ipv6

/-!
Addresses in writing are read back. Every address that was read has eight pieces of sixteen bits;
each is written in at most four digits, between single colons, and where two colons stand a run of
zeros was left out, as many as are missing.
-/
namespace Rtsp.Url.Ipv6

open Text (hexadecimal)

/-- Eight pieces of sixteen bits. -/
structure WellFormed (a : Ipv6) : Prop where
  length : a.pieces.length = 8
  bound : ∀ n ∈ a.pieces, n < 65536

variable {t : Text} {n : Nat} {pieces : List Nat} {tail : Bool}

section Reading

theorem piece?_lt (h : piece? t = some n) : n < 65536 := by
  unfold piece? at h
  split at h
  · rename_i hlength
    have hlt := Text.hexValue?_lt h
    have hpow : 16 ^ t.length ≤ 16 ^ 4 := Nat.pow_le_pow_right (by decide) hlength.2
    omega
  · cases h

theorem octet?_le (h : octet? t = some n) : n ≤ 255 := by
  unfold octet? at h
  simp only at h
  split at h
  · split at h
    · rename_i hle
      exact Option.some.inj h ▸ hle
    · cases h
  · cases h

theorem octets?_lt (h : octets? t = some pieces) : ∀ n ∈ pieces, n < 65536 := by
  unfold octets? at h
  split at h
  · rename_i a b c d hmap
    have hle : ∀ y ∈ [a, b, c, d], y ≤ 255 := fun y hy => by
      obtain ⟨x, -, hx⟩ := exists_of_mem_mapM hmap y hy
      exact octet?_le hx
    simp only [List.forall_mem_cons] at hle
    obtain ⟨ha, hb, hc, hd, -⟩ := hle
    rw [← Option.some.inj h]
    simp only [List.forall_mem_cons]
    exact ⟨by omega, by omega, fun _ hn => absurd hn List.not_mem_nil⟩
  · cases h

theorem piecesOf?_lt {ts : List Text} (h : piecesOf? tail ts = some pieces) :
    ∀ n ∈ pieces, n < 65536 := by
  fun_induction piecesOf? tail ts generalizing pieces with
  | case1 =>
    cases h
    simp
  | case2 last hoctets => exact octets?_lt h
  | case3 last hplain =>
    obtain ⟨n, hn, rfl⟩ := Option.map_eq_some_iff.mp h
    simpa using piece?_lt hn
  | case4 first rest hrest ih =>
    simp only [Option.bind_eq_bind, Option.bind_eq_some_iff, Option.some.injEq] at h
    obtain ⟨n, hn, ns, hns, rfl⟩ := h
    exact List.forall_mem_cons.mpr ⟨piece?_lt hn, ih hns⟩

theorem side?_lt (h : side? tail t = some pieces) : ∀ n ∈ pieces, n < 65536 := by
  unfold side? at h
  split at h
  · cases h
    simp
  · exact piecesOf?_lt h

theorem wellFormed_of_parse? {a : Ipv6} (h : parse? t = some a) : a.WellFormed := by
  refine ⟨length_of_parse? h, ?_⟩
  unfold parse? at h
  split at h
  · simp only [Option.bind_eq_bind, Option.bind_eq_some_iff] at h
    obtain ⟨all, hall, h⟩ := h
    split at h
    · obtain rfl := Option.some.inj h
      exact piecesOf?_lt hall
    · cases h
  · simp only [Option.bind_eq_bind, Option.bind_eq_some_iff] at h
    obtain ⟨left, hleft, right, hright, h⟩ := h
    split at h
    · obtain rfl := Option.some.inj h
      simp only [List.forall_mem_append]
      exact ⟨⟨side?_lt hleft, fun n hn => List.eq_of_mem_replicate hn ▸ (by decide)⟩,
        side?_lt hright⟩
    · cases h

end Reading

section Writing

theorem colon_not_mem_hexadecimal (n : Nat) : ':' ∉ hexadecimal n :=
  fun h => absurd (Text.mem_of_mem_toDigits (by decide) h) (by decide)

theorem piece?_hexadecimal (h : n < 65536) : piece? (hexadecimal n) = some n := by
  have hlength : (hexadecimal n).length ≤ 4 := Text.length_hexadecimal (by decide) (by omega)
  rw [piece?, if_pos ⟨Text.hexadecimal_ne_nil n, hlength⟩, Text.hexValue?_hexadecimal]

theorem piecesOf?_hexadecimal (h : ∀ n ∈ pieces, n < 65536) :
    piecesOf? tail (pieces.map hexadecimal) = some pieces := by
  induction pieces with
  | nil => rfl
  | cons n pieces ih =>
    obtain ⟨hn, hpieces⟩ := List.forall_mem_cons.mp h
    cases pieces with
    | nil =>
      have hdot : (hexadecimal n).contains '.' = false := by
        rw [List.contains_eq_mem, decide_eq_false_iff_not]
        exact fun hmem => absurd (Text.mem_of_mem_toDigits (by decide) hmem) (by decide)
      simp only [List.map_cons, List.map_nil, piecesOf?, hdot, Bool.and_false, Bool.false_eq_true,
        if_false, piece?_hexadecimal hn, Option.map_some]
    | cons m pieces =>
      have hrest := ih hpieces
      simp only [List.map_cons] at hrest ⊢
      simp only [piecesOf?, piece?_hexadecimal hn, hrest, Option.bind_eq_bind, Option.bind_some]

theorem piecesText_cons (n : Nat) (pieces : List Nat) :
    piecesText (n :: pieces) =
      hexadecimal n ++ if pieces = [] then [] else ':' :: piecesText pieces := by
  cases pieces with
  | nil => simp [piecesText]
  | cons m pieces =>
    rw [if_neg (by simp), piecesText, List.map_cons, List.map_cons, List.intercalate_cons_cons,
      List.append_assoc]
    rfl

theorem piecesText_eq_nil_iff : piecesText pieces = [] ↔ pieces = [] := by
  cases pieces with
  | nil => exact iff_of_true rfl rfl
  | cons n pieces =>
    rw [piecesText_cons]
    simp [Text.hexadecimal_ne_nil]

theorem pieces?_piecesText (hne : pieces ≠ []) (h : ∀ n ∈ pieces, n < 65536) :
    pieces? tail (piecesText pieces) = some pieces := by
  have hcolon : ∀ word ∈ pieces.map hexadecimal, ':' ∉ word := by
    intro word hword
    obtain ⟨n, -, rfl⟩ := List.mem_map.mp hword
    exact colon_not_mem_hexadecimal n
  rw [pieces?, piecesText, List.splitOn_intercalate ':' hcolon (by simpa using hne)]
  exact piecesOf?_hexadecimal h

theorem side?_piecesText (h : ∀ n ∈ pieces, n < 65536) :
    side? tail (piecesText pieces) = some pieces := by
  unfold side?
  split
  · rename_i hnil
    rw [piecesText_eq_nil_iff.mp hnil]
  · rename_i hne
    exact pieces?_piecesText (mt piecesText_eq_nil_iff.mpr hne) h

/-- A word without colons keeps the gap where it is. -/
theorem gap?_word {word : Text} (h : ':' ∉ word) (t : Text) :
    gap? (word ++ t) = (gap? t).map fun p => (word ++ p.1, p.2) := by
  induction word with
  | nil => simp
  | cons c word ih =>
    obtain ⟨hc, hword⟩ := List.ne_and_not_mem_of_not_mem_cons h
    rw [List.cons_append, gap?.eq_2, ih hword]
    · simp [Option.map_map, Function.comp_def]
    · rintro rest rfl
      exact absurd rfl hc

theorem gap?_colon {c : Char} (h : c ≠ ':') (t : Text) :
    gap? (':' :: c :: t) = (gap? (c :: t)).map fun p => (':' :: p.1, p.2) := by
  apply gap?.eq_2
  intro rest _ heq
  exact h (List.cons.inj heq).1

/-- Between pieces there is no gap. -/
theorem gap?_piecesText (pieces : List Nat) (t : Text) :
    gap? (piecesText pieces ++ t) = (gap? t).map fun p => (piecesText pieces ++ p.1, p.2) := by
  induction pieces with
  | nil => simp [piecesText]
  | cons n pieces ih =>
    rw [piecesText_cons, List.append_assoc, gap?_word (colon_not_mem_hexadecimal n)]
    cases pieces with
    | nil => simp
    | cons m pieces =>
      obtain ⟨c, word, hword⟩ := List.exists_cons_of_ne_nil (Text.hexadecimal_ne_nil m)
      have hc : c ≠ ':' := by
        rintro rfl
        exact colon_not_mem_hexadecimal m (hword ▸ List.mem_cons_self)
      have hfirst : ∃ more, piecesText (m :: pieces) ++ t = c :: more := by
        rw [piecesText_cons, hword]
        exact ⟨_, rfl⟩
      obtain ⟨more, hmore⟩ := hfirst
      rw [if_neg (by simp), List.cons_append, hmore, gap?_colon hc, ← hmore, ih]
      simp [Option.map_map, Function.comp_def]

/-- Where the longest run of zeros is said to be, there are so many zeros. -/
theorem longestZeros_eq (h : 2 ≤ (longestZeros pieces).2) :
    zerosAt pieces (longestZeros pieces).1 = (longestZeros pieces).2 := by
  have hstep : ∀ (indices : List Nat) (best : Nat × Nat),
      (best.2 = 1 ∨ zerosAt pieces best.1 = best.2) →
      let found := indices.foldl
        (fun best i => if best.2 < zerosAt pieces i then (i, zerosAt pieces i) else best) best
      found.2 = 1 ∨ zerosAt pieces found.1 = found.2 := by
    intro indices
    induction indices with
    | nil => exact fun best hbest => hbest
    | cons i indices ih =>
      intro best hbest
      apply ih
      dsimp only
      split
      · exact Or.inr rfl
      · exact hbest
  rcases hstep (List.range pieces.length) (0, 1) (Or.inl rfl) with hone | hzeros
  · rw [longestZeros, hone] at h
    omega
  · exact hzeros

theorem zerosAt_le (pieces : List Nat) (index : Nat) :
    zerosAt pieces index ≤ pieces.length - index := by
  have h := (List.takeWhile_sublist (l := pieces.drop index) (· == 0)).length_le
  rwa [List.length_drop] at h

/-- A run of zeros and what is around it. -/
theorem eq_around_zeros (pieces : List Nat) (index : Nat) :
    pieces = pieces.take index ++ List.replicate (zerosAt pieces index) 0 ++
      pieces.drop (index + zerosAt pieces index) := by
  have hzeros : (pieces.drop index).takeWhile (· == 0) =
      List.replicate (zerosAt pieces index) 0 :=
    List.eq_replicate_iff.mpr ⟨rfl, fun n hn => by simpa using List.mem_takeWhile_imp hn⟩
  have hafter : (pieces.drop index).dropWhile (· == 0) =
      pieces.drop (index + zerosAt pieces index) := by
    have hsplit := List.takeWhile_append_dropWhile (p := (· == 0)) (l := pieces.drop index)
    rw [← List.drop_drop]
    exact ((congrArg (List.drop (zerosAt pieces index)) hsplit.symm).trans List.drop_left).symm
  rw [← hzeros, ← hafter, List.append_assoc, List.takeWhile_append_dropWhile,
    List.take_append_drop]

theorem mem_piecesText {c : Char} (h : c ∈ piecesText pieces) :
    c ∈ ":0123456789abcdef*".toList := by
  rcases Text.mem_intercalate h with hc | ⟨t, ht, hc⟩
  · exact List.mem_singleton.mp hc ▸ (by decide)
  · obtain ⟨n, -, rfl⟩ := List.mem_map.mp ht
    exact List.mem_cons_of_mem ':' (Text.mem_of_mem_toDigits (by decide) hc)

/-- What an address is made of. -/
theorem mem_text {a : Ipv6} {c : Char} (h : c ∈ a.text) : c ∈ ":0123456789abcdef*".toList := by
  unfold text at h
  simp only at h
  split at h
  · rcases List.mem_append.mp h with h | h
    · exact mem_piecesText h
    rcases List.mem_cons.mp h with rfl | h
    · decide
    rcases List.mem_cons.mp h with rfl | h
    · decide
    · exact mem_piecesText h
  · exact mem_piecesText h

/-- What is written is read back. -/
theorem parse?_text {a : Ipv6} (h : a.WellFormed) : parse? a.text = some a := by
  obtain ⟨pieces⟩ := a
  obtain ⟨hlength, hbound⟩ := h
  simp only at hlength hbound
  unfold text
  simp only
  split
  · rename_i hcount
    have hzeros := longestZeros_eq hcount
    generalize (longestZeros pieces).1 = start at hzeros ⊢
    generalize (longestZeros pieces).2 = count at hcount hzeros ⊢
    have hle := zerosAt_le pieces start
    have heq := eq_around_zeros pieces start
    rw [hzeros] at hle heq
    have hgap : gap? (piecesText (pieces.take start) ++
        ':' :: ':' :: piecesText (pieces.drop (start + count))) =
          some (piecesText (pieces.take start), piecesText (pieces.drop (start + count))) := by
      rw [gap?_piecesText, gap?.eq_1]
      simp
    have hleft : ∀ n ∈ pieces.take start, n < 65536 :=
      fun n hn => hbound n (List.mem_of_mem_take hn)
    have hright : ∀ n ∈ pieces.drop (start + count), n < 65536 :=
      fun n hn => hbound n (List.mem_of_mem_drop hn)
    have hgiven :
        (pieces.take start).length + (pieces.drop (start + count)).length = 8 - count := by
      rw [List.length_take, List.length_drop]
      omega
    rw [parse?, hgap]
    simp only [side?_piecesText hleft, side?_piecesText hright, Option.bind_eq_bind,
      Option.bind_some, hgiven]
    rw [if_pos (by omega), show 8 - (8 - count) = count by omega, ← heq]
  · have hne : pieces ≠ [] := by
      rintro rfl
      cases hlength
    have hnone : gap? (piecesText pieces) = none := by
      have := gap?_piecesText pieces []
      rwa [List.append_nil] at this
    rw [parse?, hnone]
    simp only [pieces?_piecesText hne hbound, Option.bind_eq_bind, Option.bind_some, hlength,
      if_true]

end Writing

end Rtsp.Url.Ipv6
