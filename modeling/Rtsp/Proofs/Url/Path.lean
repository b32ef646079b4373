import Rtsp.Proofs.Text.Percent
import Rtsp.Url.Path

/-!
A path that was read is read as itself. Its segments are settled: none of them stands for something
else, none has a slash or a character that would be encoded, and so each is entered as it is.
-/
namespace Rtsp.Url.Path

open Text (Percent.isForeign Percent.encode)

/-- A segment in which nothing is left to encode. -/
structure Encoded (segment : Text) : Prop where
  slash : '/' ∉ segment
  kept : ∀ c ∈ segment, Percent.isForeign c = false ∧ isReserved c = false

/-- An encoded segment that is no dots. -/
structure Settled (segment : Text) : Prop extends Encoded segment where
  dot : isDot segment = false
  doubleDot : isDoubleDot segment = false

/-- A path of segments, the last one apart. -/
def joined (segments : List Text) (last : Text) : Text :=
  '/' :: segments.flatMap (· ++ ['/']) ++ last

variable {before segments : List Text} {segment last t : Text} {c : Char}

section Segments

theorem settled_nil : Settled [] where
  slash := List.not_mem_nil
  kept := nofun
  dot := by decide
  doubleDot := by decide

theorem encoded_encode (h : '/' ∉ segment) : Encoded (Percent.encode isReserved segment) where
  slash hmem := by
    rcases Text.Percent.mem_encode hmem with hmark | ⟨hslash, -⟩
    · exact absurd hmark (by decide)
    · exact h hslash
  kept _ hc := Text.Percent.settled_of_mem_encode (by decide) hc

theorem shorten_subset (before : List Text) : shorten before ⊆ before := by
  unfold shorten
  split
  · exact List.Subset.refl _
  · split
    · exact List.Subset.refl _
    · exact List.subset_cons_self _ _

/-- What is entered is settled. -/
theorem settled_enter (hb : ∀ s ∈ before, Settled s) (hs : Encoded segment) :
    ∀ s ∈ enter before segment, Settled s := by
  unfold enter
  split
  · exact fun s h => hb s (shorten_subset before h)
  rename_i hdouble
  split
  · exact hb
  rename_i hdot
  exact List.forall_mem_cons.mpr ⟨⟨hs, by simpa using hdot, by simpa using hdouble⟩, hb⟩

theorem settled_foldl_enter (hs : ∀ s ∈ segments, Encoded s) (hb : ∀ s ∈ before, Settled s) :
    ∀ s ∈ segments.foldl enter before, Settled s := by
  induction segments generalizing before with
  | nil => exact hb
  | cons segment segments ih =>
    obtain ⟨hsegment, hrest⟩ := List.forall_mem_cons.mp hs
    exact ih hrest (settled_enter hb hsegment)

theorem close_eq_joined (hb : ∀ s ∈ before, Settled s) (hs : Encoded last) :
    ∃ segments last', (∀ s ∈ segments, Settled s) ∧ Settled last' ∧
      close before last = joined segments last' := by
  unfold close
  simp only
  split
  · exact ⟨_, [], fun s h => hb s (shorten_subset before (List.mem_reverse.mp h)), settled_nil, rfl⟩
  rename_i hdouble
  split
  · exact ⟨_, [], fun s h => hb s (List.mem_reverse.mp h), settled_nil, rfl⟩
  rename_i hdot
  exact ⟨_, last, fun s h => hb s (List.mem_reverse.mp h),
    ⟨hs, by simpa using hdot, by simpa using hdouble⟩, rfl⟩

/-- A path is nothing, or is made of settled segments. -/
theorem parse_eq_joined (t : Text) :
    parse t = [] ∨ ∃ segments last, (∀ s ∈ segments, Settled s) ∧ Settled last ∧
      parse t = joined segments last := by
  unfold parse
  split
  · exact Or.inl rfl
  right
  unfold normalize
  simp only
  generalize (if t.head? = some '/' then t.drop 1 else t) = rest
  have hencoded : ∀ s ∈ (rest.splitOn '/').map (Percent.encode isReserved), Encoded s := by
    intro s hs
    obtain ⟨piece, hpiece, rfl⟩ := List.mem_map.mp hs
    rw [List.splitOn_eq_splitOnP] at hpiece
    exact encoded_encode fun hmem => absurd ((Text.of_mem_splitOnP hpiece).1 '/' hmem) (by decide)
  apply close_eq_joined
  · exact settled_foldl_enter (fun s hs => hencoded s (List.dropLast_subset _ hs)) nofun
  · cases hlast : ((rest.splitOn '/').map (Percent.encode isReserved)).getLast? with
    | none => exact settled_nil.toEncoded
    | some last => exact hencoded last (List.mem_of_mem_getLast? hlast)

end Segments

section Rereading

theorem splitOn_segments (hs : ∀ s ∈ segments, '/' ∉ s) (hl : '/' ∉ last) :
    (segments.flatMap (· ++ ['/']) ++ last).splitOn '/' = segments ++ [last] := by
  induction segments with
  | nil => exact List.splitOn_eq_singleton hl
  | cons s segments ih =>
    obtain ⟨hfirst, hrest⟩ := List.forall_mem_cons.mp hs
    rw [List.flatMap_cons, List.append_assoc, List.append_assoc, List.singleton_append,
      List.splitOn_append_cons_self_of_not_mem hfirst, ih hrest, List.cons_append]

theorem foldl_enter (hs : ∀ s ∈ segments, Settled s) (before : List Text) :
    segments.foldl enter before = segments.reverse ++ before := by
  induction segments generalizing before with
  | nil => rfl
  | cons s segments ih =>
    obtain ⟨hfirst, hrest⟩ := List.forall_mem_cons.mp hs
    have henter : enter before s = s :: before := by
      simp [enter, hfirst.dot, hfirst.doubleDot]
    rw [List.foldl_cons, henter, ih hrest]
    simp

/-- Settled segments are read as they are. -/
theorem parse_joined (hs : ∀ s ∈ segments, Settled s) (hl : Settled last) :
    parse (joined segments last) = joined segments last := by
  have hsplit := splitOn_segments (fun s h => (hs s h).slash) hl.slash
  have hencode : (segments ++ [last]).map (Percent.encode isReserved) = segments ++ [last] := by
    have hall : ∀ s ∈ segments ++ [last], Percent.encode isReserved s = s := by
      intro s hmem
      rcases List.mem_append.mp hmem with h | h
      · exact Text.Percent.encode_eq_self (hs s h).kept
      · exact Text.Percent.encode_eq_self (List.mem_singleton.mp h ▸ hl.kept)
    exact (List.map_congr_left hall).trans (List.map_id _)
  rw [parse, if_neg (by simp [joined]), normalize]
  simp only [joined, List.cons_append, List.head?_cons, if_true, List.drop_succ_cons,
    List.drop_zero, hsplit, hencode, List.dropLast_concat, List.getLast?_concat, Option.getD_some]
  rw [foldl_enter hs, close]
  simp [hl.dot, hl.doubleDot]

theorem parse_parse (t : Text) : parse (parse t) = parse t := by
  rcases parse_eq_joined t with hnil | ⟨segments, last, hs, hl, heq⟩
  · rw [hnil]
    rfl
  · rw [heq, parse_joined hs hl]

/-- What a path begins with. -/
theorem head?_parse (h : c ∈ (parse t).head?) : c = '/' := by
  rcases parse_eq_joined t with hnil | ⟨segments, last, -, -, heq⟩
  · rw [hnil] at h
    cases h
  · rw [heq] at h
    exact (Option.some.inj h).symm

/-- What a path is made of. -/
theorem mem_parse (h : c ∈ parse t) : Percent.isForeign c = false ∧ isReserved c = false := by
  rcases parse_eq_joined t with hnil | ⟨segments, last, hs, hl, heq⟩
  · rw [hnil] at h
    cases h
  rw [heq] at h
  have hslash : Percent.isForeign '/' = false ∧ isReserved '/' = false := by decide
  rcases List.mem_append.mp h with h | h
  · rcases List.mem_cons.mp h with rfl | h
    · exact hslash
    obtain ⟨s, hmem, hc⟩ := List.mem_flatMap.mp h
    rcases List.mem_append.mp hc with hc | hc
    · exact (hs s hmem).kept c hc
    · exact List.mem_singleton.mp hc ▸ hslash
  · exact hl.kept c h

end Rereading

end Rtsp.Url.Path
