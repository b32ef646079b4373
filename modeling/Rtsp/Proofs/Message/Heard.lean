import Rtsp.Proofs.Decoder.Account
import Rtsp.Proofs.Message.Written
import Rtsp.Proofs.Text.Blankless

/-!
What a reader finds can be written and read again. Whatever text a message is read from, its fields
are legible, and the reason of a response is trimmed and on one line. So a response that comes from
the control stream brings nothing into what is made of it that ends a line.
-/
namespace Rtsp

theorem Text.parts_subset {sep : Char} {n : Nat} {t p : Text} (h : p ∈ Text.parts sep n t) :
    p ⊆ t := by
  induction n using Nat.strongRecOn generalizing t with
  | ind n ih =>
    match n with
    | 0 => cases h
    | 1 => exact List.mem_singleton.mp h ▸ List.Subset.refl t
    | n + 2 =>
      unfold Text.parts at h
      split at h
      · exact List.mem_singleton.mp h ▸ List.Subset.refl t
      · rename_i first rest hcut
        obtain ⟨rfl, -⟩ := Text.eq_of_cut? hcut
        rcases List.mem_cons.mp h with rfl | h
        · exact List.subset_append_left p _
        · intro c hc
          exact List.mem_append_right first
            (List.mem_cons_of_mem sep (ih (n + 1) (Nat.lt_succ_self _) h hc))

namespace Header

theorem legible_of_field? {line : Text} {f : Field} (hline : Text.OneLine line)
    (h : field? line = some f) : f.Legible := by
  obtain ⟨⟨name, value⟩, hcut, rfl⟩ := Option.map_eq_some_iff.mp h
  obtain ⟨rfl, hname⟩ := Text.eq_of_cut? hcut
  exact {
    trimmedName := Text.trim_trim name
    trimmedValue := Text.trim_trim value
    oneLineName := Text.oneLine_trim (hline.subset (List.subset_append_left name _))
    oneLineValue := Text.oneLine_trim (hline.subset fun c hc =>
      List.mem_append_right name (List.mem_cons_of_mem ':' hc))
    whole := fun hc => hname (Text.trim_subset name hc) }

theorem legible_of_mapM {lines : List Text} {h : Header} (hlines : ∀ l ∈ lines, Text.OneLine l)
    (hmap : lines.mapM field? = some h) : ∀ f ∈ h, f.Legible := by
  induction lines generalizing h with
  | nil =>
    rw [List.mapM_nil] at hmap
    obtain rfl := Option.some.inj hmap
    exact fun f hf => absurd hf List.not_mem_nil
  | cons line lines ih =>
    obtain ⟨f, hf, rest, hrest, rfl⟩ := exists_of_mapM_cons hmap
    exact List.forall_mem_cons.mpr ⟨legible_of_field? (hlines line List.mem_cons_self) hf,
      ih (fun l hl => hlines l (List.mem_cons_of_mem line hl)) hrest⟩

/-- The fields that are read from the lines of a text. -/
theorem legible_ofLines {lines : List Text} {h : Header} (hlines : ∀ l ∈ lines, Text.OneLine l)
    (hread : ofLines lines = .ok h) : ∀ f ∈ h, f.Legible :=
  legible_of_mapM (fun l hl => hlines l (List.takeWhile_subset _ hl)) (mapM_of_ofLines hread)

theorem Field.Legible.values {h : Header} (hc : ∀ f ∈ h, f.Legible) {name value : Text}
    (hv : value ∈ h.values name) : Text.OneLine value := by
  obtain ⟨f, hf, rfl⟩ := List.mem_map.mp hv
  exact (hc f (List.mem_filter.mp hf).1).oneLineValue

theorem Field.Legible.value? {h : Header} (hc : ∀ f ∈ h, f.Legible) {name value : Text}
    (hv : h.value? name = some value) : Text.OneLine value := by
  rw [value?_eq_head?] at hv
  exact Field.Legible.values hc (List.mem_of_mem_head? hv)

end Header

namespace Response

/-- The reason and the fields of a response are read back. -/
structure Legible (r : Response) : Prop where
  trimmed : Text.trim r.reason = r.reason
  oneLine : Text.OneLine r.reason
  fields : ∀ f ∈ r.header, f.Legible

/-- A response comes out of the control stream. -/
def Heard (r : Response) : Prop := ∃ d d', Decoder.decode d = (.message (.response r), d')

theorem legible_of_status? {line : Text} {status : UInt16} {reason : Text}
    (hline : Text.OneLine line) (h : status? line = some (status, reason)) :
    Text.trim reason = reason ∧ Text.OneLine reason := by
  unfold status? at h
  split at h
  · rename_i version code more hparts
    split at h
    · obtain ⟨n, -, heq⟩ := Option.map_eq_some_iff.mp h
      obtain ⟨-, rfl⟩ := Prod.mk.inj heq
      refine ⟨Text.trim_trim _, Text.oneLine_trim ?_⟩
      cases more with
      | nil => exact List.not_mem_nil
      | cons p more =>
        have hp : p ∈ Text.parts ' ' 3 line := by simp [hparts]
        exact hline.subset (Text.parts_subset hp)
    · cases h
  · cases h

theorem legible_of_parse {t : Text} {r : Response} (h : parse t = .ok r) :
    r.Legible ∧ r.body = none := by
  obtain ⟨start, lines, hlines, hstatus, hread, hbody⟩ := exists_lines_of_parse h
  have hone : ∀ l ∈ start :: lines, Text.OneLine l :=
    fun l hl => Text.oneLine_of_mem_lines (hlines ▸ hl)
  obtain ⟨htrim, hreason⟩ := legible_of_status? (hone start List.mem_cons_self) hstatus
  exact ⟨⟨htrim, hreason, Header.legible_ofLines
    (fun l hl => hone l (List.mem_cons_of_mem start hl)) hread⟩, hbody⟩

/-- What comes out of the control stream is legible. -/
theorem Heard.legible {r : Response} (h : r.Heard) : r.Legible := by
  obtain ⟨d, d', hd⟩ := h
  have haccounts := Decoder.accounts_decode d.pending
  rw [hd] at haccounts
  generalize Decoder.skip d.pending = bytes at haccounts
  generalize (Decoder.Outcome.message (.response r), d').2.pending = rest at haccounts
  cases haccounts with
  | kept _ settled => exact absurd settled id
  | text head body rest _ _ made _ =>
    rcases Decoder.exists_of_parse (Decoder.eq_ok_of_ofParse made) with ⟨r', hr, heq⟩ | ⟨q, -, heq⟩
    · obtain rfl := Message.response.inj heq
      obtain ⟨htrim, hone, hfields⟩ := (legible_of_parse hr).1
      exact ⟨htrim, hone, hfields⟩
    · cases heq

end Response

end Rtsp
