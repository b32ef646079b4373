import Rtsp.Control
import Rtsp.Description.Basic
import Rtsp.Proofs.Result
import Rtsp.Proofs.Text.Blankless

/-!
The addresses that a description leads to. The value of an attribute is part of one line of the
description, and so is the control of a session or a medium. What it leads to is put together from
the base and the control, so that it ends no line if the base does not.
-/
namespace Rtsp

open Text (OneLine)

namespace Description

def Attribute.Tidy (a : Attribute) : Prop := ∀ v, a.value = some v → OneLine v

def Section.Tidy (s : Section) : Prop := ∀ a ∈ s.attributes, a.Tidy

/-- All attributes so far, those of the open section and those of the closed ones. -/
structure Reading.Tidy (r : Reading) : Prop where
  opened : ∀ a ∈ r.attributes, a.Tidy
  closed : ∀ s ∈ r.closed, s.Tidy

theorem Attribute.tidy_ofLine {value : Text} (h : OneLine value) : (Attribute.ofLine value).Tidy := by
  intro v hv
  unfold Attribute.ofLine at hv
  split at hv
  · rename_i name value' hcut
    obtain ⟨rfl, -⟩ := Text.eq_of_cut? hcut
    obtain rfl := Option.some.inj hv
    exact h.subset fun c hc => List.mem_append_right name (List.mem_cons_of_mem ':' hc)
  · cases hv

theorem Line.oneLine_of_mem_list {t : Text} {l : Line} (h : .ok l ∈ Line.list t) :
    OneLine l.value := by
  obtain ⟨⟨line, n⟩, hmem, hparse⟩ := List.mem_filterMap.mp h
  have hline : line ∈ Text.lines t := List.fst_mem_of_mem_zipIdx hmem
  split at hparse
  · cases hparse
  · have hok := Option.some.inj hparse
    unfold Line.parse at hok
    split at hok
    · rename_i key value hcut
      obtain ⟨heq, -⟩ := Text.eq_of_cut? hcut
      split at hok
      · obtain rfl := Except.ok.inj hok
        apply (Text.oneLine_of_mem_lines hline).subset
        intro c hc
        simp only at heq
        rw [heq]
        exact List.mem_append_right _ (List.mem_cons_of_mem '=' hc)
      · cases hok
    · cases hok
    · cases hok

namespace Reading

variable {r r' : Reading} {l : Line}

theorem Tidy.openSection (h : r.Tidy) : r.openSection.Tidy :=
  fun a ha => h.opened a (List.mem_reverse.mp ha)

theorem Tidy.keep (h : r.Tidy) (hl : OneLine l.value) : (r.keep l).Tidy := by
  unfold Reading.keep
  simp only
  split
  · exact ⟨List.forall_mem_cons.mpr ⟨Attribute.tidy_ofLine hl, h.opened⟩, h.closed⟩
  split
  · exact ⟨h.opened, h.closed⟩
  · exact ⟨h.opened, h.closed⟩

theorem Tidy.add (h : r.Tidy) (hl : OneLine l.value) (hadd : r.add l = .ok r') : r'.Tidy := by
  unfold Reading.add at hadd
  simp only [bind, Except.bind, pure, Except.pure] at hadd
  split at hadd
  · cases hadd
  split at hadd <;> split at hadd
  · cases hadd
  · exact Except.ok.inj hadd ▸ h.keep hl
  · cases hadd
  · exact Except.ok.inj hadd ▸ h.keep hl

theorem Tidy.next (h : r.Tidy) (hnext : r.next l = .ok r') : r'.Tidy := by
  unfold Reading.next at hnext
  obtain ⟨heading, -, rfl⟩ := exists_of_map_eq_ok hnext
  exact ⟨fun a ha => absurd ha List.not_mem_nil,
    List.forall_mem_cons.mpr ⟨h.openSection, h.closed⟩⟩

/-- Line after line. -/
theorem Tidy.run {ls : List (Except Defect Line)} (h : r.Tidy)
    (hls : ∀ l, .ok l ∈ ls → OneLine l.value) (hrun : r.run ls = .ok r') : r'.Tidy := by
  induction ls generalizing r with
  | nil => exact Except.ok.inj hrun ▸ h
  | cons first rest ih =>
    have hrest : ∀ l, .ok l ∈ rest → OneLine l.value := fun l hl =>
      hls l (List.mem_cons_of_mem first hl)
    cases first with
    | ok l =>
      unfold Reading.run at hrun
      split at hrun
      · rename_i r'' hstep
        refine ih ?_ hrest hrun
        split at hstep
        · exact h.next hstep
        · exact h.add (hls l List.mem_cons_self) hstep
      · cases hrun
    | error d =>
      unfold Reading.run at hrun
      split at hrun
      · exact Except.ok.inj hrun ▸ h
      · cases hrun
      · split at hrun
        · exact ih h hrest hrun
        · cases hrun

theorem tidy_ofText {t : Text} (h : ofText t = .ok r) : r.Tidy := by
  have hstart : start.Tidy :=
    ⟨fun a ha => absurd ha List.not_mem_nil, fun s hs => absurd hs List.not_mem_nil⟩
  unfold ofText at h
  split at h
  · cases h
  · cases h
  · rename_i l rest hlist
    have hrest : ∀ l, .ok l ∈ rest → OneLine l.value := fun l' hl =>
      Line.oneLine_of_mem_list (hlist ▸ List.mem_cons_of_mem _ hl)
    split at h
    · cases h
    split at h
    · cases h
    · exact hstart.run hrest h

theorem Tidy.sections (h : r.Tidy) : ∀ s ∈ r.sections, s.Tidy := by
  intro s hs
  rcases List.mem_cons.mp (List.mem_reverse.mp hs) with rfl | hs
  · exact h.openSection
  · exact h.closed s hs

end Reading

theorem Section.Tidy.control {s : Section} (h : s.Tidy) : OneLine s.control := by
  apply Text.oneLine_trim
  cases hvalues : s.values "control" with
  | nil => exact List.not_mem_nil
  | cons v rest =>
    have hv : v ∈ s.values "control" := hvalues ▸ List.mem_cons_self
    obtain ⟨a, ha, hvalue⟩ := List.mem_filterMap.mp hv
    exact h a (List.mem_filter.mp ha).1 v hvalue

theorem control_of_medium? {s : Section} {m : Media.Medium} (h : medium? s = some m) :
    m.control = s.control := by
  unfold medium? at h
  simp only [Option.bind_eq_bind, Option.bind_eq_some_iff] at h
  obtain ⟨heading, -, kind, -, h⟩ := h
  split at h
  · split at h
    · cases h
    · exact Option.some.inj h ▸ rfl
  · cases h

/-- Whatever text a description is read from, its controls are on one line. -/
theorem oneLine_controls {t : Text} {d : Description} (h : Description.parse t = .ok d) :
    OneLine d.control ∧ ∀ m ∈ d.media, OneLine m.control := by
  obtain ⟨r, hreading, hd⟩ := exists_reading h
  have hsections := (Reading.tidy_ofText hreading).sections
  unfold ofReading at hd
  split at hd
  · rename_i session first rest heq
    rw [heq] at hsections
    split at hd
    · cases hd
    · obtain rfl := Except.ok.inj hd
      refine ⟨(hsections session List.mem_cons_self).control, ?_⟩
      intro m hm
      obtain ⟨s, hs, hmedium⟩ := List.mem_filterMap.mp hm
      rw [control_of_medium? hmedium]
      exact (hsections s (List.mem_cons_of_mem session hs)).control
  · cases hd

end Description

namespace Control

theorem oneLine_root (base : Text) (hbase : OneLine base) : OneLine (root base) := by
  induction base with
  | nil => exact List.not_mem_nil
  | cons c rest ih =>
    have hrest : OneLine rest := hbase.subset (List.subset_cons_self c rest)
    unfold root
    split
    · rename_i authority hafter
      unfold Text.after? at hafter
      split at hafter
      · obtain rfl := Option.some.inj hafter
        refine Text.oneLine_append (by decide) ?_
        exact hbase.subset fun x hx => List.drop_subset _ _ (List.takeWhile_subset _ hx)
      · cases hafter
    · refine Text.oneLine_cons ?_ (ih hrest)
      rintro rfl
      exact hbase List.mem_cons_self

/-- An address under a base is on one line, and is not empty if the base is not. -/
theorem resolve_oneLine {base control : Text} (hbase : OneLine base) (hne : base ≠ [])
    (hcontrol : OneLine control) : OneLine (resolve base control) ∧ resolve base control ≠ [] := by
  have htrim := Text.oneLine_trim hcontrol
  unfold resolve
  simp only
  split
  · exact ⟨hbase, hne⟩
  rename_i hsome
  have hnil : Text.trim control ≠ [] := fun h => hsome (Or.inl h)
  split
  · exact ⟨htrim, hnil⟩
  split
  · exact ⟨Text.oneLine_append (oneLine_root base hbase) htrim,
      fun h => hnil (List.append_eq_nil_iff.mp h).2⟩
  split
  · exact ⟨Text.oneLine_append hbase htrim, fun h => hne (List.append_eq_nil_iff.mp h).1⟩
  · exact ⟨Text.oneLine_append hbase (Text.oneLine_cons (by decide) htrim),
      fun h => hne (List.append_eq_nil_iff.mp h).1⟩

end Control

end Rtsp
