import Rtsp.Control

/-!
Where a control leads under a base that is given in parts: a scheme, an authority, and behind them
nothing, a path, a query or a fragment. A path from the root is to keep scheme and authority and
nothing else. What is kept is the base up to the first slash behind its authority, and a query may
stand before that slash. So a control leads where it should exactly if it is no such path, or if
nothing but a path follows the authority.
-/
namespace Rtsp.Control

/-- What ends an authority: the beginnings of a path, a query and a fragment. -/
def delimiters : Text := ['/', '?', '#']

/-- An absolute address, cut behind its authority. -/
structure Base where
  scheme : Text
  authority : Text
  rest : Text
  scheme_ne_nil : scheme ≠ []
  authority_ne_nil : authority ≠ []
  scheme_plain : ∀ c ∈ scheme, c ∉ delimiters
  authority_plain : ∀ c ∈ authority, c ∉ delimiters
  rest_delimited : ∀ c ∈ rest.head?, c ∈ delimiters

namespace Base

def origin (b : Base) : Text := b.scheme ++ "://".toList ++ b.authority

def text (b : Base) : Text := b.origin ++ b.rest

/-- A path stands behind the authority, or nothing. -/
def Rooted (b : Base) : Prop := b.rest = [] ∨ b.rest.head? = some '/'

/-- Where a control is to lead: an empty one and an asterisk to the base, an absolute one to itself,
a path from the root to a place on the same host, and any other to a place under the base. -/
inductive Leads (b : Base) : Text → Text → Prop
  | empty : b.Leads [] b.text
  | asterisk : b.Leads ['*'] b.text
  | absolute {control : Text}
      (h : "rtsp://".toList <+: control ∨ "rtsps://".toList <+: control) : b.Leads control control
  | rooted (path : Text) : b.Leads ('/' :: path) (b.origin ++ '/' :: path)
  | relative {control : Text} (hempty : control ≠ []) (hasterisk : control ≠ ['*'])
      (habsolute : ¬ ("rtsp://".toList <+: control ∨ "rtsps://".toList <+: control))
      (hrooted : control.head? ≠ some '/') :
      b.Leads control
        (b.text ++ (if b.text.getLast? = some '/' then [] else ['/']) ++ control)

end Base

section Root

variable {scheme : Text}

theorem after?_slashes {c : Char} (h : '/' ∉ scheme) (t : Text) :
    Text.after? "://".toList (c :: scheme ++ "://".toList ++ t) = none := by
  have hprefix : ¬ "://".toList <+: c :: scheme ++ "://".toList ++ t := by
    intro hprefix
    obtain ⟨-, hslash⟩ := List.cons_prefix_cons.mp hprefix
    cases scheme with
    | nil => exact absurd (List.cons_prefix_cons.mp hslash).1 (by decide)
    | cons d scheme =>
      obtain rfl := (List.cons_prefix_cons.mp hslash).1
      exact h List.mem_cons_self
  rw [Text.after?, if_neg (by rwa [List.isPrefixOf_iff_prefix])]

/-- The slashes behind the scheme are the first ones. -/
theorem root_append (h : '/' ∉ scheme) (t : Text) :
    root (scheme ++ "://".toList ++ t) = scheme ++ "://".toList ++ t.takeWhile (· != '/') := by
  induction scheme with
  | nil =>
    have hafter : Text.after? "://".toList (':' :: ("//".toList ++ t)) = some t :=
      Text.after?_append "://".toList t
    rw [List.nil_append, show "://".toList ++ t = ':' :: ("//".toList ++ t) from rfl, root, hafter]
  | cons c scheme ih =>
    have hrest : '/' ∉ scheme := fun hmem => h (List.mem_cons_of_mem c hmem)
    have hnone := after?_slashes (c := c) hrest t
    rw [List.cons_append, List.cons_append] at hnone ⊢
    rw [root, hnone]
    exact congrArg (c :: ·) (ih hrest)

end Root

namespace Base

variable {b : Base}

theorem slash_not_mem {t : Text} (h : ∀ c ∈ t, c ∉ delimiters) : '/' ∉ t :=
  fun hmem => h '/' hmem List.mem_cons_self

/-- The root of a base has all of it up to a slash behind the authority. -/
theorem root_text (b : Base) : root b.text = b.origin ++ b.rest.takeWhile (· != '/') := by
  have hauthority : ∀ c ∈ b.authority, (c != '/') = true := fun c hc =>
    bne_iff_ne.mpr fun heq => slash_not_mem b.authority_plain (heq ▸ hc)
  rw [text, origin, List.append_assoc _ b.authority, root_append (slash_not_mem b.scheme_plain),
    List.takeWhile_append_of_pos hauthority, ← List.append_assoc]

theorem rooted_iff : b.Rooted ↔ b.rest.takeWhile (· != '/') = [] := by
  unfold Rooted
  cases b.rest with
  | nil => simp
  | cons c rest => simp [List.takeWhile_cons]

theorem isAbsolute_iff {control : Text} :
    isAbsolute control = true ↔ "rtsp://".toList <+: control ∨ "rtsps://".toList <+: control := by
  rw [isAbsolute, Bool.or_eq_true, List.isPrefixOf_iff_prefix, List.isPrefixOf_iff_prefix]

theorem not_absolute_slash (path : Text) :
    ¬ ("rtsp://".toList <+: '/' :: path ∨ "rtsps://".toList <+: '/' :: path) := by
  rintro (h | h) <;> exact absurd (List.cons_prefix_cons.mp h).1 (by decide)

theorem leads_slash_iff {path address : Text} :
    b.Leads ('/' :: path) address ↔ address = b.origin ++ '/' :: path := by
  constructor
  · intro h
    cases h with
    | absolute h => exact absurd h (not_absolute_slash path)
    | rooted => rfl
    | relative _ _ _ hrooted => exact absurd rfl hrooted
  · rintro rfl
    exact .rooted path

/-- A path from the root comes behind the root of the base, whatever that is. -/
theorem resolve_slash {path : Text} (htrim : Text.trim ('/' :: path) = '/' :: path) :
    resolve b.text ('/' :: path) =
      b.origin ++ b.rest.takeWhile (· != '/') ++ '/' :: path := by
  have hplain : ¬ isAbsolute ('/' :: path) = true := by
    rw [isAbsolute_iff]
    exact not_absolute_slash path
  have hother : ¬ ('/' :: path = [] ∨ '/' :: path = ['*']) := by simp
  have hslash : ('/' :: path).head? = some '/' := rfl
  simp only [resolve, htrim]
  rw [if_neg hother, if_neg hplain, if_pos hslash, root_text]

/-- What does not begin with a slash leads where it should under every base. -/
theorem leads_resolve {control : Text} (htrim : Text.trim control = control)
    (hslash : control.head? ≠ some '/') : b.Leads control (resolve b.text control) := by
  simp only [resolve, htrim]
  split
  · rename_i h
    rcases h with rfl | rfl
    · exact .empty
    · exact .asterisk
  rename_i hsome
  split
  · rename_i h
    exact .absolute (isAbsolute_iff.mp h)
  rename_i hplain
  have hrelative := Leads.relative (b := b) (fun h => hsome (Or.inl h)) (fun h => hsome (Or.inr h))
    (fun h => hplain (isAbsolute_iff.mpr h)) hslash
  split
  · rename_i hlast
    rwa [if_pos hlast, List.append_nil] at hrelative
  · rename_i hlast
    rwa [if_neg hlast, List.append_assoc] at hrelative

/-- A control leads where it should exactly if it is no path from the root, or if nothing but a path
stands behind the authority of the base. -/
theorem resolve_leads_iff (b : Base) {control : Text} (htrim : Text.trim control = control) :
    b.Leads control (resolve b.text control) ↔ (control.head? = some '/' → b.Rooted) := by
  cases control with
  | nil => exact iff_of_true (leads_resolve htrim (by simp)) (by simp)
  | cons c path =>
    by_cases hc : c = '/'
    · subst hc
      rw [leads_slash_iff, resolve_slash htrim, List.append_cancel_right_eq,
        List.append_right_eq_self, ← rooted_iff]
      simp
    · have hslash : (c :: path).head? ≠ some '/' := by simpa using hc
      exact iff_of_true (leads_resolve htrim hslash) fun h => absurd h hslash

/-- A base with a port, a path and a query that ends with a slash, and a control with a blank. -/
theorem resolve_leads_queried :
    let b : Base := ⟨"rtsp".toList, "[::1]:554".toList, "/live?next=/".toList, by decide, by decide,
      by simp [delimiters], by simp [delimiters], by simp [delimiters]⟩
    Text.trim "/track 1".toList = "/track 1".toList ∧
      (b.Leads "/track 1".toList (resolve b.text "/track 1".toList) ↔
        ("/track 1".toList.head? = some '/' → b.Rooted)) := by
  intro b
  exact ⟨by decide, resolve_leads_iff b (by decide)⟩

/-- A query directly behind the authority stays in the address, cut at a slash of its own. -/
theorem resolve_not_leads :
    let b : Base := ⟨"rtsp".toList, "cam".toList, "?token=a/b".toList, by decide, by decide,
      by simp [delimiters], by simp [delimiters], by simp [delimiters]⟩
    resolve b.text "/track1".toList = "rtsp://cam?token=a/track1".toList ∧
      ¬ b.Leads "/track1".toList (resolve b.text "/track1".toList) := by
  intro b
  have haddress : resolve b.text "/track1".toList = "rtsp://cam?token=a/track1".toList := by decide
  refine ⟨haddress, ?_⟩
  rw [haddress, show "/track1".toList = '/' :: "track1".toList from rfl, leads_slash_iff]
  decide

end Base

end Rtsp.Control
