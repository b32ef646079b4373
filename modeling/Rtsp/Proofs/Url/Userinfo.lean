import Rtsp.Proofs.Url.Address
import Rtsp.Settings

/-!
An address forgets its user. Whatever stands between the slashes behind the scheme and an at sign of
the authority, the same site is found behind it: scheme, host, port, path and query do not depend on
it, and neither does whether there are credentials. The at sign keeps the user apart from all else:
nothing before it is at the end of the text, and no slash can join with what is in front of the user.
-/
namespace Rtsp

namespace Url

/-- An address with a user before its site. -/
def withUser (before user after : Text) : Text := before ++ (user ++ '@' :: after)

/-- What an address begins with up to its user: a scheme, a colon and two slashes, with characters
among them that do not count. -/
def Opens (before : Text) : Prop :=
  ∃ scheme, ':' ∉ scheme ∧
    (before.dropWhile isTrimmed).filter (!isDropped ·) = scheme ++ "://".toList

/-- Nothing in the user ends the authority. -/
def Enclosed (user : Text) : Prop := ∀ c ∈ user, isAuthorityEnd c = false

instance (user : Text) : Decidable (Enclosed user) :=
  List.decidableBAll (fun c => isAuthorityEnd c = false) user

variable {before user user' after scheme : Text}

theorem Enclosed.filter (h : Enclosed user) : Enclosed (user.filter (!isDropped ·)) :=
  fun c hc => h c (List.mem_filter.mp hc).1

/-- The user and what is behind it are cleaned each on its own. -/
theorem clean_withUser
    (hbefore : (before.dropWhile isTrimmed).filter (!isDropped ·) = scheme ++ "://".toList)
    (user after : Text) :
    clean (withUser before user after) =
      scheme ++ "://".toList ++ (user.filter (!isDropped ·) ++ '@' :: tidied after) := by
  have hne : ¬ (before.dropWhile isTrimmed).isEmpty = true := by
    intro hnil
    rw [List.isEmpty_iff.mp hnil, List.filter_nil] at hbefore
    simp at hbefore
  have hfront : (before ++ user).dropWhile isTrimmed = before.dropWhile isTrimmed ++ user := by
    rw [List.dropWhile_append, if_neg hne]
  rw [withUser, ← List.append_assoc, clean_append_cons (by decide), hfront, kept_append,
    show kept (before.dropWhile isTrimmed) = scheme ++ "://".toList from hbefore,
    List.append_assoc]
  rfl

/-- Whether a text has a scheme does not depend on what is behind the colon. -/
theorem scheme?_append (h : ':' ∉ scheme) :
    (∀ t, scheme? (scheme ++ ':' :: t) = none) ∨
      ∀ t, scheme? (scheme ++ ':' :: t) = some (Text.lower scheme, t) := by
  have hcolon : isSchemePart ':' = false := by decide
  by_cases hall : ∀ c ∈ scheme, isSchemePart c = true
  · cases scheme with
    | nil => exact Or.inl fun t => if_neg (by simp)
    | cons c scheme =>
      have hdrop (t : Text) : (c :: scheme ++ ':' :: t).dropWhile isSchemePart = ':' :: t := by
        rw [List.dropWhile_append_of_pos hall, List.dropWhile_cons_of_neg (by simp [hcolon])]
      have htake (t : Text) : (c :: scheme ++ ':' :: t).takeWhile isSchemePart = c :: scheme := by
        rw [List.takeWhile_append_of_pos hall, List.takeWhile_cons_of_neg (by simp [hcolon]),
          List.append_nil]
      by_cases halpha : c.isAlpha = true
      · refine Or.inr fun t => ?_
        have hletter : (c :: scheme ++ ':' :: t).head?.any Char.isAlpha = true := by
          simpa using halpha
        simp only [scheme?, hdrop, htake, hletter, if_true]
      · exact Or.inl fun t => by simp [scheme?, halpha]
  · refine Or.inl fun t => ?_
    have hother : ∃ c rest, c ≠ ':' ∧ (scheme ++ ':' :: t).dropWhile isSchemePart = c :: rest := by
      rw [dropWhile_append_of_neg hcolon]
      cases hdrop : scheme.dropWhile isSchemePart with
      | nil => exact absurd (List.dropWhile_eq_nil_iff.mp hdrop) hall
      | cons c rest =>
        refine ⟨c, _, ?_, rfl⟩
        rintro rfl
        exact h ((List.dropWhile_subset _) (hdrop ▸ List.mem_cons_self))
    obtain ⟨c, rest, hc, hdrop⟩ := hother
    unfold scheme?
    split
    · rw [hdrop]
      split
      · rename_i heq
        exact absurd (List.cons.inj heq).1 hc
      · rfl
    · rfl

/-- Behind the last at sign is the same, whatever is before the first. -/
theorem cutLast_at (w : Text) :
    ∃ site, ∀ u, ∃ user, cutLast '@' (u ++ '@' :: w) = (some user, site) := by
  by_cases h : '@' ∈ w
  · obtain ⟨a, site, rfl, hsite⟩ := exists_last h
    refine ⟨site, fun u => ⟨u ++ '@' :: a, ?_⟩⟩
    rw [← cutLast_append hsite]
    simp
  · exact ⟨w, fun u => ⟨u, cutLast_append h u⟩⟩

theorem takeWhile_withUser {u : Text} (h : Enclosed u) (v : Text) :
    (u ++ '@' :: v).takeWhile (!isAuthorityEnd ·) =
      u ++ '@' :: v.takeWhile (!isAuthorityEnd ·) := by
  have hpos : ∀ c ∈ u, (!isAuthorityEnd c) = true := fun c hc => by rw [h c hc]; rfl
  rw [List.takeWhile_append_of_pos hpos, List.takeWhile_cons_of_pos (by decide)]

theorem dropWhile_withUser {u : Text} (h : Enclosed u) (v : Text) :
    (u ++ '@' :: v).dropWhile (!isAuthorityEnd ·) = v.dropWhile (!isAuthorityEnd ·) := by
  have hpos : ∀ c ∈ u, (!isAuthorityEnd c) = true := fun c hc => by rw [h c hc]; rfl
  rw [List.dropWhile_append_of_pos hpos, List.dropWhile_cons_of_pos (by decide)]

/-- A user makes a difference for the host only by asking for one. -/
theorem hostOf_unique {named named' : Bool} {host rest : Text} {h h' : Option Host}
    (hh : hostOf named host rest = .ok h) (hh' : hostOf named' host rest = .ok h') : h' = h := by
  unfold hostOf at hh hh'
  split at hh
  · rename_i hne
    rw [if_pos hne] at hh'
    exact Except.ok.inj (hh'.symm.trans hh)
  · rename_i hempty
    rw [if_neg hempty] at hh'
    split at hh
    · cases hh
    split at hh'
    · cases hh'
    · exact (Except.ok.inj hh').symm.trans (Except.ok.inj hh)

/-- Two authorities that differ only in their users are read alike. -/
theorem withoutUser_parseAuthority {u u' v : Text} (hu : Enclosed u) (hu' : Enclosed u')
    {url url' : Url} (h : parseAuthority scheme (u ++ '@' :: v) = .ok url)
    (h' : parseAuthority scheme (u' ++ '@' :: v) = .ok url') :
    url'.withoutUser = url.withoutUser := by
  obtain ⟨site, hsite⟩ := cutLast_at (v.takeWhile (!isAuthorityEnd ·))
  obtain ⟨user, hcut⟩ := hsite u
  obtain ⟨user', hcut'⟩ := hsite u'
  obtain ⟨named, host, port, rest, hhost, hport, hurl⟩ := of_parseAuthority h
  obtain ⟨named', host', port', rest', hhost', hport', hurl'⟩ := of_parseAuthority h'
  rw [takeWhile_withUser hu, hcut] at hhost hport
  rw [takeWhile_withUser hu', hcut'] at hhost' hport'
  rw [dropWhile_withUser hu] at hurl
  rw [dropWhile_withUser hu'] at hurl'
  obtain ⟨rfl, rfl⟩ := Prod.mk.inj (Except.ok.inj (hport'.symm.trans hport))
  rw [hurl, hurl', hostOf_unique hhost hhost']

/-- Two addresses that differ only in their users are the same but for these. -/
theorem withoutUser_parse (ho : Opens before) (hu : Enclosed user) (hu' : Enclosed user')
    {url url' : Url} (h : parse (withUser before user after) = .ok url)
    (h' : parse (withUser before user' after) = .ok url') :
    url'.withoutUser = url.withoutUser := by
  obtain ⟨scheme, hscheme, hbefore⟩ := ho
  have hmap : ∀ {e : Except Fault Unit} {name : Text} {url : Url},
      e.map (fun _ => (⟨name, [], none, none, none, [], none⟩ : Url)) = .ok url →
        url = ⟨name, [], none, none, none, [], none⟩ := by
    intro e name url he
    cases e with
    | error fault => cases he
    | ok x => exact (Except.ok.inj he).symm
  unfold parse at h h'
  rw [clean_withUser hbefore, List.append_assoc] at h h'
  have hcolon (t : Text) : scheme ++ ("://".toList ++ t) = scheme ++ ':' :: '/' :: '/' :: t := rfl
  rw [hcolon] at h h'
  rcases scheme?_append hscheme with hnone | hsome
  · rw [hnone] at h
    cases h
  rw [hsome] at h h'
  dsimp only at h h'
  split at h
  · rename_i hweb
    rw [if_pos hweb] at h'
    rw [hmap h, hmap h']
  rename_i hweb
  rw [if_neg hweb] at h'
  split at h
  · rename_i hfile
    rw [if_pos hfile] at h'
    rw [hmap h, hmap h']
  rename_i hfile
  rw [if_neg hfile] at h'
  exact withoutUser_parseAuthority hu.filter hu'.filter h h'

end Url

namespace Locator

open Url (withUser Opens Enclosed)

variable {before user user' after : Text}

theorem eq_of_afterScheme? {t r : Text} (h : afterScheme? t = some r) :
    ∃ p, t = p ++ ':' :: '/' :: '/' :: r := by
  induction t with
  | nil => cases h
  | cons c t ih =>
    rw [afterScheme?_cons] at h
    split at h
    · rename_i hhere
      obtain ⟨rfl, rest, rfl⟩ := hhere
      exact ⟨[], congrArg (':' :: '/' :: '/' :: ·) (Option.some.inj h)⟩
    · obtain ⟨p, rfl⟩ := ih h
      exact ⟨c :: p, rfl⟩

/-- The first colon with two slashes stays the first. -/
theorem afterScheme?_append_of_some {t r : Text} (h : afterScheme? t = some r) (x : Text) :
    afterScheme? (t ++ x) = some (r ++ x) := by
  induction t with
  | nil => cases h
  | cons c t ih =>
    rw [afterScheme?_cons] at h
    rw [List.cons_append, afterScheme?_cons]
    split at h
    · rename_i hhere
      obtain ⟨hc, rest, rfl⟩ := hhere
      rw [if_pos ⟨hc, rest ++ x, rfl⟩, ← Option.some.inj h]
      rfl
    · rename_i hnot
      rw [ih h, if_neg]
      rintro ⟨hc, hslashes⟩
      obtain ⟨p, rfl⟩ := eq_of_afterScheme? h
      have hlong : ['/', '/'] <+: p ++ ':' :: '/' :: '/' :: r :=
        List.prefix_of_prefix_length_le hslashes (List.prefix_append _ x) (by simp; omega)
      exact hnot ⟨hc, hlong⟩

/-- No two slashes are in a text that does not begin with one, and in which an at sign follows what
has none. -/
theorem afterScheme?_user {u : Text} (hu : '/' ∉ u) (x : Text) :
    afterScheme? (u ++ '@' :: x) = afterScheme? x := by
  induction u with
  | nil => exact (afterScheme?_cons '@' x).trans (if_neg fun h => absurd h.1 (by decide))
  | cons c u ih =>
    rw [List.cons_append, afterScheme?_cons, ih fun h => hu (List.mem_cons_of_mem c h), if_neg]
    rintro ⟨-, rest, hrest⟩
    cases u with
    | nil => exact absurd (List.cons.inj hrest).1 (by decide)
    | cons b u => exact hu ((List.cons.inj hrest).1 ▸ List.mem_cons_of_mem c List.mem_cons_self)

/-- A user has no part in a colon with two slashes. -/
theorem afterScheme?_append_of_none (h : afterScheme? before = none) (hu : '/' ∉ user) (x : Text) :
    afterScheme? (before ++ (user ++ '@' :: x)) = afterScheme? x := by
  induction before with
  | nil => exact afterScheme?_user hu x
  | cons c t ih =>
    rw [afterScheme?_cons] at h
    split at h
    · cases h
    rename_i hnot
    rw [List.cons_append, afterScheme?_cons, ih h, if_neg]
    rintro ⟨hc, rest, hrest⟩
    have hfirst : ∀ w, '/' :: w ≠ user ++ '@' :: x := by
      intro w hw
      cases user with
      | nil => exact absurd (List.cons.inj hw).1 (by decide)
      | cons b u => exact hu ((List.cons.inj hw).1 ▸ List.mem_cons_self)
    match t with
    | [] => exact hfirst _ hrest
    | [b] => exact hfirst _ (List.cons.inj hrest).2
    | a :: b :: t =>
      simp only [List.cons_append, List.nil_append, List.cons.injEq] at hrest
      obtain ⟨rfl, rfl, -⟩ := hrest
      exact hnot ⟨hc, t, rfl⟩

/-- Between the slashes of the scheme and the user nothing counts. -/
theorem enclosed_of_opens (ho : Opens before) {r : Text} (h : afterScheme? before = some r) :
    Enclosed r := by
  obtain ⟨scheme, hscheme, hbefore⟩ := ho
  obtain ⟨p, rfl⟩ := eq_of_afterScheme? h
  have hkept : (!Url.isDropped ':') = true ∧ (!Url.isDropped '/') = true := by decide
  rw [Url.dropWhile_append_of_neg (by decide), List.filter_append] at hbefore
  simp only [List.filter_cons, hkept, if_true] at hbefore
  have hnil : r.filter (!Url.isDropped ·) = [] := by
    rcases List.append_eq_append_iff.mp hbefore with ⟨w, hw, htail⟩ | ⟨w, hw, htail⟩
    · cases w with
      | nil =>
        rw [List.nil_append] at htail
        simpa using htail
      | cons c w =>
        obtain rfl : ':' = c := (List.cons.inj htail).1
        exact absurd (hw ▸ List.mem_append_right _ List.mem_cons_self) hscheme
    · have hlength := congrArg List.length htail
      rw [List.length_append] at hlength
      simp only [List.length_cons] at hlength
      apply List.eq_nil_of_length_eq_zero
      have hthree : "://".toList.length = 3 := rfl
      omega
  intro c hc
  have hdropped : Url.isDropped c = true := by
    have := List.filter_eq_nil_iff.mp hnil c hc
    simpa using this
  exact Url.isAuthorityEnd_of_isTrimmed (Url.isTrimmed_of_isDropped hdropped)

theorem Enclosed.not_mem_slash {u : Text} (h : Enclosed u) : '/' ∉ u :=
  fun hmem => absurd (h '/' hmem) (by decide)

/-- Whether there is a user does not depend on who it is. -/
theorem user?_isSome (ho : Opens before) (hu : Enclosed user) (hu' : Enclosed user') :
    (user? (withUser before user' after)).isSome = (user? (withUser before user after)).isSome := by
  cases hafter : afterScheme? before with
  | some r =>
    have hr := enclosed_of_opens ho hafter
    obtain ⟨site, hsite⟩ := Url.cutLast_at (after.takeWhile (!Url.isAuthorityEnd ·))
    have hsome : ∀ u, Enclosed u → (user? (withUser before u after)).isSome = true := by
      intro u hu
      have hru : Enclosed (r ++ u) := List.forall_mem_append.mpr ⟨hr, hu⟩
      obtain ⟨name, hcut⟩ := hsite (r ++ u)
      rw [user?, withUser, afterScheme?_append_of_some hafter, Option.bind_eq_bind,
        Option.bind_some, ← List.append_assoc, Url.takeWhile_withUser hru, hcut]
      rfl
    rw [hsome user hu, hsome user' hu']
  | none =>
    have hsame : ∀ u, Enclosed u → user? (withUser before u after) = user? after := by
      intro u hu
      rw [user?, user?, withUser, afterScheme?_append_of_none hafter (Enclosed.not_mem_slash hu)]
    rw [hsame user hu, hsame user' hu']

theorem isSome_credentials? {t : Text} {c : Option Credentials} (h : credentials? t = .ok c) :
    c.isSome = (user? t).isSome := by
  rcases of_credentials? h with ⟨hnone, rfl⟩ | ⟨user, x, huser, -, rfl⟩
  · rw [hnone]
    rfl
  · rw [huser]
    rfl

/-- Addresses that differ only in their users lead to the same place, with or without
credentials. -/
theorem read_withUser (ho : Opens before) (hu : Enclosed user) (hu' : Enclosed user')
    {l l' : Locator} (h : read (withUser before user after) = .ok l)
    (h' : read (withUser before user' after) = .ok l') :
    l' = { l with credentials := l'.credentials } ∧
      l'.credentials.isSome = l.credentials.isSome := by
  obtain ⟨url, hurl, hscheme, hhost, hplain, hcredentials⟩ := parts_of_read h
  obtain ⟨url', hurl', hscheme', hhost', hplain', hcredentials'⟩ := parts_of_read h'
  have hsame := Url.withoutUser_parse ho hu hu' hurl hurl'
  have hsamescheme := congrArg Url.scheme hsame
  have hsamehost := congrArg Url.host hsame
  simp only [Url.withoutUser] at hsamescheme hsamehost
  rw [hsamescheme, hscheme, Except.ok.injEq] at hscheme'
  rw [hsamehost, hhost, Option.some.injEq] at hhost'
  constructor
  · obtain ⟨scheme, plain, host, credentials⟩ := l'
    simp only at hscheme' hhost' hplain'
    rw [← hscheme', ← hhost', hplain', hsame, ← hplain]
  · rw [isSome_credentials? hcredentials', isSome_credentials? hcredentials]
    exact user?_isSome ho hu hu'

end Locator

namespace Settings

/-- The settings with other credentials, or without. -/
def withCredentials (s : Settings) (c : Option Credentials) : Settings :=
  { s with locator := { s.locator with credentials := c } }

theorem parts_of_build {d : Draft} {s : Settings} (h : d.build = .ok s) :
    ∃ l range pin, Locator.read d.url = .ok l ∧
      PlayRange.parse d.rangeKind d.rangeStart = .ok range ∧
      parsePin d.pin = .ok pin ∧
      s = ⟨l, d.readTimeout, d.writeTimeout, d.queueSize, d.transport, d.rangeKind, range, pin,
        d.retryPause⟩ := by
  unfold Draft.build at h
  simp only [bind, Except.bind, pure, Except.pure] at h
  split at h
  · cases h
  rename_i l hlocator
  split at h
  · cases h
  split at h
  · cases h
  rename_i range hrange
  split at h
  · cases h
  rename_i pin hpin
  refine ⟨l, range, pin, ?_, hrange, hpin, (Except.ok.inj h).symm⟩
  unfold Locator.parse at hlocator
  split at hlocator
  · rename_i l' hread
    rw [← Except.ok.inj hlocator]
    exact hread
  · cases hlocator

/-- Drafts that differ only in the user of their address make the same settings but for the
credentials, which both have or both have not. -/
theorem build_withUser {d : Draft} {before user user' after : Text} (ho : Url.Opens before)
    (hu : Url.Enclosed user) (hu' : Url.Enclosed user') {s s' : Settings}
    (h : { d with url := Url.withUser before user after }.build = .ok s)
    (h' : { d with url := Url.withUser before user' after }.build = .ok s') :
    s' = s.withCredentials s'.locator.credentials ∧
      s'.locator.credentials.isSome = s.locator.credentials.isSome := by
  obtain ⟨l, range, pin, hread, hrange, hpin, rfl⟩ := parts_of_build h
  obtain ⟨l', range', pin', hread', hrange', hpin', rfl⟩ := parts_of_build h'
  obtain ⟨hlocator, hsome⟩ := Locator.read_withUser ho hu hu' hread hread'
  obtain rfl := Except.ok.inj (hrange'.symm.trans hrange)
  obtain rfl := Except.ok.inj (hpin'.symm.trans hpin)
  refine ⟨?_, hsome⟩
  rw [withCredentials]
  dsimp only
  rw [← hlocator]

end Settings

end Rtsp
