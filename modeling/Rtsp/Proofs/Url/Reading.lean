import Mathlib.Data.List.TakeWhile
import Rtsp.Locator
import Rtsp.Proofs.Result
import Rtsp.Proofs.Text.Line

/-!
How an address is taken apart. What is dropped from its text is dropped from each part on its own:
in front of the scheme, within the parts, and behind the last one. The authority is what follows the
first colon and two slashes of what is left, its user is what stands before its last at sign, and
characters that are dropped make no difference for where it stands.
-/
namespace Rtsp

namespace Url

variable {sep c : Char} {a b t user : Text}

theorem dropWhile_append_of_neg {p : Char → Bool} (hc : p c = false) (a b : Text) :
    (a ++ c :: b).dropWhile p = a.dropWhile p ++ c :: b := by
  rw [List.dropWhile_append, List.dropWhile_cons_of_neg (by simp [hc])]
  split
  · rename_i hnil
    rw [List.isEmpty_iff.mp hnil, List.nil_append]
  · rfl

section Cleaning

/-- What counts in a text. -/
def kept (t : Text) : Text := t.filter (!isDropped ·)

/-- What counts in the end of a text. -/
def tidied (after : Text) : Text :=
  ((after.reverse.dropWhile isTrimmed).reverse).filter (!isDropped ·)

theorem tidied_eq (t : Text) : tidied t = kept (t.reverse.dropWhile isTrimmed).reverse := rfl

theorem isTrimmed_of_isDropped (h : isDropped c = true) : isTrimmed c = true := by
  simp only [isDropped, Bool.or_eq_true, beq_iff_eq] at h
  rcases h with (rfl | rfl) | rfl <;> decide

theorem isDropped_of_isTrimmed (h : isTrimmed c = false) : isDropped c = false := by
  cases hc : isDropped c with
  | false => rfl
  | true => exact absurd (isTrimmed_of_isDropped hc) (by simp [h])

theorem clean_eq (t : Text) : clean t = tidied (t.dropWhile isTrimmed) := rfl

theorem kept_append (a b : Text) : kept (a ++ b) = kept a ++ kept b := List.filter_append a b

theorem kept_cons (h : isDropped c = false) (t : Text) : kept (c :: t) = c :: kept t := by
  simp [kept, h]

theorem kept_eq_self (h : ∀ c ∈ t, isDropped c = false) : kept t = t :=
  List.filter_eq_self.mpr fun c hc => by rw [h c hc]; rfl

theorem mem_kept (h : c ∈ kept t) : c ∈ t := (List.mem_filter.mp h).1

/-- Nothing in front of a visible character is trimmed with the end. -/
theorem tidied_append_cons (h : isTrimmed c = false) (a b : Text) :
    tidied (a ++ c :: b) = kept a ++ c :: tidied b := by
  have hreverse : (a ++ c :: b).reverse = b.reverse ++ c :: a.reverse := by simp
  rw [tidied_eq, hreverse, dropWhile_append_of_neg h, List.reverse_append, List.reverse_cons,
    List.reverse_reverse, List.append_assoc, List.singleton_append, kept_append,
    kept_cons (isDropped_of_isTrimmed h), tidied_eq]

/-- A visible character keeps what is in front of it from what is behind it. -/
theorem clean_append_cons (h : isTrimmed c = false) (a b : Text) :
    clean (a ++ c :: b) = kept (a.dropWhile isTrimmed) ++ c :: tidied b := by
  rw [clean_eq, dropWhile_append_of_neg h, tidied_append_cons h]

/-- What is trimmed from the end stands behind what is tidied. -/
theorem tidied_eq_kept (t : Text) :
    ∃ body rest, t = body ++ rest ∧ (∀ c ∈ rest, isTrimmed c = true) ∧ tidied t = kept body := by
  refine ⟨(t.reverse.dropWhile isTrimmed).reverse, (t.reverse.takeWhile isTrimmed).reverse, ?_, ?_,
    rfl⟩
  · rw [← List.reverse_append, List.takeWhile_append_dropWhile, List.reverse_reverse]
  · intro c hc
    exact List.mem_takeWhile_imp (List.mem_reverse.mp hc)

/-- In front of the first character that counts there are only dropped ones. -/
theorem eq_of_tidied_cons {rest : Text} (h : tidied t = c :: rest) (hc : isTrimmed c = false) :
    ∃ gap back, t = gap ++ c :: back ∧ (∀ d ∈ gap, isDropped d = true) ∧ tidied back = rest := by
  obtain ⟨body, trimmed, rfl, -, htidied⟩ := tidied_eq_kept t
  rw [h] at htidied
  obtain ⟨gap, back, rfl, hgap, -, -⟩ := List.filter_eq_cons_iff.mp htidied.symm
  have hdropped : ∀ d ∈ gap, isDropped d = true := fun d hd => by simpa using hgap d hd
  have hnil : kept gap = [] := List.filter_eq_nil_iff.mpr hgap
  rw [List.append_assoc, List.cons_append] at h ⊢
  rw [tidied_append_cons hc, hnil, List.nil_append] at h
  exact ⟨gap, back ++ trimmed, rfl, hdropped, (List.cons.inj h).2⟩

theorem mem_of_mem_clean (h : c ∈ clean t) : c ∈ t := by
  rw [clean_eq] at h
  obtain ⟨body, rest, heq, -, htidied⟩ := tidied_eq_kept (t.dropWhile isTrimmed)
  rw [htidied] at h
  exact List.dropWhile_subset _ (heq ▸ List.mem_append_left rest (mem_kept h))

/-- Where everything is visible, everything counts. -/
theorem tidied_eq_self (h : ∀ c ∈ t, isTrimmed c = false) : tidied t = t := by
  have hback : t.reverse.dropWhile isTrimmed = t.reverse := by
    rw [List.dropWhile_eq_self_iff]
    intro hl
    rw [h _ (List.mem_reverse.mp (List.getElem_mem hl))]
    exact Bool.false_ne_true
  rw [tidied_eq, hback, List.reverse_reverse,
    kept_eq_self fun c hc => isDropped_of_isTrimmed (h c hc)]

end Cleaning

section Users

theorem cutLast_of_not_mem (h : sep ∉ t) : cutLast sep t = (none, t) := by
  rw [cutLast, Text.cut?_eq_none (mt List.mem_reverse.mp h)]

/-- A text is cut exactly at its last separator. -/
theorem cutLast_append (h : sep ∉ b) (a : Text) :
    cutLast sep (a ++ sep :: b) = (some a, b) := by
  have hreverse : (a ++ sep :: b).reverse = b.reverse ++ sep :: a.reverse := by simp
  rw [cutLast, hreverse, Text.cut?_append (mt List.mem_reverse.mp h)]
  simp

theorem exists_last (h : sep ∈ t) : ∃ a b, t = a ++ sep :: b ∧ sep ∉ b := by
  obtain ⟨b, a, heq, hb⟩ := List.eq_append_cons_of_mem (List.mem_reverse.mpr h)
  refine ⟨a.reverse, b.reverse, ?_, mt List.mem_reverse.mp hb⟩
  rw [← List.reverse_reverse t, heq]
  simp

/-- The part of an authority before its last at sign. -/
def leadingUser? (t : Text) : Option Text := (cutLast '@' (t.takeWhile (!isAuthorityEnd ·))).1

theorem isSome_leadingUser? (t : Text) :
    (leadingUser? t).isSome = true ↔ '@' ∈ t.takeWhile (!isAuthorityEnd ·) := by
  unfold leadingUser?
  by_cases h : '@' ∈ t.takeWhile (!isAuthorityEnd ·)
  · obtain ⟨a, b, heq, hb⟩ := exists_last h
    rw [heq, cutLast_append hb]
    simp
  · rw [cutLast_of_not_mem h]
    simpa using h

/-- What none of the ends of an authority is like ends none. -/
theorem not_isAuthorityEnd {P : Char → Prop} (h : P c) (hends : ∀ d ∈ "/?#".toList, ¬ P d) :
    isAuthorityEnd c = false := by
  cases hc : isAuthorityEnd c with
  | false => rfl
  | true =>
    simp only [isAuthorityEnd, Bool.or_eq_true, beq_iff_eq] at hc
    rcases hc with (rfl | rfl) | rfl <;> exact absurd h (hends _ (by decide))

theorem isAuthorityEnd_of_isTrimmed (h : isTrimmed c = true) : isAuthorityEnd c = false :=
  not_isAuthorityEnd (P := fun d => isTrimmed d = true) h (by decide)

/-- Dropped characters end no authority. -/
theorem takeWhile_kept (t : Text) :
    (kept t).takeWhile (!isAuthorityEnd ·) = kept (t.takeWhile (!isAuthorityEnd ·)) := by
  have hends : ∀ c, (!(!isDropped c) || !isAuthorityEnd c) = !isAuthorityEnd c := by
    intro c
    cases hc : isDropped c with
    | false => rfl
    | true => rw [isAuthorityEnd_of_isTrimmed (isTrimmed_of_isDropped hc)]; rfl
  simp only [kept, List.takeWhile_filter, hends]

theorem leadingUser?_kept (t : Text) : leadingUser? (kept t) = (leadingUser? t).map kept := by
  have hat : isDropped '@' = false := by decide
  rw [leadingUser?, leadingUser?, takeWhile_kept]
  generalize t.takeWhile (!isAuthorityEnd ·) = authority
  by_cases h : '@' ∈ authority
  · obtain ⟨a, b, rfl, hb⟩ := exists_last h
    rw [kept_append, kept_cons hat, cutLast_append hb, cutLast_append (mt mem_kept hb)]
    rfl
  · rw [cutLast_of_not_mem h, cutLast_of_not_mem (mt mem_kept h)]
    rfl

/-- Behind what is trimmed there is no user. -/
theorem leadingUser?_append_trimmed (h : ∀ c ∈ b, isTrimmed c = true) (a : Text) :
    leadingUser? (a ++ b) = leadingUser? a := by
  have hat : '@' ∉ b := fun hmem => absurd (h '@' hmem) (by decide)
  have hb : ∀ c ∈ b, (!isAuthorityEnd c) = true := fun c hc => by
    rw [isAuthorityEnd_of_isTrimmed (h c hc)]
    rfl
  rw [leadingUser?, leadingUser?, List.takeWhile_append]
  split
  · rename_i hwhole
    rw [(List.takeWhile_prefix _).eq_of_length hwhole, List.takeWhile_eq_self_iff.mpr hb]
    by_cases h : '@' ∈ a
    · obtain ⟨x, y, rfl, hy⟩ := exists_last h
      have hyb : '@' ∉ y ++ b := by simp [hy, hat]
      rw [List.append_assoc, List.cons_append, cutLast_append hyb, cutLast_append hy]
    · have hab : '@' ∉ a ++ b := by simp [h, hat]
      rw [cutLast_of_not_mem h, cutLast_of_not_mem hab]
  · rfl

theorem leadingUser?_tidied (t : Text) : leadingUser? (tidied t) = (leadingUser? t).map kept := by
  obtain ⟨body, rest, rfl, hrest, htidied⟩ := tidied_eq_kept t
  rw [htidied, leadingUser?_kept, leadingUser?_append_trimmed hrest]

end Users

section Parsing

variable {scheme : Text} {url : Url}

/-- The authority of an address. -/
def authority? (t : Text) : Option Text := do
  let (_, rest) ← scheme? (clean t)
  let rest ← Text.after? "//".toList rest
  some (rest.takeWhile (!isAuthorityEnd ·))

theorem eq_of_scheme? {name rest : Text} (h : scheme? t = some (name, rest)) :
    ∃ raw, ':' ∉ raw ∧ t = raw ++ ':' :: rest ∧ name = Text.lower raw := by
  unfold scheme? at h
  split at h
  · split at h
    · rename_i after hafter
      obtain ⟨rfl, rfl⟩ := Prod.mk.inj (Option.some.inj h)
      refine ⟨t.takeWhile isSchemePart, ?_, ?_, rfl⟩
      · intro hcolon
        exact absurd (List.mem_takeWhile_imp hcolon) (by decide)
      · rw [← hafter, List.takeWhile_append_dropWhile]
    · cases h
  · cases h

/-- A URL has an authority, or nothing but a scheme. -/
theorem parse_cases (h : parse t = .ok url) :
    ∃ scheme rest, scheme? (clean t) = some (scheme, rest) ∧
      (url = ⟨scheme, [], none, none, none, [], none⟩ ∨
        ∃ authority, rest = '/' :: '/' :: authority ∧ parseAuthority scheme authority = .ok url) := by
  unfold parse at h
  split at h
  · cases h
  rename_i scheme rest hscheme
  refine ⟨scheme, rest, hscheme, ?_⟩
  split at h
  · obtain ⟨-, -, rfl⟩ := exists_of_map_eq_ok h
    exact Or.inl rfl
  split at h
  · obtain ⟨-, -, rfl⟩ := exists_of_map_eq_ok h
    exact Or.inl rfl
  unfold parseRest at h
  split at h
  · rename_i after hafter
    unfold Text.after? at hafter
    split at hafter
    · rename_i hslashes
      obtain ⟨authority, rfl⟩ := List.isPrefixOf_iff_prefix.mp hslashes
      obtain rfl : authority = after := Option.some.inj hafter
      exact Or.inr ⟨authority, rfl, h⟩
    · cases hafter
  · exact Or.inl (Except.ok.inj h).symm

/-- A URL that names a host has an authority. -/
theorem parts_of_parse (h : parse t = .ok url) (hhost : url.host ≠ none) :
    ∃ scheme rest, scheme? (clean t) = some (scheme, '/' :: '/' :: rest) ∧
      parseAuthority scheme rest = .ok url := by
  obtain ⟨scheme, _, hscheme, rfl | ⟨rest, rfl, hurl⟩⟩ := parse_cases h
  · exact absurd rfl hhost
  · exact ⟨scheme, rest, hscheme, hurl⟩

/-- In the text itself the slashes of a URL that names a host stand behind the first colon, with
nothing but dropped characters among them. -/
theorem slashes_of_parse (h : parse t = .ok url) (hhost : url.host ≠ none) :
    ∃ scheme front gap gap' rest,
      t = front ++ ':' :: (gap ++ '/' :: (gap' ++ '/' :: rest)) ∧ ':' ∉ front ∧
      (∀ c ∈ gap, isDropped c = true) ∧ (∀ c ∈ gap', isDropped c = true) ∧
      authority? t = some ((tidied rest).takeWhile (!isAuthorityEnd ·)) ∧
      parseAuthority scheme (tidied rest) = .ok url := by
  obtain ⟨scheme, r, hscheme, hurl⟩ := parts_of_parse h hhost
  obtain ⟨raw, hraw, hclean, -⟩ := eq_of_scheme? hscheme
  have hcolon : ':' ∈ t := mem_of_mem_clean (hclean ▸ by simp)
  obtain ⟨front, back, rfl, hfront⟩ := List.eq_append_cons_of_mem hcolon
  have hfront' : ':' ∉ kept (front.dropWhile isTrimmed) :=
    fun hmem => hfront (List.dropWhile_subset _ (mem_kept hmem))
  have hcut := Text.cut?_append hraw ('/' :: '/' :: r)
  rw [← hclean, clean_append_cons (by decide), Text.cut?_append hfront'] at hcut
  obtain ⟨-, hback⟩ := Prod.mk.inj (Option.some.inj hcut)
  obtain ⟨gap, back', rfl, hgap, hback'⟩ := eq_of_tidied_cons hback (by decide)
  obtain ⟨gap', rest, rfl, hgap', rfl⟩ := eq_of_tidied_cons hback' (by decide)
  refine ⟨scheme, front, gap, gap', rest, rfl, hfront, hgap, hgap', ?_, hurl⟩
  have hafter : Text.after? "//".toList ('/' :: '/' :: tidied rest) = some (tidied rest) :=
    Text.after?_append "//".toList (tidied rest)
  simp only [authority?, hscheme, Option.bind_eq_bind, Option.bind_some, hafter]

/-- The user of the authority is that of the URL. -/
theorem user_of_parseAuthority (h : parseAuthority scheme t = .ok url) :
    (url.username, url.password) = userOf ((leadingUser? t).getD []) := by
  unfold parseAuthority at h
  simp only [bind, Except.bind, pure, Except.pure, throw, throwThe, MonadExceptOf.throw] at h
  split at h
  · cases h
  split at h
  · cases h
  split at h
  · cases h
  obtain rfl := Except.ok.inj h
  rfl

/-- The parts of an authority that was read, but for its user. -/
theorem of_parseAuthority {t : Text} {url : Url} (h : parseAuthority scheme t = .ok url) :
    let after := t.dropWhile (!isAuthorityEnd ·)
    let site := (cutLast '@' (t.takeWhile (!isAuthorityEnd ·))).2
    ∃ named host port rest,
      hostOf named (site.take (hostLength false site)) (site.drop (hostLength false site)) =
        .ok host ∧
      readPort (site.drop (hostLength false site)) = .ok (port, rest) ∧
      url.withoutUser = ⟨scheme, [], none, host, port,
        Path.parse ((rest ++ after).takeWhile (!isPathEnd ·)),
        queryOf ((rest ++ after).dropWhile (!isPathEnd ·))⟩ := by
  unfold parseAuthority at h
  simp only [bind, Except.bind, pure, Except.pure, throw, throwThe, MonadExceptOf.throw] at h
  split at h
  · cases h
  split at h
  · cases h
  rename_i host hhost
  split at h
  · cases h
  rename_i x hport
  obtain rfl := Except.ok.inj h
  exact ⟨_, host, x.1, x.2, hhost, hport, rfl⟩

theorem of_hostOf {named : Bool} {host rest : Text} {x : Host}
    (h : hostOf named host rest = .ok (some x)) : host ≠ [] ∧ Host.parse host = .ok x := by
  unfold hostOf at h
  split at h
  · rename_i hne
    obtain ⟨y, hparse, heq⟩ := exists_of_map_eq_ok h
    exact ⟨hne, Option.some.inj heq ▸ hparse⟩
  · split at h <;> cases h

/-- An authority with a host is read part by part. -/
theorem parseAuthority_of_parts {user : Option Text} {site rest : Text} {host : Host}
    {port : Option UInt16}
    (hcut : cutLast '@' (t.takeWhile (!isAuthorityEnd ·)) = (user, site))
    (hne : site.take (hostLength false site) ≠ [])
    (hhost : Host.parse (site.take (hostLength false site)) = .ok host)
    (hport : readPort (site.drop (hostLength false site)) = .ok (port, rest)) :
    parseAuthority scheme t = .ok
      { scheme := scheme
        username := (userOf (user.getD [])).1
        password := (userOf (user.getD [])).2
        host := some host
        port := port
        path := Path.parse ((rest ++ t.dropWhile (!isAuthorityEnd ·)).takeWhile (!isPathEnd ·))
        query := queryOf ((rest ++ t.dropWhile (!isAuthorityEnd ·)).dropWhile (!isPathEnd ·)) } := by
  have hsite : site ≠ [] := by
    rintro rfl
    exact hne List.take_nil
  unfold parseAuthority
  simp only [hcut, hsite, hostOf, if_pos hne, hhost, Except.map, hport, bind, Except.bind, pure,
    Except.pure, false_and, and_false, if_false]

end Parsing

end Url

namespace Locator

variable {t rest : Text}

theorem afterScheme?_cons (c : Char) (t : Text) :
    afterScheme? (c :: t) =
      if c = ':' ∧ ['/', '/'] <+: t then some (t.drop 2) else afterScheme? t := by
  by_cases h : c = ':' ∧ ['/', '/'] <+: t
  · obtain ⟨rfl, rest, rfl⟩ := h
    rw [if_pos ⟨rfl, rest, rfl⟩]
    rfl
  · rw [if_neg h]
    exact afterScheme?.eq_2 c t fun rest hc ht => h ⟨hc, rest, ht.symm⟩

/-- No colon comes before the first colon with two slashes. -/
theorem afterScheme?_append_of_not_mem (h : ':' ∉ rest) (t : Text) :
    afterScheme? (rest ++ t) = afterScheme? t := by
  induction rest with
  | nil => rfl
  | cons c rest ih =>
    obtain ⟨hc, hrest⟩ := List.ne_and_not_mem_of_not_mem_cons h
    rw [List.cons_append, afterScheme?_cons, if_neg fun hhere => hc hhere.1.symm, ih hrest]

theorem parse_eq_ok_iff {l : Locator} : parse t = .ok l ↔ read t = .ok l := by
  unfold parse
  cases read t with
  | ok l' => simp
  | error defect => simp

theorem decode_eq_ok_iff {u : Text} : decode t = .ok u ↔ Text.Percent.decode t = .ok u := by
  unfold decode
  cases Text.Percent.decode t with
  | ok u' => simp
  | error fault => simp

/-- The two parts of a user, each as it is read. -/
theorem of_credentialsOf {c : Credentials} (h : credentialsOf t = .ok c) :
    Text.Percent.decode (Text.cut ':' t).1 = .ok c.username ∧
      ((Text.cut ':' t).2 ≠ [] →
        ∃ p, c.password = some p ∧ Text.Percent.decode (Text.cut ':' t).2 = .ok p) := by
  unfold credentialsOf at h
  split at h
  · rename_i name password hcut
    simp only [bind, Except.bind, pure, Except.pure] at h
    split at h
    · cases h
    rename_i p hp
    split at h
    · cases h
    rename_i n hn
    obtain rfl := Except.ok.inj h
    rw [Text.cut, hcut]
    exact ⟨decode_eq_ok_iff.mp hn, fun _ => ⟨p, rfl, decode_eq_ok_iff.mp hp⟩⟩
  · rename_i hcut
    rw [Text.cut, hcut]
    obtain ⟨n, hname, rfl⟩ := exists_of_map_eq_ok h
    exact ⟨decode_eq_ok_iff.mp hname, fun hne => absurd rfl hne⟩

/-- Credentials are those of a user. -/
theorem of_credentials? {c : Option Credentials} (h : credentials? t = .ok c) :
    user? t = none ∧ c = none ∨
      ∃ user x, user? t = some user ∧ credentialsOf user = .ok x ∧ c = some x := by
  unfold credentials? at h
  split at h
  · rename_i user huser
    obtain ⟨x, hof, rfl⟩ := exists_of_map_eq_ok h
    exact Or.inr ⟨user, x, huser, hof, rfl⟩
  · rename_i hnone
    exact Or.inl ⟨hnone, (Except.ok.inj h).symm⟩

theorem user?_eq (t : Text) : user? t = (afterScheme? t).bind Url.leadingUser? := rfl

/-- What is read for each part of an address. -/
theorem parts_of_read {t : Text} {l : Locator} (h : read t = .ok l) :
    ∃ url, Url.parse t = .ok url ∧ schemeOf url.scheme = .ok l.scheme ∧
      url.host.map Url.Host.text = some l.host ∧ l.url = url.withoutUser ∧
      credentials? t = .ok l.credentials := by
  unfold read at h
  split at h
  · cases h
  rename_i url hurl
  simp only [bind, Except.bind, pure, Except.pure] at h
  split at h
  · cases h
  rename_i scheme hscheme
  refine ⟨url, hurl, ?_⟩
  split at h
  · rename_i host hhost
    split at h
    · cases h
    rename_i credentials hcredentials
    obtain rfl := Except.ok.inj h
    exact ⟨hscheme, by rw [hhost]; rfl, rfl, hcredentials⟩
  · cases h

theorem read_of_parts {url : Url} {scheme : Scheme} {host : Url.Host} {c : Option Credentials}
    (hurl : Url.parse t = .ok url) (hscheme : schemeOf url.scheme = .ok scheme)
    (hhost : url.host = some host) (hcredentials : credentials? t = .ok c) :
    read t = .ok ⟨scheme, url.withoutUser, host.text, c⟩ := by
  simp only [read, hurl, hscheme, hhost, hcredentials, bind, Except.bind, pure, Except.pure]

/-- A scheme in writing. -/
def Scheme.name : Scheme → Text
  | .rtsp => "rtsp".toList
  | .rtsps => "rtsps".toList

/-- A scheme, a colon, two slashes and what is behind them. -/
def Scheme.address (s : Scheme) (rest : Text) : Text := s.name ++ "://".toList ++ rest

theorem schemeOf_eq_ok_iff {name : Text} {s : Scheme} : schemeOf name = .ok s ↔ name = s.name := by
  unfold schemeOf
  constructor
  · intro h
    split at h
    · rename_i heq
      obtain rfl := Except.ok.inj h
      exact heq
    split at h
    · rename_i heq
      obtain rfl := Except.ok.inj h
      exact heq
    · cases h
  · rintro rfl
    cases s <;> rfl

theorem Scheme.address_eq (s : Scheme) (rest : Text) :
    s.address rest = s.name ++ ':' :: '/' :: '/' :: rest :=
  List.append_assoc s.name "://".toList rest

theorem Scheme.colon_not_mem_name (s : Scheme) : ':' ∉ s.name := by
  cases s <;> decide

theorem Scheme.clean_address (s : Scheme) (rest : Text) :
    Url.clean (s.address rest) = s.address (Url.tidied rest) := by
  have hsplit : s.address rest = (s.name ++ [':', '/']) ++ '/' :: rest := by
    rw [s.address_eq, List.append_assoc]
    rfl
  have hkept :
      Url.kept ((s.name ++ [':', '/']).dropWhile Url.isTrimmed) = s.name ++ [':', '/'] := by
    cases s <;> decide
  rw [hsplit, Url.clean_append_cons (by decide), hkept, s.address_eq, List.append_assoc]
  rfl

theorem Scheme.scheme?_name (s : Scheme) (t : Text) :
    Url.scheme? (s.name ++ ':' :: t) = some (s.name, t) := by
  cases s <;> rfl

/-- What is behind the slashes is read as an authority and what follows it. -/
theorem Scheme.parse_address (s : Scheme) (rest : Text) :
    Url.parse (s.address rest) = Url.parseAuthority s.name (Url.tidied rest) := by
  have hafter : Text.after? "//".toList ('/' :: '/' :: Url.tidied rest) =
      some (Url.tidied rest) := Text.after?_append "//".toList (Url.tidied rest)
  have hweb : Url.Web.schemes.contains s.name = false ∧ s.name ≠ "file".toList := by
    cases s <;> decide
  rw [Url.parse, s.clean_address, s.address_eq, s.scheme?_name]
  simp only [hweb.1, hweb.2, if_false, Bool.false_eq_true, Url.parseRest, hafter]

theorem Scheme.authority?_address (s : Scheme) (rest : Text) :
    Url.authority? (s.address rest) =
      some ((Url.tidied rest).takeWhile (!Url.isAuthorityEnd ·)) := by
  have hafter : Text.after? "//".toList ('/' :: '/' :: Url.tidied rest) =
      some (Url.tidied rest) := Text.after?_append "//".toList (Url.tidied rest)
  rw [Url.authority?, s.clean_address, s.address_eq, s.scheme?_name]
  simp only [Option.bind_eq_bind, Option.bind_some, hafter]

theorem Scheme.user?_address (s : Scheme) (rest : Text) :
    user? (s.address rest) = Url.leadingUser? rest := by
  rw [user?_eq, s.address_eq, afterScheme?_append_of_not_mem s.colon_not_mem_name]
  rfl

end Locator

end Rtsp
