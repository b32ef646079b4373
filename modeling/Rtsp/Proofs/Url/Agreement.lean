import Rtsp.Proofs.Text.Percent
import Rtsp.Proofs.Url.Reading

/-!
Two readers of one address: the URL is read from what is left of the text after some characters were
dropped, and the credentials from the text as it was given. They agree on the user if the slashes
stand behind their colon and no character of the user was dropped. Otherwise the credentials are
those behind some later colon with two slashes, or have characters that the user of the URL has not.
-/
namespace Rtsp

namespace Url

variable {t : Text}

theorem cut_kept (t : Text) :
    Text.cut ':' (kept t) = (kept (Text.cut ':' t).1, kept (Text.cut ':' t).2) := by
  by_cases h : ':' ∈ t
  · obtain ⟨a, b, rfl, ha⟩ := List.eq_append_cons_of_mem h
    rw [kept_append, kept_cons (by decide), Text.cut, Text.cut, Text.cut?_append ha,
      Text.cut?_append (mt mem_kept ha)]
    rfl
  · rw [Text.cut, Text.cut, Text.cut?_eq_none h, Text.cut?_eq_none (mt mem_kept h)]
    rfl

/-- Dropping characters and encoding others changes what a text stands for if any were dropped. -/
theorem decode_user_iff {u : Text} (h : Text.Percent.decode t = .ok u) :
    Text.Percent.decode (Text.Percent.encode isUserReserved (kept t)) = .ok u ↔
      ∀ c ∈ t, isDropped c = false := by
  rw [Text.Percent.decode_eq_ok_iff] at h
  rw [Text.Percent.decode_encode (by decide), Text.Percent.decode_eq_ok_iff, ← h]
  exact Text.Percent.bytes_filter_iff (by decide) t

end Url

namespace Locator

open Url (kept isDropped isAuthorityEnd userOf leadingUser? authority? tidied)

/-- Credentials that are those of the URL: there are some if it has a user name or a password, and
none if no at sign is in the authority. -/
structure Agrees (url : Url) (authority : Text) (credentials : Option Credentials) : Prop where
  present : url.username ≠ [] ∨ url.password ≠ none → credentials ≠ none
  username : ∀ c, credentials = some c → Text.Percent.decode url.username = .ok c.username
  password : ∀ c secret, credentials = some c → url.password = some secret →
    ∃ p, c.password = some p ∧ Text.Percent.decode secret = .ok p
  absent : '@' ∉ authority → credentials = none

/-- A user without characters that are dropped, but for a password that has no others. -/
def Untouched (user : Text) : Prop :=
  (∀ c ∈ (Text.cut ':' user).1, isDropped c = false) ∧
    ((∀ c ∈ (Text.cut ':' user).2, isDropped c = false) ∨
      ∀ c ∈ (Text.cut ':' user).2, isDropped c = true)

variable {url : Url} {authority user : Text} {c : Credentials}

theorem agrees_none_iff :
    Agrees url authority none ↔ url.username = [] ∧ url.password = none := by
  constructor
  · intro h
    by_contra hnot
    exact h.present (by rwa [← not_and_or]) rfl
  · rintro ⟨hname, hpassword⟩
    refine ⟨?_, fun _ hc => ?_, fun _ _ hc => ?_, fun _ => rfl⟩
    · rintro (h | h)
      · exact absurd hname h
      · exact absurd hpassword h
    · cases hc
    · cases hc

/-- Both readers have the same user before them, and one of them drops characters from it. -/
theorem agrees_some_iff (hurl : (url.username, url.password) = userOf (kept user))
    (hc : credentialsOf user = .ok c) (hat : '@' ∈ authority) :
    Agrees url authority (some c) ↔ Untouched user := by
  obtain ⟨hname, hpassword⟩ := of_credentialsOf hc
  unfold Untouched
  generalize hparts : Text.cut ':' user = parts at hname hpassword ⊢
  obtain ⟨name, password⟩ := parts
  simp only at hname hpassword ⊢
  rw [userOf, Url.cut_kept, hparts] at hurl
  obtain ⟨hurlname, hurlpassword⟩ := Prod.mk.inj hurl
  have hnameiff := Url.decode_user_iff hname
  have hnil : kept password = [] ↔ ∀ d ∈ password, isDropped d = true := by
    simp [kept, List.filter_eq_nil_iff]
  constructor
  · intro h
    refine ⟨hnameiff.mp (hurlname ▸ h.username c rfl), ?_⟩
    by_cases hempty : kept password = []
    · exact Or.inr (hnil.mp hempty)
    rw [if_neg hempty] at hurlpassword
    have hne : password ≠ [] := by
      rintro rfl
      exact hempty rfl
    obtain ⟨p, hp, hread⟩ := hpassword hne
    obtain ⟨p', hp', hread'⟩ := h.password c _ rfl hurlpassword
    obtain rfl := Option.some.inj (hp.symm.trans hp')
    exact Or.inl ((Url.decode_user_iff hread).mp hread')
  · rintro ⟨huntouched, hsecret⟩
    refine ⟨fun _ => Option.some_ne_none c, ?_, ?_, fun h => absurd hat h⟩
    · rintro c' ⟨⟩
      exact hurlname ▸ hnameiff.mpr huntouched
    · rintro c' secret ⟨⟩ hsome
      rw [hurlpassword] at hsome
      split at hsome
      · cases hsome
      rename_i hempty
      have hne : password ≠ [] := by
        rintro rfl
        exact hempty rfl
      obtain ⟨p, hp, hread⟩ := hpassword hne
      have hkept : ∀ d ∈ password, isDropped d = false :=
        hsecret.resolve_right fun hall => hempty (hnil.mpr hall)
      exact ⟨p, hp, Option.some.inj hsome ▸ (Url.decode_user_iff hread).mpr hkept⟩

/-- With the slashes right behind the colon the credentials are read from the authority. -/
theorem afterScheme?_together {front : Text} (h : ':' ∉ front) (rest : Text) :
    afterScheme? (front ++ ':' :: '/' :: '/' :: rest) = some rest :=
  afterScheme?_append_of_not_mem h _

/-- A character among colon and slashes hides them. -/
theorem afterScheme?_apart {front gap gap' : Text} (h : ':' ∉ front)
    (hgap : ∀ c ∈ gap, isDropped c = true) (hgap' : ∀ c ∈ gap', isDropped c = true)
    (hne : gap ++ gap' ≠ []) (rest : Text) :
    afterScheme? (front ++ ':' :: (gap ++ '/' :: (gap' ++ '/' :: rest))) = afterScheme? rest := by
  have hcolon : ∀ g : Text, (∀ c ∈ g, isDropped c = true) → ':' ∉ g :=
    fun g hg hmem => absurd (hg ':' hmem) (by decide)
  have hslash : ∀ g : Text, (∀ c ∈ g, isDropped c = true) → '/' ∉ g :=
    fun g hg hmem => absurd (hg '/' hmem) (by decide)
  have hhidden : ¬ ['/', '/'] <+: gap ++ '/' :: (gap' ++ '/' :: rest) := by
    rintro ⟨more, hmore⟩
    cases gap with
    | cons c gap =>
      rw [List.cons_append] at hmore
      exact hslash _ hgap ((List.cons.inj hmore).1 ▸ List.mem_cons_self)
    | nil =>
      cases gap' with
      | nil => exact hne rfl
      | cons c gap' =>
        rw [List.nil_append, List.cons_append] at hmore
        exact hslash _ hgap' ((List.cons.inj (List.cons.inj hmore).2).1 ▸ List.mem_cons_self)
  have hsingle : ':' ∉ ['/'] := by decide
  rw [afterScheme?_append_of_not_mem h, afterScheme?_cons, if_neg fun hhere => hhidden hhere.2,
    afterScheme?_append_of_not_mem (hcolon gap hgap), ← List.singleton_append,
    afterScheme?_append_of_not_mem hsingle, afterScheme?_append_of_not_mem (hcolon gap' hgap'),
    ← List.singleton_append, afterScheme?_append_of_not_mem hsingle]

/-- Where the slashes stand right behind the colon, the credentials agree with the URL exactly if no
character of the user was dropped. Where a dropped character is among them, the credentials are
those behind the next colon with two slashes, in whatever part of the address it is: where none are
found there, they agree if the URL has no user, and if the URL has none, they agree if none are
found. -/
theorem credentials_agree_iff {t : Text} {l : Locator} (h : parse t = .ok l) :
    ∃ url authority front gap gap' rest,
      Url.parse t = .ok url ∧ authority? t = some authority ∧
      t = front ++ ':' :: (gap ++ '/' :: (gap' ++ '/' :: rest)) ∧ ':' ∉ front ∧
      (∀ c ∈ gap ++ gap', isDropped c = true) ∧
      (gap ++ gap' = [] →
        (Agrees url authority l.credentials ↔
          ∀ user, leadingUser? rest = some user → Untouched user)) ∧
      (gap ++ gap' ≠ [] →
        credentials? rest = .ok l.credentials ∧
        (l.credentials = none →
          (Agrees url authority l.credentials ↔ url.username = [] ∧ url.password = none)) ∧
        ('@' ∉ authority →
          (Agrees url authority l.credentials ↔ l.credentials = none))) := by
  obtain ⟨url, hurl, -, hhost, -, hcredentials⟩ := parts_of_read (parse_eq_ok_iff.mp h)
  have hnamed : url.host ≠ none := by
    intro hnone
    rw [hnone] at hhost
    cases hhost
  obtain ⟨scheme, front, gap, gap', rest, rfl, hfront, hgap, hgap', hauthority, hparse⟩ :=
    Url.slashes_of_parse hurl hnamed
  have huser := Url.user_of_parseAuthority hparse
  have hat := Url.isSome_leadingUser? (tidied rest)
  rw [Url.leadingUser?_tidied] at huser hat
  refine ⟨url, _, front, gap, gap', rest, hurl, hauthority, rfl, hfront,
    List.forall_mem_append.mpr ⟨hgap, hgap'⟩, ?_, ?_⟩
  · intro htogether
    obtain ⟨rfl, rfl⟩ := List.append_eq_nil_iff.mp htogether
    have hread :
        user? (front ++ ':' :: ([] ++ '/' :: ([] ++ '/' :: rest))) = leadingUser? rest := by
      rw [user?_eq]
      exact congrArg (Option.bind · leadingUser?) (afterScheme?_together hfront rest)
    rcases of_credentials? hcredentials with ⟨hnone, hc⟩ | ⟨user, c, hsome, hof, hc⟩
    · rw [hread] at hnone
      rw [hnone] at huser
      rw [hc, agrees_none_iff]
      exact iff_of_true (Prod.mk.inj huser) fun user hsome => nomatch hnone.symm.trans hsome
    · rw [hread] at hsome
      rw [hsome] at huser hat
      rw [hc, agrees_some_iff huser hof (hat.mp rfl)]
      exact ⟨fun huntouched _ heq => Option.some.inj (hsome.symm.trans heq) ▸ huntouched,
        fun huntouched => huntouched user hsome⟩
  · intro hapart
    refine ⟨?_, fun hnone => by rw [hnone, agrees_none_iff], fun hno => ?_⟩
    · rw [← hcredentials, credentials?, credentials?, user?_eq, user?_eq,
        afterScheme?_apart hfront hgap hgap' hapart]
    · constructor
      · exact fun hagrees => hagrees.absent hno
      · intro hnone
        have hleading : (leadingUser? rest).map kept = none := by
          rw [← Option.not_isSome_iff_eq_none]
          exact fun hsome => hno (hat.mp hsome)
        rw [hleading] at huser
        rw [hnone, agrees_none_iff]
        exact Prod.mk.inj huser

/-- A dropped character in the user name and nothing else in the password. -/
theorem credentials_agree_iff_dropped :
    ∃ l, parse "rtsp://us\ter:\t@cam/live".toList = .ok l ∧
      ∃ url authority front gap gap' rest,
        Url.parse "rtsp://us\ter:\t@cam/live".toList = .ok url ∧
        authority? "rtsp://us\ter:\t@cam/live".toList = some authority ∧
        "rtsp://us\ter:\t@cam/live".toList =
          front ++ ':' :: (gap ++ '/' :: (gap' ++ '/' :: rest)) ∧ ':' ∉ front ∧
        (∀ c ∈ gap ++ gap', isDropped c = true) ∧
        (gap ++ gap' = [] →
          (Agrees url authority l.credentials ↔
            ∀ user, leadingUser? rest = some user → Untouched user)) ∧
        (gap ++ gap' ≠ [] →
          credentials? rest = .ok l.credentials ∧
          (l.credentials = none →
            (Agrees url authority l.credentials ↔ url.username = [] ∧ url.password = none)) ∧
          ('@' ∉ authority →
            (Agrees url authority l.credentials ↔ l.credentials = none))) := by
  have hparse : parse "rtsp://us\ter:\t@cam/live".toList =
      .ok ⟨.rtsp, ⟨"rtsp".toList, [], none, some (.name "cam".toList), none, "/live".toList, none⟩,
        "cam".toList, some ⟨"us\ter".toList, some "\t".toList⟩⟩ := by
    decide +kernel
  exact ⟨_, hparse, credentials_agree_iff hparse⟩

/-- A tab between the colon and the slashes: the URL has a user, and no credentials are found. -/
theorem credentials_not_agree :
    ∃ l url authority,
      parse "rtsp:\t//user:pass@cam/live".toList = .ok l ∧
      Url.parse "rtsp:\t//user:pass@cam/live".toList = .ok url ∧
      authority? "rtsp:\t//user:pass@cam/live".toList = some authority ∧
      ¬ Agrees url authority l.credentials := by
  have hparse : parse "rtsp:\t//user:pass@cam/live".toList =
      .ok ⟨.rtsp, ⟨"rtsp".toList, [], none, some (.name "cam".toList), none, "/live".toList, none⟩,
        "cam".toList, none⟩ := by
    decide +kernel
  have hurl : Url.parse "rtsp:\t//user:pass@cam/live".toList =
      .ok ⟨"rtsp".toList, "user".toList, some "pass".toList, some (.name "cam".toList), none,
        "/live".toList, none⟩ := by
    decide +kernel
  refine ⟨_, _, "user:pass@cam".toList, hparse, hurl, by decide +kernel, ?_⟩
  rw [agrees_none_iff]
  decide

end Locator

end Rtsp
