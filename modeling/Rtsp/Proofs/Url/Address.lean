import Rtsp.Proofs.Url.Ipv6
import Rtsp.Proofs.Url.Path
import Rtsp.Proofs.Url.Reading

/-!
The address that a source names in its requests is a single word, whatever was configured. The
scheme is one of two, a name for a host holds no space and has everything else that is not visible
encoded, an address in brackets is made of digits and colons, and path and query have their spaces
encoded.
-/
namespace Rtsp

open Text (Blankless)

namespace Url

/-- What stands behind the scheme has no blanks. -/
structure Visible (u : Url) : Prop where
  host : ∀ h, u.host = some h → Blankless h.text
  path : Blankless u.path
  query : ∀ q, u.query = some q → Blankless q

theorem Path.blankless_parse (t : Text) : Blankless (Path.parse t) := by
  intro c hc
  obtain ⟨hforeign, hreserved⟩ := Path.mem_parse hc
  apply Text.Percent.isBlank_of_not_foreign hforeign
  rintro rfl
  exact absurd hreserved (by decide)

theorem Ipv6.blankless_text (a : Ipv6) : Blankless a.text := by
  have hall : ∀ c ∈ ":0123456789abcdef*".toList, Text.isBlank c = false := by decide
  exact fun c hc => hall c (Ipv6.mem_text hc)

theorem Host.blankless_text {t : Text} {h : Host} (hparse : Host.parse t = .ok h) :
    Blankless h.text := by
  unfold Host.parse at hparse
  split at hparse
  · obtain ⟨a, -, rfl⟩ := exists_of_map_eq_ok hparse
    refine List.forall_mem_append.mpr ⟨List.forall_mem_cons.mpr ⟨by decide, a.blankless_text⟩, ?_⟩
    exact List.forall_mem_singleton.mpr (by decide)
  split at hparse
  · cases hparse
  · rename_i hallowed
    obtain rfl := Except.ok.inj hparse
    apply Text.Percent.blankless_encode
    intro hspace
    exact absurd (List.any_eq_true.mpr ⟨' ', hspace, by decide⟩) hallowed

theorem visible_nothing (scheme : Text) : Visible ⟨scheme, [], none, none, none, [], none⟩ where
  host h hh := by cases hh
  path c hc := absurd hc List.not_mem_nil
  query q hq := by cases hq

theorem blankless_hostOf {named : Bool} {host rest : Text} {h : Host}
    (hhost : hostOf named host rest = .ok (some h)) : Blankless h.text := by
  exact Host.blankless_text (of_hostOf hhost).2

theorem blankless_queryOf {t q : Text} (h : queryOf t = some q) : Blankless q := by
  unfold queryOf at h
  split at h
  · exact Option.some.inj h ▸ Text.Percent.blankless_encode fun _ => by decide
  · cases h

theorem visible_parseAuthority {scheme t : Text} {u : Url}
    (h : parseAuthority scheme t = .ok u) : u.Visible := by
  obtain ⟨named, host, port, rest, hhost, -, hu⟩ := of_parseAuthority h
  have hfound := congrArg Url.host hu
  have hpath := congrArg Url.path hu
  have hquery := congrArg Url.query hu
  simp only [withoutUser] at hfound hpath hquery
  exact {
    host := fun h hh => blankless_hostOf (hhost.trans (congrArg Except.ok (hfound.symm.trans hh)))
    path := hpath ▸ Path.blankless_parse _
    query := fun q hq => blankless_queryOf (hquery.symm.trans hq) }

theorem visible_parse {t : Text} {u : Url} (h : parse t = .ok u) : u.Visible := by
  obtain ⟨scheme, _, -, rfl | ⟨_, rfl, hu⟩⟩ := parse_cases h
  · exact visible_nothing scheme
  · exact visible_parseAuthority hu

/-- A URL without a user is a word if its scheme is. -/
theorem Visible.text {u : Url} (hu : u.Visible) (hs : Blankless u.scheme) (hname : u.username = [])
    (hpassword : u.password = none) : Blankless u.text := by
  have huser : u.userText = [] := by
    unfold userText
    rw [hpassword]
    exact if_pos hname
  have hhost : Blankless u.hostText := by
    unfold hostText
    split
    · rename_i h hh
      exact hu.host h hh
    · exact fun c hc => absurd hc List.not_mem_nil
  have hport : Blankless u.portText := by
    unfold portText
    split
    · exact List.forall_mem_cons.mpr ⟨by decide, Text.blankless_decimal _⟩
    · exact fun c hc => absurd hc List.not_mem_nil
  have htarget : Blankless u.target := by
    unfold target
    split
    · rename_i q hq
      exact List.forall_mem_append.mpr
        ⟨hu.path, List.forall_mem_cons.mpr ⟨by decide, hu.query q hq⟩⟩
    · exact hu.path
  have hslashes : Blankless "://".toList := by decide
  unfold Url.text
  rw [huser, List.append_nil]
  exact List.forall_mem_append.mpr ⟨List.forall_mem_append.mpr
    ⟨List.forall_mem_append.mpr ⟨List.forall_mem_append.mpr ⟨hs, hslashes⟩, hhost⟩, hport⟩, htarget⟩

end Url

namespace Locator

theorem word_of_schemeOf {name : Text} {scheme : Scheme} (h : schemeOf name = .ok scheme) :
    Blankless name ∧ name ≠ [] := by
  unfold schemeOf at h
  split at h
  · rename_i heq
    exact heq ▸ ⟨by decide, by decide⟩
  split at h
  · rename_i heq
    exact heq ▸ ⟨by decide, by decide⟩
  · cases h

/-- The address in requests is a word, and is not empty. -/
theorem uri_word {t : Text} {l : Locator} (h : parse t = .ok l) : Blankless l.uri ∧ l.uri ≠ [] := by
  unfold parse at h
  split at h
  · rename_i l' hread
    obtain rfl := Except.ok.inj h
    obtain ⟨url, hurl, hscheme, -, heq, -⟩ := parts_of_read hread
    obtain ⟨hword, hne⟩ := word_of_schemeOf hscheme
    have hvisible := Url.visible_parse hurl
    have hplain : url.withoutUser.Visible := ⟨hvisible.host, hvisible.path, hvisible.query⟩
    unfold uri
    rw [heq]
    refine ⟨hplain.text hword rfl rfl, ?_⟩
    intro hnil
    simp only [Url.text, Url.withoutUser, List.append_assoc, List.append_eq_nil_iff] at hnil
    exact hne hnil.1
  · cases h

end Locator

end Rtsp
