import Rtsp.Proofs.Text.Percent
import Rtsp.Proofs.Url.Userinfo

/-!
A login written into an address is read back as it was, whatever characters it has: they are encoded
so that none of them ends the user, the password or the authority. The rest of the address is read
as if no login were there, and an empty password is told from none.
-/
namespace Rtsp

open Text.Percent (Spells)

namespace Text.Percent.Spells

variable {t : Text} {bs : Bytes}

theorem enclosed (h : Spells t bs) : Url.Enclosed t := by
  have hall : Url.Enclosed safe := by decide
  exact fun c hc => hall c (h.mem hc)

theorem colon_not_mem (h : Spells t bs) : ':' ∉ t :=
  fun hc => absurd (h.mem hc) (by decide)

theorem kept_eq (h : Spells t bs) : Url.kept t = t := by
  have hall : ∀ c ∈ safe, Url.isDropped c = false := by decide
  exact Url.kept_eq_self fun c hc => hall c (h.mem hc)

end Text.Percent.Spells

namespace Url

variable {scheme user site : Text} {url : Url}

/-- An authority without a user is read alike with one in front of it. -/
theorem parseAuthority_withUser (h : parseAuthority scheme site = .ok url) (hhost : url.host ≠ none)
    (hat : '@' ∉ site.takeWhile (!isAuthorityEnd ·)) (huser : Enclosed user) :
    ∃ url', parseAuthority scheme (user ++ '@' :: site) = .ok url' ∧
      url'.withoutUser = url.withoutUser := by
  obtain ⟨named, host, port, rest, hh, hport, hurl⟩ := of_parseAuthority h
  rw [cutLast_of_not_mem hat] at hh hport
  have hsome : host = url.host := (congrArg Url.host hurl).symm
  obtain ⟨x, hx⟩ := Option.ne_none_iff_exists'.mp hhost
  rw [hsome, hx] at hh
  obtain ⟨hne, hparse⟩ := of_hostOf hh
  have hcut : cutLast '@' ((user ++ '@' :: site).takeWhile (!isAuthorityEnd ·)) =
      (some user, site.takeWhile (!isAuthorityEnd ·)) := by
    rw [takeWhile_withUser huser, cutLast_append hat]
  refine ⟨_, parseAuthority_of_parts hcut hne hparse hport, ?_⟩
  rw [hurl, hsome, hx, dropWhile_withUser huser]
  rfl

/-- Tidying brings no at sign into an authority. -/
theorem at_not_mem_tidied (h : '@' ∉ site.takeWhile (!isAuthorityEnd ·)) :
    '@' ∉ (tidied site).takeWhile (!isAuthorityEnd ·) := by
  rw [← isSome_leadingUser?, leadingUser?_tidied, Option.isSome_map, isSome_leadingUser?]
  exact h

end Url

namespace Locator

variable {s : Scheme} {site user password u p : Text} {l : Locator}

theorem credentialsOf_name (hu : Spells user (Text.Utf8.encode u)) :
    credentialsOf user = .ok ⟨u, none⟩ := by
  rw [credentialsOf, Text.cut?_eq_none hu.colon_not_mem]
  simp only [decode_eq_ok_iff.mpr hu.decode_eq, Except.map]

theorem credentialsOf_login (hu : Spells user (Text.Utf8.encode u))
    (hp : Spells password (Text.Utf8.encode p)) :
    credentialsOf (user ++ ':' :: password) = .ok ⟨u, some p⟩ := by
  rw [credentialsOf, Text.cut?_append hu.colon_not_mem]
  simp only [decode_eq_ok_iff.mpr hu.decode_eq, decode_eq_ok_iff.mpr hp.decode_eq, bind,
    Except.bind, pure, Except.pure]

/-- A user in front of a site adds credentials to the address, and changes nothing else. -/
theorem parse_user {login : Text} {c : Credentials}
    (hat : '@' ∉ site.takeWhile (!Url.isAuthorityEnd ·)) (hl : parse (s.address site) = .ok l)
    (hends : Url.Enclosed login) (hkept : Url.kept login = login)
    (hc : credentialsOf login = .ok c) :
    parse (s.address (login ++ '@' :: site)) = .ok { l with credentials := some c } := by
  obtain ⟨url, hurl, hscheme, hhost, hplain, -⟩ := parts_of_read (parse_eq_ok_iff.mp hl)
  obtain ⟨host, hsome, hname⟩ := Option.map_eq_some_iff.mp hhost
  rw [s.parse_address] at hurl
  obtain ⟨url', hurl', hsame⟩ := Url.parseAuthority_withUser hurl (by rw [hsome]; exact nofun)
    (Url.at_not_mem_tidied hat) hends
  have hparse : Url.parse (s.address (login ++ '@' :: site)) = .ok url' := by
    rw [s.parse_address, Url.tidied_append_cons (by decide), hkept, hurl']
  have hread : credentials? (s.address (login ++ '@' :: site)) = .ok (some c) := by
    rw [credentials?, s.user?_address, Url.leadingUser?, Url.takeWhile_withUser hends,
      Url.cutLast_append hat]
    simp only [hc, Except.map]
  have hscheme' : schemeOf url'.scheme = .ok l.scheme := congrArg Url.scheme hsame ▸ hscheme
  have hhost' : url'.host = some host := (congrArg Url.host hsame).trans hsome
  rw [parse_eq_ok_iff, read_of_parts hparse hscheme' hhost' hread, hsame, ← hplain, hname]

/-- A user name and a password that are spelled out in front of a site without an at sign are the
credentials of the address; with a name alone there is no password. The rest is that of the address
without them. -/
theorem parse_login (hat : '@' ∉ site.takeWhile (!Url.isAuthorityEnd ·))
    (hl : parse (s.address site) = .ok l) (hu : Spells user (Text.Utf8.encode u))
    (hp : Spells password (Text.Utf8.encode p)) :
    parse (s.address (user ++ ':' :: password ++ '@' :: site)) =
        .ok { l with credentials := some ⟨u, some p⟩ } ∧
      parse (s.address (user ++ '@' :: site)) = .ok { l with credentials := some ⟨u, none⟩ } := by
  have hcolon : Url.isAuthorityEnd ':' = false := by decide
  have hends : Url.Enclosed (user ++ ':' :: password) :=
    List.forall_mem_append.mpr ⟨hu.enclosed, List.forall_mem_cons.mpr ⟨hcolon, hp.enclosed⟩⟩
  have hkept : Url.kept (user ++ ':' :: password) = user ++ ':' :: password := by
    rw [Url.kept_append, Url.kept_cons (by decide), hu.kept_eq, hp.kept_eq]
  exact ⟨parse_user hat hl hends hkept (credentialsOf_login hu hp),
    parse_user hat hl hu.enclosed hu.kept_eq (credentialsOf_name hu)⟩

/-- A name with an at sign and a letter beyond ASCII, and an empty password. -/
theorem parse_login_empty :
    ∃ l, parse (Scheme.rtsps.address "[::1]:8322/live?a@b".toList) = .ok l ∧
      parse "rtsps://ro%40t%C3%BC:@[::1]:8322/live?a@b".toList =
        .ok { l with credentials := some ⟨"ro@t\u00fc".toList, some []⟩ } ∧
      parse "rtsps://ro%40t%C3%BC@[::1]:8322/live?a@b".toList =
        .ok { l with credentials := some ⟨"ro@t\u00fc".toList, none⟩ } := by
  have hsite : parse (Scheme.rtsps.address "[::1]:8322/live?a@b".toList) =
      .ok ⟨.rtsps,
        ⟨"rtsps".toList, [], none, some (.address ⟨[0, 0, 0, 0, 0, 0, 0, 1]⟩), some 8322,
          "/live".toList, some "a@b".toList⟩, "[::1]".toList, none⟩ := by
    decide +kernel
  have hname : Spells "ro%40t%C3%BC".toList (Text.Utf8.encode "ro@t\u00fc".toList) := by
    have hencode : Text.Percent.encode (!·.isAlphanum) "ro@t\u00fc".toList =
        "ro%40t%C3%BC".toList := by
      decide +kernel
    exact hencode ▸ Text.Percent.spells_encode _
  have hlogin : "rtsps://ro%40t%C3%BC:@[::1]:8322/live?a@b".toList = Scheme.rtsps.address
      ("ro%40t%C3%BC".toList ++ ':' :: [] ++ '@' :: "[::1]:8322/live?a@b".toList) := by
    decide +kernel
  have hnamed : "rtsps://ro%40t%C3%BC@[::1]:8322/live?a@b".toList = Scheme.rtsps.address
      ("ro%40t%C3%BC".toList ++ '@' :: "[::1]:8322/live?a@b".toList) := by
    decide +kernel
  rw [hlogin, hnamed]
  exact ⟨_, hsite, parse_login (by decide +kernel) hsite hname Spells.nil⟩

end Locator

end Rtsp
