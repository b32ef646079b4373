import Rtsp.Proofs.Url.Ipv6
import Rtsp.Proofs.Url.Path
import Rtsp.Proofs.Url.Reading

/-!
The address that requests name is read as the same place. Every part of it is written in its final
form: a host is read back from its own text, a port from its digits, and path and query have nothing
left that is encoded, taken away or cut off. No at sign is in its authority, so that neither the URL
nor the credentials find a user in it.
-/
namespace Rtsp

open Text (Percent.isForeign)

namespace Url

variable {scheme t rest : Text} {u : Url} {host : Host} {c : Char}

/-- Reading up to a character stops where the first such character is. -/
theorem span_append {p : Char → Bool} {a b : Text} (ha : ∀ c ∈ a, p c = true)
    (hb : ∀ c ∈ b.head?, p c = false) : (a ++ b).takeWhile p = a ∧ (a ++ b).dropWhile p = b := by
  rw [List.takeWhile_append_of_pos ha, List.dropWhile_append_of_pos ha]
  cases b with
  | nil => simp
  | cons d b =>
    have hd : ¬ p d = true := by simp [hb d rfl]
    rw [List.takeWhile_cons_of_neg hd, List.dropWhile_cons_of_neg hd]
    exact ⟨List.append_nil a, rfl⟩

theorem not_isTrimmed (h : Percent.isForeign c = false) (hne : c ≠ ' ') : isTrimmed c = false := by
  simp only [Text.Percent.isForeign, Bool.or_eq_false_iff, decide_eq_false_iff_not, Nat.not_lt,
    Nat.not_le] at h
  have hspace : c.toNat ≠ 0x20 := fun heq => hne (Char.toNat_inj.mp heq)
  simp only [isTrimmed, decide_eq_false_iff_not, Nat.not_le]
  omega

namespace Host

/-- A name with nothing to encode and nothing forbidden, or an address. -/
def Canonical : Host → Prop
  | .name t => t ≠ [] ∧ ∀ c ∈ t, Percent.isForeign c = false ∧ isForbidden c = false
  | .address a => a.WellFormed

theorem canonical_of_parse (hparse : parse t = .ok host) (hne : t ≠ []) : host.Canonical := by
  unfold parse at hparse
  split at hparse
  · obtain ⟨a, haddress, rfl⟩ := exists_of_map_eq_ok hparse
    unfold address? at haddress
    split at haddress
    · rename_i b hb
      obtain rfl := Except.ok.inj haddress
      split at hb
      · exact Ipv6.wellFormed_of_parse? hb
      · cases hb
    · cases haddress
  split at hparse
  · cases hparse
  · rename_i hallowed
    obtain rfl := Except.ok.inj hparse
    refine ⟨?_, fun c hc => ⟨(Text.Percent.settled_of_mem_encode (by decide) hc).1, ?_⟩⟩
    · exact Text.Percent.encode_ne_nil hne
    · rcases Text.Percent.mem_encode hc with hmark | ⟨hmem, -⟩
      · have hall : Text.Percent.Spares isForbidden := by decide
        exact hall c hmark
      · cases hforbidden : isForbidden c with
        | false => rfl
        | true => exact absurd (List.any_eq_true.mpr ⟨c, hmem, hforbidden⟩) hallowed

theorem text_ne_nil (h : host.Canonical) : host.text ≠ [] := by
  cases host with
  | name t => exact h.1
  | address a => exact nofun

/-- A host is read back from its text. -/
theorem parse_text (h : host.Canonical) : parse host.text = .ok host := by
  cases host with
  | name t =>
    obtain ⟨-, hall⟩ := h
    have hhead : t.head? ≠ some '[' := by
      intro hbracket
      have hmem := List.mem_of_mem_head? hbracket
      exact absurd (hall '[' hmem).2 (by decide)
    have hallowed : t.any isForbidden = false := by
      rw [List.any_eq_false]
      intro c hc
      simp [(hall c hc).2]
    have hencode : Text.Percent.encode (fun _ => false) t = t :=
      Text.Percent.encode_eq_self fun c hc => ⟨(hall c hc).1, rfl⟩
    rw [parse, text, if_neg hhead, hallowed, hencode]
    rfl
  | address a =>
    have hlast : ('[' :: a.text ++ [']']).getLast? = some ']' := List.getLast?_concat
    have hinner : (('[' :: a.text ++ [']']).drop 1).dropLast = a.text := by simp
    have hfirst : ('[' :: a.text ++ [']']).head? = some '[' := rfl
    rw [parse, text, if_pos hfirst, address?, if_pos hlast, hinner, Ipv6.parse?_text h]
    rfl

/-- What the text of a host is made of. -/
theorem mem_text (h : host.Canonical) (hc : c ∈ host.text) :
    isTrimmed c = false ∧ isAuthorityEnd c = false ∧ c ≠ '@' := by
  cases host with
  | name t =>
    obtain ⟨hforeign, hforbidden⟩ := h.2 c hc
    have hends : isAuthorityEnd c = false :=
      not_isAuthorityEnd (P := fun d => isForbidden d = false) hforbidden (by decide)
    refine ⟨not_isTrimmed hforeign ?_, hends, ?_⟩ <;> rintro rfl <;>
      exact absurd hforbidden (by decide)
  | address a =>
    have hall : ∀ c ∈ "[]:0123456789abcdef*".toList,
        isTrimmed c = false ∧ isAuthorityEnd c = false ∧ c ≠ '@' := by
      decide
    apply hall
    rcases List.mem_append.mp hc with hc | hc
    · rcases List.mem_cons.mp hc with rfl | hc
      · decide
      · exact List.mem_cons_of_mem _ (List.mem_cons_of_mem _ (Ipv6.mem_text hc))
    · exact List.mem_singleton.mp hc ▸ (by decide)

end Host

/-- Colons count for the length of a host only outside of brackets. -/
theorem hostLength_append {inside : Bool} {a : Text}
    (h : ∀ c ∈ a, c ≠ '[' ∧ c ≠ ']' ∧ (inside = false → c ≠ ':')) (b : Text) :
    hostLength inside (a ++ b) = a.length + hostLength inside b := by
  induction a with
  | nil => simp
  | cons c a ih =>
    obtain ⟨⟨hopen, hclose, hcolon⟩, ha⟩ := List.forall_mem_cons.mp h
    have hinside : ¬ (c = ':' ∧ inside = false) := fun hboth => hcolon hboth.2 hboth.1
    rw [List.cons_append, hostLength, if_neg hinside, if_neg hopen, if_neg hclose, ih ha,
      List.length_cons]
    omega

theorem Host.hostLength_text (h : host.Canonical) (hrest : ∀ c ∈ rest.head?, c = ':') :
    hostLength false (host.text ++ rest) = host.text.length := by
  have hend : hostLength false rest = 0 := by
    cases rest with
    | nil => rfl
    | cons c rest =>
      obtain rfl := hrest c rfl
      simp [hostLength]
  cases host with
  | name t =>
    have hplain : ∀ c ∈ t, c ≠ '[' ∧ c ≠ ']' ∧ (false = false → c ≠ ':') := by
      intro c hc
      have hforbidden := (h.2 c hc).2
      refine ⟨?_, ?_, fun _ => ?_⟩ <;> rintro rfl <;> exact absurd hforbidden (by decide)
    rw [text, hostLength_append hplain, hend, Nat.add_zero]
  | address a =>
    have hinner : ∀ c ∈ a.text, c ≠ '[' ∧ c ≠ ']' ∧ (true = false → c ≠ ':') := by
      intro c hc
      have hmem := Ipv6.mem_text hc
      refine ⟨?_, ?_, nofun⟩ <;> rintro rfl <;> exact absurd hmem (by decide)
    have hclosing : hostLength true (']' :: rest) = 1 := by
      simp [hostLength, hend]
    rw [text, List.cons_append, List.cons_append, List.append_assoc, List.singleton_append]
    rw [hostLength, if_neg (by simp), if_pos rfl, hostLength_append hinner, hclosing]
    simp

section Port

theorem head?_portText (u : Url) : ∀ c ∈ u.portText.head?, c = ':' := by
  unfold portText
  split
  · exact fun c hc => (Option.some.inj hc).symm
  · exact nofun

/-- What a port is made of. -/
theorem mem_portText (h : c ∈ u.portText) :
    isTrimmed c = false ∧ isAuthorityEnd c = false ∧ c ≠ '@' := by
  have hall : ∀ c ∈ ":0123456789abcdef*".toList,
      isTrimmed c = false ∧ isAuthorityEnd c = false ∧ c ≠ '@' := by
    decide
  apply hall
  unfold portText at h
  split at h
  · rcases List.mem_cons.mp h with rfl | h
    · decide
    · exact List.mem_cons_of_mem _ (Text.mem_of_mem_toDigits (by decide) h)
  · cases h

/-- A port is read back. -/
theorem readPort_portText (u : Url) : readPort u.portText = .ok (u.port, []) := by
  unfold portText
  cases u.port with
  | none => rfl
  | some n =>
    have hdigits : ∀ c ∈ Text.decimal n.toNat, c.isDigit = true :=
      fun c hc => Text.isDigit_of_mem_decimal hc
    have hvalue : Nat.ofDigitChars 10 (Text.decimal n.toNat) 0 = n.toNat :=
      Nat.ofDigitChars_ten_toDigits
    have hbound : n.toNat < 65536 := n.toNat_lt
    simp only [readPort, List.takeWhile_eq_self_iff.mpr hdigits,
      List.dropWhile_eq_nil_iff.mpr hdigits, hvalue, hbound, true_or, and_self, if_true,
      Text.decimal_ne_nil, if_false]
    rw [show n.toNat.toUInt16 = n from UInt16.ofNat_toNat]

end Port

/-- A URL of which every part is written in its final form. -/
structure Canonical (u : Url) (host : Host) : Prop where
  found : u.host = some host
  named : host.Canonical
  path : Path.parse u.path = u.path
  query : ∀ q, u.query = some q →
    ∀ c ∈ q, Percent.isForeign c = false ∧ isQueryReserved c = false

theorem canonical_of_parseAuthority (h : parseAuthority scheme t = .ok u)
    (hhost : u.host = some host) : u.Canonical host := by
  obtain ⟨named, found, port, rest, hfound, -, hu⟩ := of_parseAuthority h
  have hsome : found = some host := (congrArg Url.host hu).symm.trans hhost
  have hpath := congrArg Url.path hu
  have hquery := congrArg Url.query hu
  simp only [withoutUser] at hpath hquery
  rw [hsome] at hfound
  obtain ⟨hne, hparse⟩ := of_hostOf hfound
  refine ⟨hhost, Host.canonical_of_parse hparse hne, by rw [hpath, Path.parse_parse], ?_⟩
  intro q hq
  rw [hquery] at hq
  unfold queryOf at hq
  split at hq
  · rw [← Option.some.inj hq]
    exact fun c hc => Text.Percent.settled_of_mem_encode (by decide) hc
  · cases hq

namespace Canonical

theorem mem_path (h : u.Canonical host) (hc : c ∈ u.path) :
    Percent.isForeign c = false ∧ Path.isReserved c = false :=
  Path.mem_parse (h.path.symm ▸ hc)

/-- What path and query are made of. -/
theorem mem_target (h : u.Canonical host) (hc : c ∈ u.target) :
    isTrimmed c = false ∧ c ≠ '#' := by
  have hpath : ∀ c ∈ u.path, isTrimmed c = false ∧ c ≠ '#' := by
    intro c hc
    obtain ⟨hforeign, hreserved⟩ := h.mem_path hc
    refine ⟨not_isTrimmed hforeign ?_, ?_⟩ <;> rintro rfl <;> exact absurd hreserved (by decide)
  unfold target at hc
  split at hc
  · rename_i q hq
    rcases List.mem_append.mp hc with hc | hc
    · exact hpath c hc
    rcases List.mem_cons.mp hc with rfl | hc
    · decide
    · obtain ⟨hforeign, hreserved⟩ := h.query q hq c hc
      refine ⟨not_isTrimmed hforeign ?_, ?_⟩ <;> rintro rfl <;> exact absurd hreserved (by decide)
  · exact hpath c hc

/-- Path and query end the authority. -/
theorem head?_target (h : u.Canonical host) : ∀ c ∈ u.target.head?, isAuthorityEnd c = true := by
  have hslash : ∀ c ∈ u.path.head?, isAuthorityEnd c = true := by
    intro c hc
    rw [← h.path] at hc
    exact Path.head?_parse hc ▸ (by decide)
  unfold target
  split
  · intro c hc
    rw [List.head?_append] at hc
    cases hhead : u.path.head? with
    | none =>
      rw [hhead] at hc
      exact Option.some.inj hc ▸ (by decide)
    | some d =>
      rw [hhead] at hc
      exact hslash c (hhead ▸ hc)
  · exact hslash

theorem path_of_target (h : u.Canonical host) :
    Path.parse (u.target.takeWhile (!isPathEnd ·)) = u.path ∧
      queryOf (u.target.dropWhile (!isPathEnd ·)) = u.query := by
  have hpath : ∀ c ∈ u.path, (!isPathEnd c) = true := by
    intro c hc
    have hreserved := (h.mem_path hc).2
    cases hend : isPathEnd c with
    | false => rfl
    | true =>
      simp only [isPathEnd, Bool.or_eq_true, beq_iff_eq] at hend
      rcases hend with rfl | rfl <;> exact absurd hreserved (by decide)
  unfold target
  cases hq : u.query with
  | none =>
    simp only
    rw [List.takeWhile_eq_self_iff.mpr hpath, List.dropWhile_eq_nil_iff.mpr hpath, h.path]
    exact ⟨rfl, rfl⟩
  | some q =>
    have hkept := h.query q hq
    have hfragment : ∀ c ∈ q, (c != '#') = true := by
      intro c hc
      rw [bne_iff_ne]
      rintro rfl
      exact absurd (hkept '#' hc).2 (by decide)
    obtain ⟨htake, hdrop⟩ := span_append (b := '?' :: q) hpath
      fun c hc => Option.some.inj hc ▸ (by decide)
    simp only
    rw [htake, hdrop, h.path, queryOf, List.takeWhile_eq_self_iff.mpr hfragment,
      Text.Percent.encode_eq_self hkept]
    exact ⟨rfl, rfl⟩

/-- Host and port in writing. -/
theorem mem_site (h : u.Canonical host) (hc : c ∈ host.text ++ u.portText) :
    isTrimmed c = false ∧ isAuthorityEnd c = false ∧ c ≠ '@' := by
  rcases List.mem_append.mp hc with hc | hc
  · exact Host.mem_text h.named hc
  · exact mem_portText hc

/-- Host and port are the authority of what is written. -/
theorem authority_text (h : u.Canonical host) :
    (host.text ++ u.portText ++ u.target).takeWhile (!isAuthorityEnd ·) =
        host.text ++ u.portText ∧
      (host.text ++ u.portText ++ u.target).dropWhile (!isAuthorityEnd ·) = u.target := by
  apply span_append
  · intro c hc
    rw [(h.mem_site hc).2.1]
    rfl
  · intro c hc
    rw [h.head?_target c hc]
    rfl

/-- What is written is read as the same URL, without a user. -/
theorem parseAuthority_text (h : u.Canonical host) (hscheme : u.scheme = scheme) :
    parseAuthority scheme (host.text ++ u.portText ++ u.target) = .ok u.withoutUser := by
  obtain ⟨htake, hdrop⟩ := h.authority_text
  have hat : '@' ∉ host.text ++ u.portText := fun hmem => (h.mem_site hmem).2.2 rfl
  have hcut : cutLast '@' ((host.text ++ u.portText ++ u.target).takeWhile (!isAuthorityEnd ·)) =
      (none, host.text ++ u.portText) := by
    rw [htake, cutLast_of_not_mem hat]
  have hlength := Host.hostLength_text h.named (head?_portText u)
  have hhost : (host.text ++ u.portText).take (hostLength false (host.text ++ u.portText)) =
      host.text := by
    rw [hlength, List.take_left]
  have hport : (host.text ++ u.portText).drop (hostLength false (host.text ++ u.portText)) =
      u.portText := by
    rw [hlength, List.drop_left]
  rw [parseAuthority_of_parts hcut (hhost.symm ▸ Host.text_ne_nil h.named)
      (hhost.symm ▸ Host.parse_text h.named) (hport.symm ▸ readPort_portText u), hdrop,
    List.nil_append, h.path_of_target.1, h.path_of_target.2]
  obtain ⟨name, user, password, found, port, path, query⟩ := u
  obtain rfl : found = some host := h.found
  obtain rfl : name = scheme := hscheme
  rfl

end Canonical

end Url

namespace Locator

/-- The address that requests name has no user and no fragment, and is read as the same address:
scheme, host, port, path and query are those of the address that was given, and the address that
requests name is itself. Only the credentials are gone. -/
theorem parse_uri {t : Text} {l : Locator} (h : parse t = .ok l) :
    parse l.uri = .ok { l with credentials := none } ∧ '#' ∉ l.uri ∧
      ∃ authority, Url.authority? l.uri = some authority ∧ '@' ∉ authority := by
  obtain ⟨url, hurl, hscheme, hhost, hplain, -⟩ := parts_of_read (parse_eq_ok_iff.mp h)
  obtain ⟨host, hsome, hname⟩ := Option.map_eq_some_iff.mp hhost
  obtain ⟨name, rest, -, hauthority⟩ := Url.parts_of_parse hurl (by rw [hsome]; exact nofun)
  have hc := Url.canonical_of_parseAuthority hauthority hsome
  have huri : l.uri = l.scheme.address (host.text ++ url.portText ++ url.target) := by
    have hwritten : l.url.text =
        url.scheme ++ "://".toList ++ [] ++ url.hostText ++ url.portText ++ url.target := by
      rw [hplain]
      rfl
    rw [uri, hwritten, schemeOf_eq_ok_iff.mp hscheme, Url.hostText, hsome]
    simp only [Scheme.address, List.append_assoc, List.nil_append]
  have hvisible : ∀ c ∈ host.text ++ url.portText ++ url.target, Url.isTrimmed c = false := by
    intro c hmem
    rcases List.mem_append.mp hmem with hmem | hmem
    · exact (hc.mem_site hmem).1
    · exact (hc.mem_target hmem).1
  have hat : '@' ∉ host.text ++ url.portText := fun hmem => (hc.mem_site hmem).2.2 rfl
  have hparse : Url.parse l.uri = .ok url.withoutUser := by
    rw [huri, l.scheme.parse_address, Url.tidied_eq_self hvisible,
      hc.parseAuthority_text (schemeOf_eq_ok_iff.mp hscheme)]
  have hcredentials : credentials? l.uri = .ok none := by
    rw [credentials?, huri, l.scheme.user?_address, Url.leadingUser?, hc.authority_text.1,
      Url.cutLast_of_not_mem hat]
  have hfragment : '#' ∉ l.uri := by
    rw [huri, Scheme.address, List.mem_append, not_or]
    refine ⟨by cases l.scheme <;> decide, fun hmem => ?_⟩
    rcases List.mem_append.mp hmem with hmem | hmem
    · exact absurd (hc.mem_site hmem).2.1 (by decide)
    · exact (hc.mem_target hmem).2 rfl
  refine ⟨?_, hfragment, host.text ++ url.portText, ?_, hat⟩
  · have hread := read_of_parts hparse hscheme hsome hcredentials
    rw [parse_eq_ok_iff, hread, hname, hplain]
    rfl
  · rw [huri, l.scheme.authority?_address, Url.tidied_eq_self hvisible, hc.authority_text.1]

/-- Nothing of this address but its scheme is in its final form. -/
theorem parse_uri_unsettled :
    ∃ l, parse " RTSP://us er:@[1:0:0:0::0.0.0.2]:0554/a/../b c?d=@\u00fc#e".toList = .ok l ∧
      l.uri = "rtsp://[1::2]:554/b%20c?d=@%C3%BC".toList ∧
      parse l.uri = .ok { l with credentials := none } ∧ '#' ∉ l.uri ∧
      ∃ authority, Url.authority? l.uri = some authority ∧ '@' ∉ authority := by
  have hparse : parse " RTSP://us er:@[1:0:0:0::0.0.0.2]:0554/a/../b c?d=@\u00fc#e".toList =
      .ok ⟨.rtsp,
        ⟨"rtsp".toList, [], none, some (.address ⟨[1, 0, 0, 0, 0, 0, 0, 2]⟩), some 554,
          "/b%20c".toList, some "d=@%C3%BC".toList⟩,
        "[1::2]".toList, some ⟨"us er".toList, some []⟩⟩ := by
    decide +kernel
  exact ⟨_, hparse, by decide +kernel, parse_uri hparse⟩

end Locator

end Rtsp
