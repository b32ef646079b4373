import Rtsp.Auth.Signer
import Rtsp.Proofs.Text.Trim

/-!
The value of an Authorization header. It begins and ends visibly, whatever it is made of, so that
nothing of it is trimmed away. It is on one line if the user name, the address and the texts of the
challenge are; those of a challenge are, because they are parts of a header value.
-/
namespace Rtsp

open Text (OneLine Blankless)

namespace Auth

namespace Parameter

theorem quoted_subset (done t : Text) :
    (quoted done t).1 ⊆ done ++ t ∧ (quoted done t).2 ⊆ t := by
  fun_induction quoted done t with
  | case1 done => simp
  | case2 done => simp
  | case3 done c rest ih =>
    refine ⟨fun x hx => ?_, fun x hx => ?_⟩
    · have hmem := ih.1 hx
      simp only [List.cons_append, List.mem_cons, List.mem_append] at hmem ⊢
      rcases hmem with h | h | h <;> simp [h]
    · exact List.mem_cons_of_mem _ (List.mem_cons_of_mem c (ih.2 hx))
  | case4 done rest => simp
  | case5 done c rest _ _ _ ih =>
    refine ⟨fun x hx => ?_, fun x hx => ?_⟩
    · have hmem := ih.1 hx
      simp only [List.cons_append, List.mem_cons, List.mem_append] at hmem ⊢
      rcases hmem with h | h | h <;> simp [h]
    · exact List.mem_cons_of_mem c (ih.2 hx)

theorem readValue_subset (t : Text) : (readValue t).1 ⊆ t ∧ (readValue t).2 ⊆ t := by
  have htrim := Text.trimStart_subset t
  unfold readValue
  split
  · rename_i rest heq
    have hrest : rest ⊆ t := fun c hc => htrim (heq ▸ List.mem_cons_of_mem '"' hc)
    obtain ⟨hvalue, hafter⟩ := quoted_subset [] rest
    exact ⟨fun c hc => hrest (hvalue hc), fun c hc => hrest (hafter hc)⟩
  · exact ⟨fun c hc => htrim (List.takeWhile_subset _ hc),
      fun c hc => htrim (List.dropWhile_subset _ hc)⟩

theorem next?_subset {t rest : Text} {p : Parameter} (h : next? t = some (p, rest)) :
    p.value ⊆ t ∧ rest ⊆ t := by
  have hgap : t.dropWhile isGap ⊆ t := List.dropWhile_subset _
  unfold next? at h
  split at h
  · cases h
  · rename_i c t' heq
    rw [heq] at hgap
    have hafter : (c :: t').dropWhile isNamePart ⊆ t :=
      fun x hx => hgap (List.dropWhile_subset _ hx)
    simp only at h
    split at h
    · rename_i rest' hrest
      obtain ⟨rfl, rfl⟩ := Prod.mk.inj (Option.some.inj h)
      obtain ⟨hvalue, hleft⟩ := readValue_subset rest'
      have hrest' : rest' ⊆ t := fun x hx => hafter (hrest ▸ List.mem_cons_of_mem '=' hx)
      exact ⟨fun x hx => hrest' (hvalue (Text.trim_subset _ hx)), fun x hx => hrest' (hleft hx)⟩
    · obtain ⟨rfl, rfl⟩ := Prod.mk.inj (Option.some.inj h)
      exact ⟨List.nil_subset t, hafter⟩

theorem trim_value_of_next? {t rest : Text} {p : Parameter} (h : next? t = some (p, rest)) :
    Text.trim p.value = p.value := by
  unfold next? at h
  split at h
  · cases h
  simp only at h
  split at h
  · obtain ⟨rfl, -⟩ := Prod.mk.inj (Option.some.inj h)
    exact Text.trim_trim _
  · obtain ⟨rfl, -⟩ := Prod.mk.inj (Option.some.inj h)
    rfl

/-- Each parameter of a list is the first one of a part of its text. -/
theorem next?_of_mem_listUpTo {n : Nat} {t : Text} {p : Parameter} (h : p ∈ listUpTo n t) :
    ∃ part rest, part ⊆ t ∧ next? part = some (p, rest) := by
  induction n generalizing t with
  | zero => cases h
  | succ n ih =>
    unfold listUpTo at h
    split at h
    · cases h
    · rename_i q rest hnext
      have hlater : p ∈ listUpTo n rest → ∃ part rest, part ⊆ t ∧ next? part = some (p, rest) :=
        fun h => by
          obtain ⟨part, rest', hpart, hfirst⟩ := ih h
          exact ⟨part, rest', fun c hc => (next?_subset hnext).2 (hpart hc), hfirst⟩
      split at h
      · exact hlater h
      · rcases List.mem_cons.mp h with rfl | h
        · exact ⟨t, rest, List.Subset.refl t, hnext⟩
        · exact hlater h

/-- The value of a parameter is part of the text that it is read from, without blanks around it. -/
theorem find?_list {t value : Text} {name : String} (h : find? (list t) name = some value) :
    value ⊆ t ∧ Text.trim value = value := by
  obtain ⟨p, hp, rfl⟩ := Option.map_eq_some_iff.mp h
  obtain ⟨part, rest, hpart, hnext⟩ := next?_of_mem_listUpTo (List.mem_of_find?_eq_some hp)
  exact ⟨fun c hc => hpart ((next?_subset hnext).1 hc), trim_value_of_next? hnext⟩

end Parameter

/-- The texts that are handed back to the server are on one line. -/
structure DigestTerms.Tidy (terms : DigestTerms) : Prop where
  realm : OneLine terms.realm
  nonce : OneLine terms.nonce
  ticket : ∀ t, terms.ticket = some t → OneLine t

def Challenge.Tidy : Challenge → Prop
  | .basic _ => True
  | .digest terms => terms.Tidy

namespace Challenge

theorem cut_snd_subset (sep : Char) (t : Text) : (Text.cut sep t).2 ⊆ t := by
  unfold Text.cut
  cases hcut : Text.cut? sep t with
  | none => exact List.nil_subset t
  | some p =>
    obtain ⟨heq, -⟩ := Text.eq_of_cut? hcut
    intro c hc
    rw [heq]
    exact List.mem_append_right p.1 (List.mem_cons_of_mem sep hc)

/-- The terms of a digest are values of parameters behind the name of the scheme. -/
theorem found_of_parse? {t : Text} {terms : DigestTerms} (h : parse? t = some (.digest terms)) :
    ∃ rest, rest ⊆ t ∧ Parameter.find? (Parameter.list rest) "realm" = some terms.realm ∧
      Parameter.find? (Parameter.list rest) "nonce" = some terms.nonce ∧
      Parameter.find? (Parameter.list rest) "opaque" = terms.ticket := by
  have hrest : (Text.cut ' ' (Text.trim t)).2 ⊆ t :=
    fun c hc => Text.trim_subset t (cut_snd_subset ' ' _ hc)
  unfold parse? at h
  simp only at h
  split at h
  · cases h
  split at h
  · unfold digestOf? at h
    simp only [Option.bind_eq_bind, Option.bind_eq_some_iff] at h
    obtain ⟨algorithm, -, realm, hrealm, nonce, hnonce, h⟩ := h
    obtain rfl := Challenge.digest.inj (Option.some.inj h)
    exact ⟨_, hrest, hrealm, hnonce, rfl⟩
  · cases h

theorem tidy_parse? {t : Text} {c : Challenge} (ht : OneLine t) (h : parse? t = some c) :
    c.Tidy := by
  cases c with
  | basic realm => trivial
  | digest terms =>
    obtain ⟨rest, hsubset, hrealm, hnonce, hticket⟩ := found_of_parse? h
    have hrest : OneLine rest := ht.subset hsubset
    exact {
      realm := hrest.subset (Parameter.find?_list hrealm).1
      nonce := hrest.subset (Parameter.find?_list hnonce).1
      ticket := fun u hu => hrest.subset (Parameter.find?_list (hticket.trans hu)).1 }

theorem mem_of_strongest {cs : List Challenge} {c : Challenge} (h : strongest cs = some c) :
    c ∈ cs := by
  have hfold : ∀ (cs : List Challenge) (best : Option Challenge),
      cs.foldl stronger best = some c → best = some c ∨ c ∈ cs := by
    intro cs
    induction cs with
    | nil => exact fun best hbest => Or.inl hbest
    | cons x cs ih =>
      intro best hbest
      rcases ih (stronger best x) hbest with hx | hmem
      · unfold stronger at hx
        split at hx
        · exact Or.inr (Option.some.inj hx ▸ List.mem_cons_self)
        split at hx
        · exact Or.inr (Option.some.inj hx ▸ List.mem_cons_self)
        · exact Or.inl hx
      · exact Or.inr (List.mem_cons_of_mem x hmem)
  rcases hfold cs none h with hnone | hmem
  · cases hnone
  · exact hmem

/-- A challenge that comes in values on one line. -/
theorem tidy_ofResponse? {r : Response} {c : Challenge}
    (hr : ∀ value ∈ r.values "WWW-Authenticate".toList, OneLine value)
    (h : ofResponse? r = some c) : c.Tidy := by
  obtain ⟨value, hvalue, hparse⟩ := List.mem_filterMap.mp (mem_of_strongest h)
  exact tidy_parse? (hr value hvalue) hparse

end Challenge

namespace Signer

theorem blankless_digest (a : Algorithm) (t : Text) : Blankless (a.digest t) := by
  cases a <;> exact Text.blankless_hex _

theorem blankless_proof (c : Credentials) (terms : DigestTerms) (count : Option (Nat × Text))
    (method uri : Text) : Blankless (proof c terms count method uri) := by
  unfold proof
  simp only
  split <;> exact blankless_digest _ _

theorem blankless_countText (n : Nat) : Blankless (countText n) :=
  Text.blankless_padded 8 (Text.blankless_hexadecimal n)

theorem countText_ne_nil (n : Nat) : countText n ≠ [] := by
  intro h
  exact Nat.toDigits_ne_nil (List.append_eq_nil_iff.mp h).2

theorem quote_endsVisibly (name : String) (value : Text) : (quote name value).EndsVisibly :=
  Text.EndsVisibly.append ⟨'"', rfl, by decide⟩ _

theorem quote_oneLine {name : String} {value : Text} (hname : OneLine name.toList)
    (hvalue : OneLine value) : OneLine (quote name value) := by
  unfold quote
  refine Text.oneLine_append (Text.oneLine_append hname ?_) (by decide)
  exact Text.oneLine_cons (by decide) (Text.oneLine_cons (by decide) hvalue)

variable {c : Credentials} {terms : DigestTerms} {count : Option (Nat × Text)}

theorem countFields_endsVisibly : ∀ t ∈ countFields count, t.EndsVisibly := by
  intro t ht
  cases count with
  | none => cases ht
  | some count =>
    simp only [countFields, List.mem_cons, List.not_mem_nil, or_false] at ht
    rcases ht with rfl | rfl | rfl
    · exact ⟨'h', rfl, by decide⟩
    · exact (Text.EndsVisibly.of_blankless (countText_ne_nil _) (blankless_countText _)).append _
    · exact quote_endsVisibly _ _

theorem countFields_oneLine (hcount : ∀ n cnonce, count = some (n, cnonce) → Blankless cnonce) :
    ∀ t ∈ countFields count, OneLine t := by
  intro t ht
  cases hc : count with
  | none =>
    rw [hc] at ht
    cases ht
  | some counted =>
    obtain ⟨n, cnonce⟩ := counted
    simp only [hc, countFields, List.mem_cons, List.not_mem_nil, or_false] at ht
    rcases ht with rfl | rfl | rfl
    · decide
    · exact Text.oneLine_append (by decide) (Text.oneLine_of_blankless (blankless_countText n))
    · exact quote_oneLine (by decide) (Text.oneLine_of_blankless (hcount n cnonce hc))

theorem digestFields_endsVisibly (method uri : Text) :
    ∀ t ∈ digestFields c terms count method uri, t.EndsVisibly := by
  intro t ht
  simp only [digestFields, List.mem_append, List.mem_cons, List.not_mem_nil, or_false,
    Option.mem_toList, Option.map_eq_some_iff] at ht
  rcases ht with ((((rfl | rfl | rfl | rfl | rfl) | ht) | ⟨a, -, rfl⟩) | ⟨ticket, -, rfl⟩)
  iterate 5 exact quote_endsVisibly _ _
  · exact countFields_endsVisibly t ht
  · cases a
    · exact ⟨'5', rfl, by decide⟩
    · exact ⟨'6', rfl, by decide⟩
  · exact quote_endsVisibly _ _

theorem digestFields_oneLine {uri : Text} (method : Text) (hname : OneLine c.username)
    (hterms : terms.Tidy) (hcount : ∀ n cnonce, count = some (n, cnonce) → Blankless cnonce)
    (huri : OneLine uri) : ∀ t ∈ digestFields c terms count method uri, OneLine t := by
  intro t ht
  simp only [digestFields, List.mem_append, List.mem_cons, List.not_mem_nil, or_false,
    Option.mem_toList, Option.map_eq_some_iff] at ht
  rcases ht with ((((rfl | rfl | rfl | rfl | rfl) | ht) | ⟨a, -, rfl⟩) | ⟨ticket, hticket, rfl⟩)
  · exact quote_oneLine (by decide) hname
  · exact quote_oneLine (by decide) hterms.realm
  · exact quote_oneLine (by decide) hterms.nonce
  · exact quote_oneLine (by decide) huri
  · exact quote_oneLine (by decide) (Text.oneLine_of_blankless (blankless_proof _ _ _ _ _))
  · exact countFields_oneLine hcount t ht
  · cases a <;> decide
  · exact quote_oneLine (by decide) (hterms.ticket ticket hticket)

theorem digestFields_ne_nil (method uri : Text) : digestFields c terms count method uri ≠ [] := by
  simp [digestFields]

theorem base64_ne_nil {bytes : Bytes} (h : bytes ≠ []) : Text.Base64.encode bytes ≠ [] := by
  fun_cases Text.Base64.encode bytes <;> simp_all

/-- Nothing is trimmed away from a signature. -/
theorem trim_signWith (s : Signer) (cnonce method uri : Text) :
    Text.trim (s.signWith cnonce method uri).1 = (s.signWith cnonce method uri).1 := by
  unfold signWith
  split
  · refine Text.EndsVisibly.trim_cons (by decide) (Text.EndsVisibly.append ?_ _)
    refine Text.EndsVisibly.of_blankless (base64_ne_nil ?_) (Text.blankless_base64 _)
    simp [Text.Utf8.encode_eq_nil_iff, join]
  · exact Text.EndsVisibly.trim_cons (by decide) (Text.EndsVisibly.append
      (Text.EndsVisibly.intercalate (digestFields_ne_nil _ _) (digestFields_endsVisibly _ _)) _)

/-- A signature is on one line if what it tells is. -/
theorem oneLine_signWith {s : Signer} {cnonce uri : Text} (method : Text)
    (hname : OneLine s.credentials.username) (hchallenge : s.challenge.Tidy)
    (hcnonce : Blankless cnonce) (huri : OneLine uri) :
    OneLine (s.signWith cnonce method uri).1 := by
  unfold signWith
  split
  · exact Text.oneLine_append (by decide) (Text.oneLine_of_blankless (Text.blankless_base64 _))
  · rename_i terms hterms
    rw [hterms] at hchallenge
    refine Text.oneLine_append (by decide) (Text.oneLine_intercalate (by decide) ?_)
    refine digestFields_oneLine method hname hchallenge ?_ huri
    intro n cnonce' heq
    split at heq
    · exact (Prod.mk.inj (Option.some.inj heq)).2 ▸ hcnonce
    · cases heq

theorem blankless_draw (e : Entropy) : Blankless e.draw.1 :=
  Text.blankless_padded 16 (Text.blankless_hexadecimal _)

/-- The signer of the next request answers the same challenge with the same credentials. -/
theorem signWith_snd (s : Signer) (cnonce method uri : Text) :
    (s.signWith cnonce method uri).2.credentials = s.credentials ∧
      (s.signWith cnonce method uri).2.challenge = s.challenge := by
  unfold signWith
  split <;> exact ⟨rfl, rfl⟩

end Signer

end Auth

end Rtsp
