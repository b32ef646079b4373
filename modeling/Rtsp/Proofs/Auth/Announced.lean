import Rtsp.Proofs.Auth.Listing
import Rtsp.Proofs.Text.Case

/-!
A digest as a server asks for it in a header. The terms of the digest are parameters, some of which
may be left out; they stand in any order and among any others, each spelled in any letter case and
with its value in quotes or as it is. Whatever the values look like, the challenge that is read has
the terms that were announced. Without a realm or a nonce, or with an algorithm that is not known,
there is no challenge.
-/
namespace Rtsp.Auth

open Text (AllBlank Blankless EndsVisibly)

namespace Parameter

section Values

variable {ps qs : List Parameter} {name : String}

/-- Every value of a name, in order. -/
def valuesOf (ps : List Parameter) (name : String) : List Text :=
  (ps.filter fun p => p.name == name.toList).map value

/-- A parameter that may be left out. -/
def optional (name : String) (value : Option Text) : List Parameter :=
  (value.map (Parameter.mk name.toList)).toList

theorem find?_eq_head? (ps : List Parameter) (name : String) :
    find? ps name = (valuesOf ps name).head? := by
  rw [find?, valuesOf, List.head?_map, List.head?_filter]

theorem valuesOf_append (ps qs : List Parameter) (name : String) :
    valuesOf (ps ++ qs) name = valuesOf ps name ++ valuesOf qs name := by
  rw [valuesOf, List.filter_append, List.map_append, valuesOf, valuesOf]

theorem valuesOf_optional (name other : String) (value : Option Text) :
    valuesOf (optional name value) other =
      if name.toList = other.toList then value.toList else [] := by
  cases value with
  | none => simp [valuesOf, optional]
  | some v =>
    by_cases h : name.toList = other.toList <;> simp [valuesOf, optional, h]

theorem valuesOf_eq_nil (h : ∀ p ∈ ps, p.name ≠ name.toList) : valuesOf ps name = [] := by
  rw [valuesOf, List.filter_eq_nil_iff.mpr fun p hp => by simpa using h p hp, List.map_nil]

theorem valuesOf_map_trimmed (ps : List Parameter) (name : String) :
    valuesOf (ps.map trimmed) name = (valuesOf ps name).map Text.trim := by
  rw [valuesOf, valuesOf, List.filter_map, List.map_map, List.map_map]
  rfl

/-- A name with one value at most has it in every order. -/
theorem find?_of_perm (h : ps.Perm qs) {v : Option Text} (hv : valuesOf qs name = v.toList) :
    find? (ps.map trimmed) name = v.map Text.trim := by
  have hperm : (valuesOf ps name).Perm v.toList := hv ▸ (h.filter _).map _
  rw [find?_eq_head?, valuesOf_map_trimmed]
  cases v with
  | none => rw [List.perm_nil.mp hperm]; rfl
  | some t => rw [List.perm_singleton.mp hperm]; rfl

end Values

theorem Rendered.endsVisibly {v s : Text} (h : Rendered v s) : s.EndsVisibly := by
  cases h with
  | quoted _ => exact EndsVisibly.append ⟨'"', rfl, by decide⟩ _
  | token isToken => exact .of_blankless isToken.ne_nil isToken.blankless

theorem Written.endsVisibly {p : Parameter} {s : Text} (h : Written p s) : s.EndsVisibly := by
  obtain ⟨-, -, -, -, rendered⟩ := h
  exact rendered.endsVisibly.append _

theorem Listed.endsVisibly {α : Type} {W : α → Text → Prop} {xs : List α} {t : Text}
    (hw : ∀ x s, W x s → s.EndsVisibly) (h : Listed W xs t) (hne : xs ≠ []) : t.EndsVisibly := by
  induction h with
  | nil => exact absurd rfl hne
  | one written => exact hw _ _ written
  | cons _ _ _ _ ih => exact (ih (List.cons_ne_nil _ _)).append _

end Parameter

open Parameter (Listed Written IsToken optional valuesOf)

/-- Protections as a server lists them. -/
abbrev ListsOptions : List Text → Text → Prop := Listed fun o s => s = o ∧ IsToken o

/-- How a server tells an algorithm, if it does: by its name in any letter case. -/
inductive TellsAlgorithm : Option Text → Option Algorithm → Prop
  | absent : TellsAlgorithm none none
  | named {t : Text} {a : Algorithm} (spelled : Text.upper (Text.trim t) = a.name) :
      TellsAlgorithm (some t) (some a)

/-- How a server tells whether uses are counted: they are if plain authentication is in its list. -/
inductive TellsCounted : Option Text → Bool → Prop
  | absent : TellsCounted none false
  | listed {options : List Text} {t : Text} (lists : ListsOptions options t) :
      TellsCounted (some t) (options.any fun o => Text.sameName o "auth".toList)

/-- How a server tells that a nonce is worn out. -/
inductive TellsStale : Option Text → Bool → Prop
  | absent : TellsStale none false
  | told (t : Text) : TellsStale (some t) (Text.sameName (Text.trim t) "true".toList)

/-- What a server writes of the terms that need not be told, or not as they are. -/
structure Notice where
  algorithm : Option Text
  options : Option Text
  stale : Option Text

namespace Notice

/-- The parameters that tell the terms. -/
def parameters (n : Notice) (terms : DigestTerms) : List Parameter :=
  optional "realm" (some terms.realm) ++ optional "nonce" (some terms.nonce) ++
    optional "opaque" terms.ticket ++ optional "algorithm" n.algorithm ++
    optional "qop" n.options ++ optional "stale" n.stale

def names : List Text := ["realm", "nonce", "opaque", "algorithm", "qop", "stale"].map String.toList

/-- The notice tells the terms, whose texts have no blanks at their ends. -/
structure Tells (n : Notice) (terms : DigestTerms) : Prop where
  realm : Text.trim terms.realm = terms.realm
  nonce : Text.trim terms.nonce = terms.nonce
  ticket : ∀ t, terms.ticket = some t → Text.trim t = t
  algorithm : TellsAlgorithm n.algorithm terms.algorithm
  counted : TellsCounted n.options terms.counted
  stale : TellsStale n.stale terms.stale

end Notice

section Options

/-- Some piece of a list is plain authentication, as far as the blanks around it count. -/
theorem offersAuth_eq (t : Text) :
    Challenge.offersAuth t =
      (t.splitOnP (· == ',')).any fun q => Text.sameName (Text.trim q) "auth".toList := by
  rw [Challenge.offersAuth, List.splitOn_eq_splitOnP]

theorem offersAuth_gap_append {gap : Text} (hgap : ∀ c ∈ gap, Parameter.isGap c = true)
    (t : Text) : Challenge.offersAuth (gap ++ t) = Challenge.offersAuth t := by
  induction gap with
  | nil => rfl
  | cons c gap ih =>
    obtain ⟨hc, hrest⟩ := List.forall_mem_cons.mp hgap
    rw [← ih hrest, offersAuth_eq, offersAuth_eq, List.cons_append,
      List.splitOnP_cons_eq_if_modifyHead]
    split
    · rfl
    · rename_i hcomma
      have hblank : Text.isBlank c = true := by simpa [Parameter.isGap, hcomma] using hc
      cases hpieces : (gap ++ t).splitOnP (· == ',') with
      | nil => exact absurd hpieces (List.splitOnP_ne_nil _ _)
      | cons first rest =>
        simp only [List.modifyHead_cons, List.any_cons, Text.trim_cons_of_isBlank hblank]

theorem offersAuth_token_append {o a : Text} (ho : IsToken o) (ha : AllBlank a) (t : Text) :
    Challenge.offersAuth (o ++ a ++ ',' :: t) =
      (Text.sameName o "auth".toList || Challenge.offersAuth t) := by
  have hfree : ∀ c ∈ o ++ a, (c == ',') = false := by
    intro c hc
    rcases List.mem_append.mp hc with hc | hc
    · exact beq_eq_false_iff_ne.mpr fun heq => ho.comma (heq ▸ hc)
    · exact beq_eq_false_iff_ne.mpr fun heq => absurd (ha c hc) (heq ▸ by decide)
  rw [offersAuth_eq, List.splitOnP_append_cons_of_forall_mem hfree ',' rfl, List.any_cons,
    ← offersAuth_eq, Text.trim_append_of_blank ha, Text.trim_of_blankless ho.blankless]

theorem offersAuth_token {o : Text} (ho : IsToken o) :
    Challenge.offersAuth o = Text.sameName o "auth".toList := by
  have hfree : ∀ c ∈ o, (c == ',') = false := fun c hc =>
    beq_eq_false_iff_ne.mpr fun heq => ho.comma (heq ▸ hc)
  rw [offersAuth_eq, List.splitOnP_eq_singleton hfree, List.any_cons, List.any_nil, Bool.or_false,
    Text.trim_of_blankless ho.blankless]

/-- Plain authentication is offered if it is in the list. -/
theorem offersAuth_lists {options : List Text} {t : Text} (h : ListsOptions options t) :
    Challenge.offersAuth t = options.any fun o => Text.sameName o "auth".toList := by
  induction h with
  | nil => decide
  | @one o s written =>
    obtain ⟨rfl, ho⟩ := written
    rw [offersAuth_token ho, List.any_cons, List.any_nil, Bool.or_false]
  | @cons o o' options s a gap t written hbefore hgap _ ih =>
    obtain ⟨rfl, ho⟩ := written
    rw [List.append_assoc, List.cons_append, offersAuth_token_append ho hbefore,
      offersAuth_gap_append hgap, ih]
    rfl

/-- Neither end of a list is blank. -/
theorem trim_lists {options : List Text} {t : Text} (h : ListsOptions options t) :
    Text.trim t = t := by
  cases h with
  | nil => rfl
  | one written => exact Text.trim_of_blankless (written.1 ▸ written.2.blankless)
  | @cons o _ _ s a gap t written _ _ more =>
    obtain ⟨rfl, ho⟩ := written
    obtain ⟨c, o', rfl⟩ := List.exists_cons_of_ne_nil ho.ne_nil
    have hends : t.EndsVisibly := by
      refine more.endsVisibly (fun o s hs => ?_) (List.cons_ne_nil _ _)
      exact hs.1 ▸ .of_blankless hs.2.ne_nil hs.2.blankless
    exact EndsVisibly.trim_cons (ho.blankless c List.mem_cons_self)
      (t := o' ++ a ++ ',' :: gap ++ t) (hends.append _)

end Options

namespace Challenge

/-- A header value in which a digest is asked for: the name of the scheme in any letter case, and
behind a space the parameters. -/
inductive Announces (ps : List Parameter) : Text → Prop
  | alone {a s b : Text} (spelled : Text.sameName s "digest".toList = true)
      (before : AllBlank a) (behind : AllBlank b) (bare : ps = []) : Announces ps (a ++ s ++ b)
  | intro {a s g t b : Text} (spelled : Text.sameName s "digest".toList = true)
      (before : AllBlank a) (behind : AllBlank b) (between : AllBlank g)
      (listed : Listed Written ps t) : Announces ps (a ++ (s ++ ' ' :: (g ++ t)) ++ b)

/-- The parameters are not enough for a digest: a text is missing that it is made of, or none of the
algorithms that are named is known. -/
def Insufficient (ps : List Parameter) : Prop :=
  valuesOf ps "realm" = [] ∨ valuesOf ps "nonce" = [] ∨
    (valuesOf ps "algorithm" ≠ [] ∧
      ∀ t ∈ valuesOf ps "algorithm", ∀ a : Algorithm, Text.upper (Text.trim t) ≠ a.name)

section Head

variable {ps : List Parameter} {text : Text}

theorem blankless_scheme {scheme : Text} (h : Text.sameName scheme "digest".toList = true) :
    Blankless scheme :=
  Text.blankless_of_sameName h (Text.blankless_of_all (by decide))

/-- The scheme is cut off at its space, and the parameters are read from the rest. -/
theorem Announces.cut (h : Announces ps text) :
    ∃ scheme rest, Text.cut ' ' (Text.trim text) = (scheme, rest) ∧
      Text.sameName scheme "digest".toList = true ∧
      Parameter.list rest = ps.map Parameter.trimmed := by
  have halone : ∀ {scheme : Text}, Text.sameName scheme "digest".toList = true →
      Text.cut ' ' scheme = (scheme, []) := by
    intro scheme hspelled
    have hspace : ' ' ∉ scheme := fun hmem =>
      absurd (blankless_scheme hspelled ' ' hmem) (by decide)
    rw [Text.cut, Text.cut?_eq_none hspace, Option.getD_none]
  cases h with
  | @alone a scheme b spelled before behind bare =>
    refine ⟨scheme, [], ?_, spelled, by rw [bare]; rfl⟩
    rw [Text.trim_append_of_blank behind, Text.trim_append_of_blank_left before,
      Text.trim_of_blankless (blankless_scheme spelled), halone spelled]
  | @intro a scheme gap t b spelled before behind between listed =>
    have hvisible := blankless_scheme spelled
    rw [Text.trim_append_of_blank behind, Text.trim_append_of_blank_left before]
    by_cases hps : ps = []
    · subst hps
      cases listed
      refine ⟨scheme, [], ?_, spelled, rfl⟩
      have hblank : AllBlank (' ' :: (gap ++ [])) :=
        List.forall_mem_cons.mpr ⟨by decide, by rwa [List.append_nil]⟩
      rw [Text.trim_append_of_blank hblank, Text.trim_of_blankless hvisible, halone spelled]
    · have hends : t.EndsVisibly := listed.endsVisibly (fun _ _ hw => hw.endsVisibly) hps
      have hspace : ' ' ∉ scheme := fun hmem => absurd (hvisible ' ' hmem) (by decide)
      have htrim : Text.trim (scheme ++ ' ' :: (gap ++ t)) = scheme ++ ' ' :: (gap ++ t) := by
        have hne : scheme ≠ [] := by
          rintro rfl
          cases spelled
        obtain ⟨c, scheme', rfl⟩ := List.exists_cons_of_ne_nil hne
        refine EndsVisibly.trim_cons (hvisible c List.mem_cons_self) ?_
        exact (hends.append (' ' :: gap)).append scheme'
      refine ⟨scheme, gap ++ t, ?_, spelled, ?_⟩
      · rw [htrim, Text.cut, Text.cut?_append hspace, Option.getD_some]
      · have hread := Parameter.list_listed (b := []) listed between
          fun c hc => absurd hc List.not_mem_nil
        rwa [List.append_nil] at hread

theorem parse?_of_announces (h : Announces ps text) :
    parse? text = digestOf? (ps.map Parameter.trimmed) := by
  obtain ⟨scheme, rest, hcut, hdigest, hlist⟩ := h.cut
  have hbasic : Text.sameName scheme "basic".toList = false := by
    rw [Bool.eq_false_iff]
    intro hbasic
    have hsame := Text.sameName_trans (Text.sameName_comm scheme _ ▸ hbasic) hdigest
    exact absurd hsame (by decide)
  simp only [parse?, hcut, hbasic, hdigest, hlist, Bool.false_eq_true, if_false, if_true]

end Head

section Terms

variable {n : Notice} {terms : DigestTerms} {ps further : List Parameter}

theorem ofName?_eq_none {t : Text} (h : ∀ a : Algorithm, Text.upper t ≠ a.name) :
    Algorithm.ofName? t = none := by
  simp only [Algorithm.ofName?, List.find?_eq_none, beq_iff_eq]
  exact fun a _ heq => h a heq.symm

theorem algorithm?_of_tells {t : Option Text} {a : Option Algorithm} (h : TellsAlgorithm t a) :
    algorithm? (t.map Text.trim) = some a := by
  cases h with
  | absent => rfl
  | @named t a spelled =>
    have hname : Algorithm.ofName? (Text.trim t) = some a := by
      rw [Algorithm.ofName?, spelled]
      cases a <;> decide
    simp only [Option.map_some, algorithm?, hname]

theorem counted_of_tells {t : Option Text} {counted : Bool} (h : TellsCounted t counted) :
    (t.map Text.trim).any offersAuth = counted := by
  cases h with
  | absent => rfl
  | listed lists => simp only [Option.map_some, Option.any_some, trim_lists lists,
      offersAuth_lists lists]

theorem stale_of_tells {t : Option Text} {stale : Bool} (h : TellsStale t stale) :
    (t.map Text.trim).any (fun t => Text.sameName t "true".toList) = stale := by
  cases h <;> rfl

/-- Each term is found among all parameters. -/
theorem find?_parameters (hfurther : ∀ p ∈ further, p.name ∉ Notice.names)
    (hperm : ps.Perm (n.parameters terms ++ further)) {name : String}
    (hname : name.toList ∈ Notice.names) {v : Option Text}
    (hv : valuesOf (n.parameters terms) name = v.toList) :
    Parameter.find? (ps.map Parameter.trimmed) name = v.map Text.trim := by
  refine Parameter.find?_of_perm hperm ?_
  rw [Parameter.valuesOf_append, hv, Parameter.valuesOf_eq_nil, List.append_nil]
  exact fun p hp heq => hfurther p hp (heq ▸ hname)

theorem digestOf?_parameters (htells : n.Tells terms)
    (hfurther : ∀ p ∈ further, p.name ∉ Notice.names)
    (hperm : ps.Perm (n.parameters terms ++ further)) :
    digestOf? (ps.map Parameter.trimmed) = some (.digest terms) := by
  have hfind : ∀ (name : String) {v : Option Text}, name.toList ∈ Notice.names →
      valuesOf (n.parameters terms) name = v.toList →
      Parameter.find? (ps.map Parameter.trimmed) name = v.map Text.trim :=
    fun _ _ hname hv => find?_parameters hfurther hperm hname hv
  have hrealm := hfind "realm" (v := some terms.realm) (by decide)
    (by simp [Notice.parameters, Parameter.valuesOf_append, Parameter.valuesOf_optional])
  have hnonce := hfind "nonce" (v := some terms.nonce) (by decide)
    (by simp [Notice.parameters, Parameter.valuesOf_append, Parameter.valuesOf_optional])
  have hticket := hfind "opaque" (v := terms.ticket) (by decide)
    (by simp [Notice.parameters, Parameter.valuesOf_append, Parameter.valuesOf_optional])
  have halgorithm := hfind "algorithm" (v := n.algorithm) (by decide)
    (by simp [Notice.parameters, Parameter.valuesOf_append, Parameter.valuesOf_optional])
  have hoptions := hfind "qop" (v := n.options) (by decide)
    (by simp [Notice.parameters, Parameter.valuesOf_append, Parameter.valuesOf_optional])
  have hstale := hfind "stale" (v := n.stale) (by decide)
    (by simp [Notice.parameters, Parameter.valuesOf_append, Parameter.valuesOf_optional])
  have hsame : terms.ticket.map Text.trim = terms.ticket := by
    cases hcase : terms.ticket with
    | none => rfl
    | some t => rw [Option.map_some, htells.ticket t hcase]
  simp only [digestOf?, hrealm, hnonce, hticket, halgorithm, hoptions, hstale, Option.map_some,
    algorithm?_of_tells htells.algorithm, counted_of_tells htells.counted,
    stale_of_tells htells.stale, htells.realm, htells.nonce, hsame, Option.bind_eq_bind,
    Option.bind_some]

theorem digestOf?_insufficient (h : Insufficient ps) :
    digestOf? (ps.map Parameter.trimmed) = none := by
  have hmissing : ∀ {name : String}, valuesOf ps name = [] →
      Parameter.find? (ps.map Parameter.trimmed) name = none := by
    intro name hname
    rw [Parameter.find?_eq_head?, Parameter.valuesOf_map_trimmed, hname]
    rfl
  rcases h with hrealm | hnonce | ⟨hnamed, hunknown⟩
  · simp only [digestOf?, hmissing hrealm, Option.bind_eq_bind, Option.bind_none,
      Option.bind_fun_none]
  · simp only [digestOf?, hmissing hnonce, Option.bind_eq_bind, Option.bind_none,
      Option.bind_fun_none]
  · obtain ⟨t, others, hvalues⟩ := List.exists_cons_of_ne_nil hnamed
    have hfound : Parameter.find? (ps.map Parameter.trimmed) "algorithm" = some (Text.trim t) := by
      rw [Parameter.find?_eq_head?, Parameter.valuesOf_map_trimmed, hvalues]
      rfl
    have hnone := ofName?_eq_none (hunknown t (hvalues ▸ List.mem_cons_self))
    simp only [digestOf?, hfound, algorithm?, hnone, Option.map_none, Option.bind_eq_bind,
      Option.bind_none]

/-- A header in which a server announces terms is read as a challenge with these terms, in whatever
order and spelling and among whatever else it tells them. Where something is missing that a digest
is made of, or another algorithm is named, it is no challenge. -/
theorem parse?_announced {text : Text} (h : Announces ps text) :
    (∀ terms : DigestTerms, ∀ n : Notice, ∀ further : List Parameter, n.Tells terms →
      (∀ p ∈ further, p.name ∉ Notice.names) → ps.Perm (n.parameters terms ++ further) →
      parse? text = some (.digest terms)) ∧
    (Insufficient ps → parse? text = none) := by
  rw [parse?_of_announces h]
  exact ⟨fun terms n further htells hfurther hperm =>
    digestOf?_parameters htells hfurther hperm, digestOf?_insufficient⟩

/-- A nonce that looks like the end of a value and a realm, among parameters in no usual order and
spelling; and a realm that looks like a nonce, where there is none. -/
theorem parse?_announced_disguised :
    let terms : DigestTerms := ⟨"c\\am".toList, "7\", realm=\"x".toList, some [], some .sha256, true,
      true⟩
    let notice : Notice := ⟨some "sha-256".toList, some "auth-int, AUTH".toList, some "TRUE".toList⟩
    let charset : Parameter := ⟨"charset".toList, "UTF-8".toList⟩
    let ps : List Parameter :=
      [⟨"qop".toList, "auth-int, AUTH".toList⟩, ⟨"nonce".toList, terms.nonce⟩, charset,
        ⟨"stale".toList, "TRUE".toList⟩, ⟨"opaque".toList, []⟩, ⟨"realm".toList, terms.realm⟩,
        ⟨"algorithm".toList, "sha-256".toList⟩]
    let text := ("DIGEST QOP=\"auth-int, AUTH\" , Nonce=\"7\\\", realm=\\\"x\",charset=UTF-8, " ++
      "stale=TRUE,,opaque=\"\",\trealm=\"c\\\\am\", algorithm=sha-256").toList
    let realm : Parameter := ⟨"realm".toList, "cam, nonce=7".toList⟩
    let text' := "digest Realm=\"cam, nonce=7\"".toList
    Announces ps text ∧ notice.Tells terms ∧ ps.Perm (notice.parameters terms ++ [charset]) ∧
      parse? text = some (.digest terms) ∧
      Announces [realm] text' ∧ Insufficient [realm] ∧ parse? text' = none := by
  intro terms notice charset ps text realm text'
  have hquoted : ∀ {lowered v : Text} (name : Text) {s : Text}, Text.lower name = lowered →
      Parameter.IsName name → name ++ '=' :: '"' :: Parameter.escape v ++ ['"'] = s →
      Written ⟨lowered, v⟩ s :=
    fun _ _ spelled isName hs => hs ▸ .of_escaped spelled isName (Parameter.escaped_escape _)
  have htoken : ∀ {lowered v : Text} (name : Text) {s : Text}, Text.lower name = lowered →
      Parameter.IsName name → IsToken v → name ++ '=' :: v = s → Written ⟨lowered, v⟩ s :=
    fun _ _ spelled isName isToken hs => hs ▸ .of_token spelled isName isToken
  have hqop : Written ⟨"qop".toList, "auth-int, AUTH".toList⟩ "QOP=\"auth-int, AUTH\"".toList :=
    hquoted "QOP".toList rfl (by decide) rfl
  have hnonce : Written ⟨"nonce".toList, terms.nonce⟩ "Nonce=\"7\\\", realm=\\\"x\"".toList :=
    hquoted "Nonce".toList rfl (by decide) rfl
  have hcharset : Written charset "charset=UTF-8".toList :=
    htoken "charset".toList rfl (by decide) (by decide) rfl
  have hstale : Written ⟨"stale".toList, "TRUE".toList⟩ "stale=TRUE".toList :=
    htoken "stale".toList rfl (by decide) (by decide) rfl
  have hticket : Written ⟨"opaque".toList, []⟩ "opaque=\"\"".toList :=
    hquoted "opaque".toList rfl (by decide) rfl
  have hrealm : Written ⟨"realm".toList, terms.realm⟩ "realm=\"c\\\\am\"".toList :=
    hquoted "realm".toList rfl (by decide) rfl
  have halgorithm : Written ⟨"algorithm".toList, "sha-256".toList⟩ "algorithm=sha-256".toList :=
    htoken "algorithm".toList rfl (by decide) (by decide) rfl
  have hlisted := Listed.cons (a := []) (b := [' ']) hrealm (by decide) (by decide)
    (.one halgorithm)
  have hlisted := Listed.cons (a := []) (b := ['\t']) hticket (by decide) (by decide) hlisted
  have hlisted := Listed.cons (a := []) (b := [',']) hstale (by decide) (by decide) hlisted
  have hlisted := Listed.cons (a := []) (b := [' ']) hcharset (by decide) (by decide) hlisted
  have hlisted := Listed.cons (a := []) (b := []) hnonce (by decide) (by decide) hlisted
  have hlisted := Listed.cons (a := [' ']) (b := [' ']) hqop (by decide) (by decide) hlisted
  have hannounces : Announces ps text := by
    have hheader := Announces.intro (a := []) (s := "DIGEST".toList) (g := []) (b := [])
      (by decide) (by decide) (by decide) (by decide) hlisted
    exact Eq.mp (congrArg (Announces ps) (by decide +kernel)) hheader
  have hoptions : ListsOptions ["auth-int".toList, "AUTH".toList] "auth-int, AUTH".toList :=
    Listed.cons (s := "auth-int".toList) (a := []) (b := [' ']) ⟨rfl, by decide⟩ (by decide)
      (by decide) (.one ⟨rfl, by decide⟩)
  have htells : notice.Tells terms :=
    ⟨by decide, by decide, fun t ht => Option.some.inj ht ▸ rfl, .named (by decide),
      .listed hoptions, .told _⟩
  have hperm : ps.Perm (notice.parameters terms ++ [charset]) := by decide
  have hmissing : Insufficient [realm] := .inr (.inl (by decide))
  have halone : Announces [realm] text' :=
    .intro (a := []) (s := "digest".toList) (g := []) (b := []) (by decide) (by decide)
      (by decide) (by decide) (.one (hquoted "Realm".toList rfl (by decide) rfl))
  exact ⟨hannounces, htells, hperm,
    (parse?_announced hannounces).1 terms notice [charset] htells (by decide) hperm, halone, hmissing,
    (parse?_announced halone).2 hmissing⟩

end Terms

end Challenge

end Rtsp.Auth
