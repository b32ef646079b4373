import Mathlib.Data.List.Forall2
import Mathlib.Data.List.ReduceOption
import Rtsp.Proofs.Auth.Announced

/-!
The challenges that a server offers in one response, and the one that is answered. A header line may
carry several of them with commas between, but each line is read as one: the scheme that stands first
in it counts, with its parameters and with those of all others behind it, but for the first of each,
whose name is taken together with the name of its scheme. So the strongest challenge is answered in
every response that is made of some lines exactly if each of these lines is read as a strongest of
those that it carries. A line that carries only one is. A line with the plain password in front of a
digest is not.
-/
namespace Rtsp.Auth

open Text (AllBlank Blankless EndsVisibly)
open Parameter (Listed IsName IsToken Leads isGap isNamePart valuesOf)

/-- A challenge as it is offered: the name of a scheme, and parameters. -/
structure Offer where
  scheme : Text
  parameters : List Parameter

/-- A scheme that is none of the two that are known. -/
def IsForeign (scheme : Text) : Prop :=
  Text.sameName scheme "basic".toList = false ∧ Text.sameName scheme "digest".toList = false

instance (scheme : Text) : Decidable (IsForeign scheme) := inferInstanceAs (Decidable (_ ∧ _))

/-- The name of a scheme is not that of a parameter of a digest. -/
structure IsScheme (scheme : Text) : Prop where
  isName : IsName scheme
  unlike : Text.lower scheme ∉ Notice.names

instance (scheme : Text) : Decidable (IsScheme scheme) :=
  decidable_of_iff (IsName scheme ∧ Text.lower scheme ∉ Notice.names)
    ⟨fun h => ⟨h.1, h.2⟩, fun h => ⟨h.isName, h.unlike⟩⟩

namespace Offer

/-- What a server means by an offer; none if it can not be answered. -/
inductive Means : Offer → Option Challenge → Prop
  | basic {o : Offer} {realm : Option Text}
      (spelled : Text.sameName o.scheme "basic".toList = true)
      (told : valuesOf o.parameters "realm" = realm.toList)
      (visible : ∀ t, realm = some t → Text.trim t = t) : Means o (some (.basic (realm.getD [])))
  | digest {o : Offer} {terms : DigestTerms} {n : Notice} {further : List Parameter}
      (spelled : Text.sameName o.scheme "digest".toList = true) (tells : n.Tells terms)
      (others : ∀ p ∈ further, p.name ∉ Notice.names)
      (arranged : o.parameters.Perm (n.parameters terms ++ further)) : Means o (some (.digest terms))
  | insufficient {o : Offer} (spelled : Text.sameName o.scheme "digest".toList = true)
      (short : Challenge.Insufficient o.parameters) : Means o none
  | foreign {o : Offer} (isForeign : IsForeign o.scheme) : Means o none

/-- An offer as it is written: the name of its scheme in any letter case, and its parameters behind a
space. A scheme that is not known may have something else in their place. -/
inductive Written (o : Offer) : Text → Prop
  | bare (nothing : o.parameters = []) : Written o o.scheme
  | ticket {g x : Text} (nothing : o.parameters = []) (isForeign : IsForeign o.scheme)
      (between : AllBlank g) (isToken : IsToken x) (start : x.head? ≠ some '=') :
      Written o (o.scheme ++ ' ' :: (g ++ x))
  | listed {g t : Text} (something : o.parameters ≠ []) (between : AllBlank g)
      (listed : Listed Parameter.Written o.parameters t) : Written o (o.scheme ++ ' ' :: (g ++ t))

/-- The challenge that a name of a scheme and parameters are read as. -/
def readAs (scheme : Text) (ps : List Parameter) : Option Challenge :=
  if Text.sameName scheme "basic".toList then
    some (.basic ((Parameter.find? ps "realm").getD []))
  else if Text.sameName scheme "digest".toList then Challenge.digestOf? ps
  else none

/-- All offers of a line in one: the first scheme, its parameters, and of the others all parameters
but the first. -/
def joint : List Offer → Option Challenge
  | [] => none
  | o :: os =>
    readAs o.scheme ((o.parameters ++ os.flatMap fun o => o.parameters.tail).map Parameter.trimmed)

section Meaning

variable {o : Offer} {c : Option Challenge}

/-- A digest with nothing but its realm and its nonce. -/
theorem Means.plain {scheme realm nonce : Text}
    (spelled : Text.sameName scheme "digest".toList = true) (hrealm : Text.trim realm = realm)
    (hnonce : Text.trim nonce = nonce) :
    Means ⟨scheme, [⟨"realm".toList, realm⟩, ⟨"nonce".toList, nonce⟩]⟩
      (some (.digest ⟨realm, nonce, none, none, false, false⟩)) :=
  .digest (n := ⟨none, none, none⟩) spelled
    ⟨hrealm, hnonce, fun t ht => (by cases ht), .absent, .absent, .absent⟩
    (fun p (hp : p ∈ []) => by cases hp) (List.Perm.refl _)

theorem Written.quoted {ps : List Parameter} {scheme t : Text} (hne : ps ≠ [])
    (hnames : ∀ p ∈ ps, IsName p.name ∧ Text.lower p.name = p.name)
    (h : Listed (fun p s => s = p.quotation) ps t) :
    Written ⟨scheme, ps⟩ (scheme ++ ' ' :: t) :=
  .listed hne (g := []) (fun c hc => by cases hc) (h.imp fun p hp s hs =>
    hs ▸ Parameter.written_quotation (hnames p hp).1 (hnames p hp).2)

theorem readAs_foreign {scheme : Text} (h : IsForeign scheme) (ps : List Parameter) :
    readAs scheme ps = none := by
  simp only [readAs, h.1, h.2, Bool.false_eq_true, if_false]

theorem readAs_digest {scheme : Text} (h : Text.sameName scheme "digest".toList = true)
    (ps : List Parameter) : readAs scheme ps = Challenge.digestOf? ps := by
  have hbasic : Text.sameName scheme "basic".toList = false := by
    rw [Bool.eq_false_iff]
    intro hbasic
    have hsame := Text.sameName_trans (Text.sameName_comm scheme _ ▸ hbasic) h
    exact absurd hsame (by decide)
  simp only [readAs, hbasic, h, Bool.false_eq_true, if_false, if_true]

/-- An offer alone is read as it is meant. -/
theorem readAs_of_means (h : o.Means c) :
    readAs o.scheme (o.parameters.map Parameter.trimmed) = c := by
  cases h with
  | @basic realm spelled told visible =>
    have hfind : Parameter.find? (o.parameters.map Parameter.trimmed) "realm" =
        realm.map Text.trim := Parameter.find?_of_perm (List.Perm.refl _) told
    have hsame : realm.map Text.trim = realm := by
      cases hcase : realm with
      | none => rfl
      | some t => rw [Option.map_some, visible t hcase]
    rw [readAs, if_pos spelled, hfind, hsame]
  | digest spelled tells others arranged =>
    rw [readAs_digest spelled, Challenge.digestOf?_parameters tells others arranged]
  | insufficient spelled short =>
    rw [readAs_digest spelled, Challenge.digestOf?_insufficient short]
  | foreign isForeign => exact readAs_foreign isForeign _

end Meaning

section Read

variable {o : Offer} {os : List Offer} {s t a rest : Text}

/-- Together with a name behind it, the name of a scheme is no name of a parameter of a digest. -/
theorem leads_glued {scheme g name : Text} (hs : IsScheme scheme) (hg : AllBlank g)
    (hne : name ≠ []) (hparts : ∀ c ∈ name, isNamePart c = true) (hname : Blankless name) :
    Leads (scheme ++ ' ' :: (g ++ name)) ∧
      Text.lower (scheme ++ ' ' :: (g ++ name)) ∉ Notice.names := by
  have hallparts : ∀ c ∈ scheme ++ ' ' :: (g ++ name), isNamePart c = true :=
    List.forall_mem_append.mpr ⟨hs.isName.parts, List.forall_mem_cons.mpr ⟨by decide,
      List.forall_mem_append.mpr
        ⟨fun c hc => Parameter.isNamePart_of_isBlank (hg c hc), hparts⟩⟩⟩
  obtain ⟨⟨c, scheme', rfl, hc⟩, -, -⟩ := hs.isName.leads
  have hends : EndsVisibly (scheme' ++ ' ' :: (g ++ name)) :=
    (((EndsVisibly.of_blankless hne hname).append g).append [' ']).append scheme'
  refine ⟨⟨⟨c, _, rfl, hc⟩, hallparts, EndsVisibly.trim_cons ?_ hends⟩, ?_⟩
  · exact hs.isName.blankless c List.mem_cons_self
  · intro hmem
    have hspace : ' ' ∈ Text.lower (c :: scheme' ++ ' ' :: (g ++ name)) :=
      List.mem_map_of_mem (f := Char.toLower) (List.mem_append_right _ List.mem_cons_self)
    have hall : ∀ n ∈ Notice.names, ' ' ∉ n := by decide
    exact hall _ hmem hspace

theorem readValue_behind {v : Text} (hv : v = [] ∨ IsToken v) (ha : AllBlank a)
    (hrest : rest = [] ∨ ∃ t, rest = ',' :: t) :
    (Parameter.readValue (v ++ (a ++ rest))).2 = rest := by
  rcases hv with rfl | hv
  · have hskip : Text.trimStart ([] ++ (a ++ rest)) = rest := by
      rw [List.nil_append, Text.trimStart_append_of_blank ha]
      rcases hrest with rfl | ⟨t, rfl⟩ <;> rfl
    unfold Parameter.readValue
    rw [hskip]
    rcases hrest with rfl | ⟨t, rfl⟩ <;> rfl
  · rw [← List.nil_append v, Parameter.readValue_token (b := []) (fun c hc => by cases hc) hv ha
      hrest]

theorem isNamePart_of_token {x : Text} (hx : IsToken x) (hequals : '=' ∉ x) :
    ∀ c ∈ x, isNamePart c = true := by
  intro c hc
  simp only [isNamePart, Bool.and_eq_true, bne_iff_ne, ne_eq]
  exact ⟨fun heq => hequals (heq ▸ hc), fun heq => hx.comma (heq ▸ hc)⟩

/-- Behind others an offer is read as its parameters but for the first one, in whose place is one
that no challenge is made of. -/
theorem list_written_append (h : o.Written s) (hs : IsScheme o.scheme) (ha : AllBlank a)
    (hrest : rest = [] ∨ ∃ t, rest = ',' :: t) :
    ∃ q : Parameter, q.name ∉ Notice.names ∧
      Parameter.list (s ++ (a ++ rest)) =
        q :: (o.parameters.tail.map Parameter.trimmed ++ Parameter.list rest) := by
  have hne : ∀ {head : Text}, Leads head → Text.lower head ≠ [] := by
    rintro head ⟨⟨c, t, rfl, -⟩, -, -⟩
    exact List.cons_ne_nil _ _
  cases h with
  | bare nothing =>
    have hleads := hs.isName.leads
    have hnext := Parameter.next?_comma hleads ha hrest
    refine ⟨⟨Text.lower o.scheme, []⟩, hs.unlike, ?_⟩
    rw [← List.append_assoc, Parameter.list_of_next? hnext (hne hleads), nothing]
    rfl
  | @ticket g x nothing _ between isToken start =>
    rw [nothing]
    by_cases hequals : '=' ∈ x
    · obtain ⟨x₁, x₂, rfl, hx₁⟩ := List.eq_append_cons_of_mem hequals
      have hone : x₁ ≠ [] := by
        rintro rfl
        exact start rfl
      have hparts : ∀ c ∈ x₁, isNamePart c = true := by
        intro c hc
        simp only [isNamePart, Bool.and_eq_true, bne_iff_ne, ne_eq]
        exact ⟨fun heq => hx₁ (heq ▸ hc),
          fun heq => isToken.comma (heq ▸ List.mem_append_left _ hc)⟩
      have hblank : Blankless x₁ := fun c hc => isToken.blankless c (List.mem_append_left _ hc)
      obtain ⟨hleads, hunlike⟩ := leads_glued hs between hone hparts hblank
      have hvalue : x₂ = [] ∨ IsToken x₂ := by
        by_cases hx₂ : x₂ = []
        · exact .inl hx₂
        · exact .inr ⟨hx₂, fun c hc => isToken.blankless c (by simp [hc]),
            fun hc => isToken.comma (by simp [hc]), fun hc => isToken.quote (by simp [hc])⟩
      have hnext := Parameter.next?_equals hleads (a := []) (fun c hc => by cases hc)
        (x₂ ++ (a ++ rest))
      have hsplit : o.scheme ++ ' ' :: (g ++ (x₁ ++ '=' :: x₂)) ++ (a ++ rest) =
          o.scheme ++ ' ' :: (g ++ x₁) ++ [] ++ '=' :: (x₂ ++ (a ++ rest)) := by simp
      rw [hsplit, Parameter.list_of_next? hnext (hne hleads),
        readValue_behind hvalue ha hrest]
      exact ⟨_, hunlike, rfl⟩
    · obtain ⟨hleads, hunlike⟩ := leads_glued hs between isToken.ne_nil
        (isNamePart_of_token isToken hequals) isToken.blankless
      have hnext := Parameter.next?_comma hleads ha hrest
      rw [← List.append_assoc, Parameter.list_of_next? hnext (hne hleads)]
      exact ⟨_, hunlike, rfl⟩
  | @listed g t something between listed =>
    obtain ⟨p, ps, hps⟩ := List.exists_cons_of_ne_nil something
    rw [hps] at listed ⊢
    obtain ⟨first, behind, written, rfl, hbehind⟩ := listed.of_cons
    obtain @⟨name, b, c, r, -, isName, hb, hc, rendered⟩ := written
    obtain ⟨hleads, hunlike⟩ := leads_glued hs between isName.ne_nil isName.parts isName.blankless
    have hsplit : ∀ w, o.scheme ++ ' ' :: (g ++ (name ++ b ++ '=' :: c ++ r ++ behind)) ++ w =
        o.scheme ++ ' ' :: (g ++ name) ++ b ++ '=' :: c ++ r ++ (behind ++ w) := by simp
    rw [hsplit]
    refine ⟨⟨Text.lower (o.scheme ++ ' ' :: (g ++ name)), Text.trim p.value⟩, hunlike, ?_⟩
    rcases hbehind with ⟨rfl, rfl⟩ | ⟨d, gap, u, hne', hd, hgap, hlisted, rfl⟩
    · exact Parameter.list_rendered_append hleads hb hc rendered ha hrest
    · have hgaps : ∀ c ∈ ',' :: gap, isGap c = true := List.forall_mem_cons.mpr ⟨rfl, hgap⟩
      have hcomma : Parameter.list (',' :: (gap ++ (u ++ (a ++ rest)))) =
          Parameter.list (u ++ (a ++ rest)) := Parameter.list_gap_append hgaps _
      have hsplit' : d ++ ',' :: gap ++ u ++ (a ++ rest) =
          d ++ ',' :: (gap ++ (u ++ (a ++ rest))) := by simp
      rw [hsplit', Parameter.list_rendered_append hleads hb hc rendered hd (.inr ⟨_, rfl⟩), hcomma,
        Parameter.list_listed_append hlisted hne' ha hrest]
      rfl

/-- Behind others, offers one after another are read as their parameters but for the first ones, as
far as a challenge is made of them. -/
theorem valuesOf_list {name : String} (hname : name.toList ∈ Notice.names)
    (h : Listed Written os t) (hs : ∀ o ∈ os, IsScheme o.scheme) (ha : AllBlank a) :
    valuesOf (Parameter.list (t ++ a)) name =
      valuesOf ((os.flatMap fun o => o.parameters.tail).map Parameter.trimmed) name := by
  have hskip : ∀ {q : Parameter} (ps : List Parameter), q.name ∉ Notice.names →
      valuesOf (q :: ps) name = valuesOf ps name := by
    intro q ps hq
    have hne : (q.name == name.toList) = false := by
      rw [beq_eq_false_iff_ne]
      exact fun heq => hq (heq ▸ hname)
    rw [valuesOf, List.filter_cons, hne]
    rfl
  induction h with
  | nil =>
    have hnil := Parameter.list_blank_append ha []
    rw [List.append_nil] at hnil
    rw [List.nil_append, hnil]
    rfl
  | @one o s written =>
    obtain ⟨q, hq, hread⟩ := list_written_append written (hs o List.mem_cons_self) ha (.inl rfl)
    rw [List.append_nil, show Parameter.list [] = [] from rfl, List.append_nil] at hread
    rw [hread, hskip _ hq, List.flatMap_singleton]
  | @cons o o' os s b gap u written hb hgap _ ih =>
    obtain ⟨ho, hos⟩ := List.forall_mem_cons.mp hs
    obtain ⟨q, hq, hread⟩ := list_written_append written ho hb
      (.inr ⟨gap ++ (u ++ a), rfl⟩)
    have hsplit : s ++ b ++ ',' :: gap ++ u ++ a = s ++ (b ++ ',' :: (gap ++ (u ++ a))) := by simp
    have hgaps : ∀ c ∈ ',' :: gap, isGap c = true := List.forall_mem_cons.mpr ⟨rfl, hgap⟩
    have hcomma : Parameter.list (',' :: (gap ++ (u ++ a))) = Parameter.list (u ++ a) :=
      Parameter.list_gap_append hgaps _
    have hflat : ((o :: o' :: os).flatMap fun o => o.parameters.tail) =
        o.parameters.tail ++ (o' :: os).flatMap fun o => o.parameters.tail := rfl
    rw [hsplit, hread, hcomma, hskip _ hq, hflat, List.map_append, Parameter.valuesOf_append,
      Parameter.valuesOf_append, ih hos]

theorem readAs_congr {scheme : Text} {ps qs : List Parameter}
    (h : ∀ name : String, name.toList ∈ Notice.names → valuesOf ps name = valuesOf qs name) :
    readAs scheme ps = readAs scheme qs := by
  have hfind : ∀ name : String, name.toList ∈ Notice.names →
      Parameter.find? ps name = Parameter.find? qs name := by
    intro name hname
    rw [Parameter.find?_eq_head?, Parameter.find?_eq_head?, h name hname]
  have hrealm := hfind "realm" (by decide)
  simp only [readAs, Challenge.digestOf?, hrealm, hfind "nonce" (by decide),
    hfind "opaque" (by decide), hfind "algorithm" (by decide), hfind "qop" (by decide),
    hfind "stale" (by decide)]

theorem Written.endsVisibly (h : o.Written s) (hs : IsScheme o.scheme) : EndsVisibly s := by
  cases h with
  | bare => exact .of_blankless hs.isName.ne_nil hs.isName.blankless
  | @ticket g x _ _ _ isToken =>
    exact (((EndsVisibly.of_blankless isToken.ne_nil isToken.blankless).append g).append
      [' ']).append _
  | @listed g t something _ listed =>
    have hends := listed.endsVisibly (fun _ _ hw => hw.endsVisibly) something
    exact ((hends.append g).append [' ']).append _

/-- A written offer is the name of its scheme, and what is behind it is apart. -/
theorem Written.eq_scheme_append (h : o.Written s) :
    ∃ y, s = o.scheme ++ y ∧ (y = [] ∨ ∃ z, y = ' ' :: z) := by
  cases h with
  | bare => exact ⟨[], (List.append_nil _).symm, .inl rfl⟩
  | ticket => exact ⟨_, rfl, .inr ⟨_, rfl⟩⟩
  | listed => exact ⟨_, rfl, .inr ⟨_, rfl⟩⟩

theorem cut_fst (sep : Char) (t : Text) : (Text.cut sep t).1 = t.takeWhile (· != sep) := by
  have hall := List.takeWhile_append_dropWhile (p := (· != sep)) (l := t)
  rw [Text.cut, Text.cut?]
  split
  · rename_i hnil
    rw [hnil, List.append_nil] at hall
    exact hall.symm
  · rfl

/-- A scheme that is not known stays so together with what is behind it. -/
theorem isForeign_cut {scheme y : Text} (hforeign : IsForeign scheme) (hs : Blankless scheme)
    (hy : ∀ c ∈ y.head?, isGap c = true) : IsForeign (Text.cut ' ' (scheme ++ y)).1 := by
  have hspace : ∀ c ∈ scheme, (c != ' ') = true := fun c hc => bne_iff_ne.mpr fun heq =>
    absurd (hs c hc) (heq ▸ by decide)
  rw [cut_fst, List.takeWhile_append_of_pos hspace]
  cases hcase : y.takeWhile (· != ' ') with
  | nil => rwa [List.append_nil]
  | cons c z =>
    -- What is kept of the rest begins with a comma or a blank, which no name of a scheme has.
    have hc : isGap c = true := by
      cases y with
      | nil => cases hcase
      | cons d y =>
        rw [List.takeWhile_cons] at hcase
        split at hcase
        · exact (List.cons.inj hcase).1 ▸ hy d rfl
        · cases hcase
    have hlower : c.toLower = c := by
      rcases (Bool.or_eq_true _ _).mp hc with hcomma | hblank
      · rw [eq_of_beq hcomma]
        rfl
      · exact Text.toLower_of_isBlank hblank
    have hunlike : ∀ name : Text, (∀ x ∈ Text.lower name, isGap x = false) →
        Text.sameName (scheme ++ c :: z) name = false := by
      intro name hname
      rw [Bool.eq_false_iff]
      intro hsame
      have hmem : c ∈ Text.lower (scheme ++ c :: z) :=
        List.mem_map.mpr ⟨c, List.mem_append_right _ List.mem_cons_self, hlower⟩
      rw [eq_of_beq hsame] at hmem
      exact Bool.eq_false_iff.mp (hname c hmem) hc
    exact ⟨hunlike _ (by decide), hunlike _ (by decide)⟩

/-- Nothing is trimmed of offers that are written one after another. -/
theorem trim_listed (h : Listed Written (o :: os) t) (hs : ∀ x ∈ o :: os, IsScheme x.scheme) :
    Text.trim t = t := by
  have hvisible : Listed (fun _ s => EndsVisibly s) (o :: os) t :=
    h.imp fun x hx s hw => hw.endsVisibly (hs x hx)
  have hends := hvisible.endsVisibly (fun _ _ hw => hw) (List.cons_ne_nil _ _)
  have ho := (hs o List.mem_cons_self).isName
  obtain ⟨s, behind, written, rfl, -⟩ := h.of_cons
  obtain ⟨y, rfl, -⟩ := written.eq_scheme_append
  obtain ⟨c, scheme, hscheme⟩ := List.exists_cons_of_ne_nil ho.ne_nil
  refine hends.trim fun x hx => ?_
  rw [hscheme] at hx
  exact Option.some.inj hx ▸ ho.blankless c (hscheme ▸ List.mem_cons_self)

/-- A scheme that is not known in front makes all offers behind it unknown. -/
theorem isForeign_cut_listed (h : Listed Written (o :: os) t) (hs : IsScheme o.scheme)
    (hforeign : IsForeign o.scheme) : IsForeign (Text.cut ' ' t).1 := by
  obtain ⟨s, behind, written, rfl, hbehind⟩ := h.of_cons
  obtain ⟨y, rfl, hy⟩ := written.eq_scheme_append
  rw [List.append_assoc]
  refine isForeign_cut hforeign hs.isName.blankless ?_
  rcases hy with rfl | ⟨z, rfl⟩
  · rcases hbehind with ⟨-, rfl⟩ | ⟨a, b, u, -, ha, -, -, rfl⟩
    · exact fun c hc => by cases hc
    · cases a with
      | nil => exact fun c hc => Option.some.inj hc ▸ rfl
      | cons x a =>
        exact fun c hc =>
          Option.some.inj hc ▸ Parameter.isGap_of_isBlank (ha x List.mem_cons_self)
  · exact fun c hc => Option.some.inj hc ▸ rfl

/-- The parameters of the first offer are read, and those of the others as they are behind it. -/
theorem valuesOf_list_first {ps : List Parameter} {behind : Text} {name : String}
    (hname : name.toList ∈ Notice.names) (h : Listed Parameter.Written ps t) (hps : ps ≠ [])
    (hs : ∀ o ∈ os, IsScheme o.scheme)
    (hbehind : os = [] ∧ behind = [] ∨ ∃ a b u, os ≠ [] ∧ AllBlank a ∧
      (∀ c ∈ b, isGap c = true) ∧ Listed Written os u ∧ behind = a ++ ',' :: b ++ u) :
    valuesOf (Parameter.list (t ++ behind)) name =
      valuesOf ((ps ++ os.flatMap fun o => o.parameters.tail).map Parameter.trimmed) name := by
  have hnil : AllBlank [] := fun c hc => by cases hc
  rw [List.map_append, Parameter.valuesOf_append]
  rcases hbehind with ⟨rfl, rfl⟩ | ⟨a, b, u, -, ha, hb, hmore, rfl⟩
  · have hread : Parameter.list (t ++ []) = ps.map Parameter.trimmed :=
      Parameter.list_listed h hnil hnil
    rw [hread, List.flatMap_nil, List.map_nil, show valuesOf [] name = [] from rfl,
      List.append_nil]
  · have hgaps : ∀ c ∈ ',' :: b, isGap c = true := List.forall_mem_cons.mpr ⟨rfl, hb⟩
    have hread : Parameter.list (t ++ (a ++ (',' :: b ++ u))) =
        ps.map Parameter.trimmed ++ Parameter.list (',' :: b ++ u) :=
      Parameter.list_listed_append h hps ha (.inr ⟨b ++ u, rfl⟩)
    have hothers := valuesOf_list hname hmore hs hnil
    rw [List.append_nil] at hothers
    rw [List.append_assoc, hread, Parameter.list_gap_append hgaps, Parameter.valuesOf_append,
      hothers]

end Read

end Offer

/-- A line of a header with the offers that it carries, and what is meant by each of them. -/
structure Line where
  text : Text
  offers : List Offer
  meant : List (Option Challenge)

namespace Line

/-- The challenges on a line that can be answered. -/
def challenges (l : Line) : List Challenge := l.meant.reduceOption

/-- The one challenge that a line is read as. -/
def joint (l : Line) : Option Challenge := Offer.joint l.offers

/-- The line is written as its offers, with commas between and blanks around them. One of a known
scheme has parameters if it is followed by others. -/
structure Sound (l : Line) : Prop where
  written : ∃ a t b, AllBlank a ∧ AllBlank b ∧ Listed Offer.Written l.offers t ∧
    l.text = a ++ t ++ b
  schemes : ∀ o ∈ l.offers, IsScheme o.scheme
  told : ∀ o os, l.offers = o :: os → os ≠ [] → o.parameters = [] → IsForeign o.scheme
  means : List.Forall₂ Offer.Means l.offers l.meant

/-- A line is read as all its offers in one. -/
theorem Sound.parse? {l : Line} (h : l.Sound) : Challenge.parse? l.text = l.joint := by
  obtain ⟨a, t, b, ha, hb, hlisted, htext⟩ := h.written
  have hparse : Challenge.parse? l.text =
      Offer.readAs (Text.cut ' ' (Text.trim t)).1 (Parameter.list (Text.cut ' ' (Text.trim t)).2) := by
    rw [htext, ← Text.trim_append_of_blank_left ha t, ← Text.trim_append_of_blank hb (a ++ t)]
    rfl
  have hschemes := h.schemes
  rw [hparse, joint]
  cases hoffers : l.offers with
  | nil =>
    rw [hoffers] at hlisted
    cases hlisted
    rfl
  | cons o os =>
    rw [hoffers] at hlisted hschemes
    obtain ⟨ho, hos⟩ := List.forall_mem_cons.mp hschemes
    rw [Offer.trim_listed hlisted hschemes, Offer.joint]
    by_cases hforeign : IsForeign o.scheme
    · rw [Offer.readAs_foreign hforeign,
        Offer.readAs_foreign (Offer.isForeign_cut_listed hlisted ho hforeign)]
    obtain ⟨s, behind, written, rfl, hbehind⟩ := hlisted.of_cons
    have hspace : ' ' ∉ o.scheme := fun hmem =>
      absurd (ho.isName.blankless ' ' hmem) (by decide)
    cases written with
    | ticket _ isForeign => exact absurd isForeign hforeign
    | bare nothing =>
      have hlast : os = [] := by
        by_contra hne
        exact hforeign (h.told o os hoffers hne nothing)
      rcases hbehind with ⟨-, rfl⟩ | ⟨-, -, -, hne, -⟩
      · rw [List.append_nil, Text.cut, Text.cut?_eq_none hspace, Option.getD_none, hlast, nothing]
        rfl
      · exact absurd hlast hne
    | @listed g t something between listed =>
      rw [List.append_assoc, List.cons_append, Text.cut, Text.cut?_append hspace, Option.getD_some,
        List.append_assoc, Parameter.list_blank_append between]
      exact Offer.readAs_congr fun name hname =>
        Offer.valuesOf_list_first hname listed something hos hbehind

end Line

namespace Challenge

/-- Of some challenges the answer is for one of the strongest, and there is one if there are any. -/
def IsBest (cs : List Challenge) : Option Challenge → Prop
  | none => cs = []
  | some c => c ∈ cs ∧ ∀ c' ∈ cs, c'.strength ≤ c.strength

instance (cs : List Challenge) (answer : Option Challenge) : Decidable (IsBest cs answer) :=
  match answer with
  | none => inferInstanceAs (Decidable (cs = []))
  | some c => inferInstanceAs (Decidable (c ∈ cs ∧ ∀ c' ∈ cs, c'.strength ≤ c.strength))

section Best

variable {cs : List Challenge} {c : Challenge}

theorem exists_stronger (best : Option Challenge) (x : Challenge) :
    ∃ d, stronger best x = some d ∧ x.strength ≤ d.strength ∧
      ∀ b, best = some b → b.strength ≤ d.strength := by
  cases best with
  | none => exact ⟨x, rfl, Nat.le_refl _, fun b hb => by cases hb⟩
  | some b =>
    by_cases hle : b.strength ≤ x.strength
    · exact ⟨x, if_pos hle, Nat.le_refl _, fun b' hb => Option.some.inj hb ▸ hle⟩
    · exact ⟨b, if_neg hle, Nat.le_of_lt (Nat.lt_of_not_le hle),
        fun b' hb => Option.some.inj hb ▸ Nat.le_refl _⟩

theorem le_strength_foldl (cs : List Challenge) (best : Option Challenge)
    (h : c ∈ cs ∨ best = some c) :
    ∃ d, cs.foldl stronger best = some d ∧ c.strength ≤ d.strength := by
  induction cs generalizing best c with
  | nil =>
    rcases h with h | rfl
    · cases h
    · exact ⟨c, rfl, Nat.le_refl _⟩
  | cons x cs ih =>
    obtain ⟨d, hd, hx, hbest⟩ := exists_stronger best x
    have hthrough : c.strength ≤ d.strength →
        ∃ e, (x :: cs).foldl stronger best = some e ∧ c.strength ≤ e.strength := by
      intro hle
      obtain ⟨e, he, hle'⟩ := ih (c := d) (stronger best x) (.inr hd)
      exact ⟨e, he, Nat.le_trans hle hle'⟩
    rcases h with h | h
    · rcases List.mem_cons.mp h with rfl | h
      · exact hthrough hx
      · exact ih (stronger best x) (.inl h)
    · exact hthrough (hbest c h)

theorem isBest_strongest (cs : List Challenge) : IsBest cs (strongest cs) := by
  cases hcase : strongest cs with
  | none =>
    refine List.eq_nil_iff_forall_not_mem.mpr fun c hc => ?_
    obtain ⟨d, hd, -⟩ := le_strength_foldl cs none (.inl hc)
    cases hd.symm.trans hcase
  | some c =>
    refine ⟨mem_of_strongest hcase, fun c' hc' => ?_⟩
    obtain ⟨d, hd, hle⟩ := le_strength_foldl cs none (.inl hc')
    exact Option.some.inj (hd.symm.trans hcase) ▸ hle

/-- The best of what is best in each of some parts is the best of all. -/
theorem isBest_flatMap {α : Type} {parts : List α} {challenges : α → List Challenge}
    {answer : α → Option Challenge} (h : ∀ x ∈ parts, IsBest (challenges x) (answer x)) :
    IsBest (parts.flatMap challenges) (strongest (parts.filterMap answer)) := by
  have hbest := isBest_strongest (parts.filterMap answer)
  have hsome : ∀ x ∈ parts, ∀ c ∈ challenges x,
      ∃ d, answer x = some d ∧ c.strength ≤ d.strength := by
    intro x hx c hc
    have hpart := h x hx
    cases hanswer : answer x with
    | none =>
      rw [hanswer] at hpart
      rw [show challenges x = [] from hpart] at hc
      cases hc
    | some d =>
      rw [hanswer] at hpart
      exact ⟨d, rfl, hpart.2 c hc⟩
  cases hcase : strongest (parts.filterMap answer) with
  | none =>
    rw [hcase] at hbest
    refine List.eq_nil_iff_forall_not_mem.mpr fun c hc => ?_
    obtain ⟨x, hx, hmem⟩ := List.mem_flatMap.mp hc
    obtain ⟨d, hd, -⟩ := hsome x hx c hmem
    have hin : d ∈ parts.filterMap answer := List.mem_filterMap.mpr ⟨x, hx, hd⟩
    rw [show parts.filterMap answer = [] from hbest] at hin
    cases hin
  | some c =>
    rw [hcase] at hbest
    obtain ⟨x, hx, hanswer⟩ := List.mem_filterMap.mp hbest.1
    have hpart := h x hx
    rw [hanswer] at hpart
    refine ⟨List.mem_flatMap.mpr ⟨x, hx, hpart.1⟩, fun c' hc' => ?_⟩
    obtain ⟨x', hx', hmem⟩ := List.mem_flatMap.mp hc'
    obtain ⟨d, hd, hle⟩ := hsome x' hx' c' hmem
    exact Nat.le_trans hle (hbest.2 d (List.mem_filterMap.mpr ⟨x', hx', hd⟩))

/-- The best of all challenges is answered, in whatever order and on whatever lines they come,
exactly if each line is read as the best of those that are on it. A line with one challenge is; a
line with anything else in front of a digest is not. -/
theorem ofResponse?_isBest_iff {ls : List Line} (hls : ∀ l ∈ ls, l.Sound) :
    ((∀ (ms : List Line) (r : Response), ms ⊆ ls →
        r.values "WWW-Authenticate".toList = ms.map Line.text →
          IsBest (ms.flatMap Line.challenges) (ofResponse? r)) ↔
      ∀ l ∈ ls, IsBest l.challenges l.joint) ∧
    (∀ l ∈ ls, l.offers.length ≤ 1 → IsBest l.challenges l.joint) ∧
    ∀ l ∈ ls, ∀ o os terms, l.offers = o :: os → Text.sameName o.scheme "digest".toList = false →
      .digest terms ∈ l.challenges → ¬ IsBest l.challenges l.joint := by
  have hanswer : ∀ (ms : List Line) (r : Response), ms ⊆ ls →
      r.values "WWW-Authenticate".toList = ms.map Line.text →
        ofResponse? r = strongest (ms.filterMap Line.joint) := by
    intro ms r hms hvalues
    rw [ofResponse?, hvalues, List.filterMap_map]
    congr 1
    exact List.filterMap_congr fun l hl => (hls l (hms hl)).parse?
  refine ⟨⟨fun h l hl => ?_, fun h ms r hms hvalues => ?_⟩, ?_, ?_⟩
  · have hms : [l] ⊆ ls := List.cons_subset.mpr ⟨hl, List.nil_subset _⟩
    have halone := h [l] (Response.unauthorized l.text) hms rfl
    rw [hanswer [l] _ hms rfl, List.flatMap_singleton] at halone
    cases hjoint : l.joint with
    | none => rwa [List.filterMap_cons_none hjoint] at halone
    | some c => rwa [List.filterMap_cons_some hjoint] at halone
  · rw [hanswer ms r hms hvalues]
    exact isBest_flatMap fun l hl => h l (hms hl)
  · intro l hl hone
    have hmeans := (hls l hl).means
    match hoffers : l.offers with
    | [] =>
      rw [hoffers, List.forall₂_nil_left_iff] at hmeans
      rw [Line.challenges, Line.joint, hoffers, hmeans]
      exact rfl
    | [o] =>
      rw [hoffers] at hmeans
      obtain ⟨c, rest, hc, hrest, hmeant⟩ := List.forall₂_cons_left_iff.mp hmeans
      rw [List.forall₂_nil_left_iff] at hrest
      rw [Line.challenges, Line.joint, hoffers, hmeant, hrest, Offer.joint, List.flatMap_nil,
        List.append_nil, Offer.readAs_of_means hc]
      cases c with
      | none => exact rfl
      | some c => exact ⟨List.mem_singleton_self c, fun c' hc' =>
          List.mem_singleton.mp hc' ▸ Nat.le_refl _⟩
    | o :: o' :: os =>
      rw [hoffers] at hone
      simp at hone
  · intro l hl o os terms hoffers hother hmem hbest
    rw [Line.joint, hoffers, Offer.joint, Offer.readAs, hother] at hbest
    split at hbest
    · have hle := hbest.2 _ hmem
      simp only [strength] at hle
      split at hle <;> omega
    · rw [show l.challenges = [] from hbest] at hmem
      cases hmem

/-- A digest in front of the plain password, and schemes that are not known on a line of their own,
one of which shows a ticket. -/
theorem ofResponse?_isBest_iff_mixed :
    let realm : Parameter := ⟨"realm".toList, "a, Basic".toList⟩
    let nonce : Parameter := ⟨"nonce".toList, "7".toList⟩
    let terms : DigestTerms := ⟨realm.value, nonce.value, none, none, false, false⟩
    let first : Line := ⟨"Digest realm=\"a, Basic\", nonce=\"7\", basic realm=\"a, Basic\"".toList,
      [⟨"Digest".toList, [realm, nonce]⟩, ⟨"basic".toList, [realm]⟩],
      [some (.digest terms), some (.basic realm.value)]⟩
    let second : Line := ⟨"Negotiate , NTLM TlRM==".toList,
      [⟨"Negotiate".toList, []⟩, ⟨"NTLM".toList, []⟩], [none, none]⟩
    let r : Response := { Response.ok with
      header := [⟨"www-authenticate".toList, second.text⟩,
        ⟨"WWW-Authenticate".toList, first.text⟩] }
    (∀ l ∈ [first, second], l.Sound) ∧ (∀ l ∈ [first, second], IsBest l.challenges l.joint) ∧
      r.values "WWW-Authenticate".toList = [second, first].map Line.text ∧
      ofResponse? r = some (.digest terms) ∧
      IsBest ([second, first].flatMap Line.challenges) (ofResponse? r) := by
  intro realm nonce terms first second r
  have hdigest : Offer.Written ⟨"Digest".toList, [realm, nonce]⟩
      ("Digest".toList ++ ' ' :: (realm.quotation ++ [] ++ ',' :: [' '] ++ nonce.quotation)) :=
    .quoted (by decide) (by decide) (.cons rfl (by decide) (by decide) (.one rfl))
  have hbasic : Offer.Written ⟨"basic".toList, [realm]⟩
      ("basic".toList ++ ' ' :: realm.quotation) :=
    .quoted (by decide) (by decide) (.one rfl)
  have hfirst : first.Sound := {
    written := ⟨[], _, [], by decide, by decide,
      .cons hdigest (a := []) (b := [' ']) (by decide) (by decide) (.one hbasic), by decide⟩
    schemes := by decide
    told := fun o os h _ hnothing => by
      obtain ⟨rfl, -⟩ := List.cons.inj h
      cases hnothing
    means := .cons (.plain (by decide) (by decide) (by decide))
      (.cons (.basic (by decide) (by decide : _ = (some realm.value).toList)
        fun t ht => Option.some.inj ht ▸ by decide) .nil) }
  have hsecond : second.Sound := {
    written := ⟨[], _, [], by decide, by decide,
      .cons (.bare rfl) (a := [' ']) (b := [' ']) (by decide) (by decide)
        (.one (.ticket rfl (by decide) (g := []) (x := "TlRM==".toList) (by decide) (by decide)
          (by decide))), by decide⟩
    schemes := by decide
    told := fun o os h _ _ => by
      obtain ⟨rfl, -⟩ := List.cons.inj h
      decide
    means := .cons (.foreign (by decide)) (.cons (.foreign (by decide)) .nil) }
  have hsound : ∀ l ∈ [first, second], l.Sound :=
    List.forall_mem_cons.mpr ⟨hfirst, List.forall_mem_singleton.mpr hsecond⟩
  have hjoint : ∀ l ∈ [first, second], IsBest l.challenges l.joint := by decide
  have hvalues : r.values "WWW-Authenticate".toList = [second, first].map Line.text := by decide
  exact ⟨hsound, hjoint, hvalues, by decide +kernel,
    (ofResponse?_isBest_iff hsound).1.mpr hjoint _ r (by simp) hvalues⟩

/-- With the plain password in front of a digest on one line, the plain password is answered. -/
theorem ofResponse?_not_isBest :
    let realm : Parameter := ⟨"realm".toList, "cam".toList⟩
    let nonce : Parameter := ⟨"nonce".toList, "7".toList⟩
    let terms : DigestTerms := ⟨realm.value, nonce.value, none, none, false, false⟩
    let l : Line := ⟨"Basic realm=\"cam\", Digest realm=\"cam\", nonce=\"7\"".toList,
      [⟨"Basic".toList, [realm]⟩, ⟨"Digest".toList, [realm, nonce]⟩],
      [some (.basic realm.value), some (.digest terms)]⟩
    l.Sound ∧ ofResponse? (.unauthorized l.text) = some (.basic realm.value) ∧
      ¬ IsBest l.challenges (ofResponse? (.unauthorized l.text)) := by
  intro realm nonce terms l
  have hbasic : Offer.Written ⟨"Basic".toList, [realm]⟩
      ("Basic".toList ++ ' ' :: realm.quotation) :=
    .quoted (by decide) (by decide) (.one rfl)
  have hdigest : Offer.Written ⟨"Digest".toList, [realm, nonce]⟩
      ("Digest".toList ++ ' ' :: (realm.quotation ++ [] ++ ',' :: [' '] ++ nonce.quotation)) :=
    .quoted (by decide) (by decide) (.cons rfl (by decide) (by decide) (.one rfl))
  have hsound : l.Sound := {
    written := ⟨[], _, [], by decide, by decide,
      .cons hbasic (a := []) (b := [' ']) (by decide) (by decide) (.one hdigest), by decide⟩
    schemes := by decide
    told := fun o os h _ hnothing => by
      obtain ⟨rfl, -⟩ := List.cons.inj h
      cases hnothing
    means := .cons (.basic (by decide) (by decide : _ = (some realm.value).toList)
        fun t ht => Option.some.inj ht ▸ by decide)
      (.cons (.plain (by decide) (by decide) (by decide)) .nil) }
  have hanswer : ofResponse? (.unauthorized l.text) = some (.basic realm.value) := by
    decide +kernel
  refine ⟨hsound, hanswer, ?_⟩
  rw [hanswer]
  decide

end Best

end Challenge

end Rtsp.Auth
