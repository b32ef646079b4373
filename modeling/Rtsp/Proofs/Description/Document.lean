import Mathlib.Data.List.Nodup
import Rtsp.Proofs.Description.Written
import Rtsp.Proofs.Media.Mapping

/-!
A description and the documents that mean it. Each medium has a section whose heading lists its
payload types, with a mapping, parameters and a control among its attributes, in any order. Between
these sections there may be others that cannot be played. Whatever its lines are, the document is
read as the description.
-/
namespace Rtsp

namespace Media

/-- A medium as a description can tell it. -/
structure Medium.Plain (m : Medium) : Prop where
  control_trimmed : Text.trim m.control = m.control
  formats_ne : m.formats ≠ []
  distinct : (m.formats.map Format.payloadType).Nodup
  formats : ∀ f ∈ m.formats, f.Plain

/-- The formats of a medium are told apart by their payload types. -/
theorem Medium.Plain.eq_of_payloadType {m : Medium} (hm : m.Plain) {f g : Format}
    (hf : f ∈ m.formats) (hg : g ∈ m.formats) (h : g.payloadType = f.payloadType) : g = f :=
  List.inj_on_of_nodup_map hm.distinct hg hf h

/-- The parameters, assigned to the payload type. -/
def Format.parametersText? (f : Format) : Option Text :=
  f.parameters.map fun p => Text.decimal f.payloadType.toNat ++ ' ' :: p

/-- Parameters are assigned to their own payload type, and to no other. -/
theorem Format.parametersOf?_eq {p : Text} (hp : p ≠ [] ∧ Text.trim p = p) (n payloadType : UInt8) :
    Description.parametersOf? payloadType (Text.decimal n.toNat ++ ' ' :: p) =
      if n = payloadType then some p else none := by
  have hwhole : Text.trim (Text.decimal n.toNat ++ ' ' :: p) = Text.decimal n.toNat ++ ' ' :: p :=
    Format.trim_numbered _ (.of_trim hp.1 hp.2)
  have hcut : Text.cut? ' ' (Text.decimal n.toNat ++ ' ' :: p) =
      some (Text.decimal n.toNat, p) :=
    Text.cut?_append (Text.not_mem_decimal (by decide) _) _
  simp only [Description.parametersOf?, hwhole, hcut, Text.uint8?_decimal, hp.2, Option.some.injEq]

end Media

namespace Description

open Media (Format Medium Kind)

section Values

/-- The values of an attribute among some lines. -/
def valuesOf (entries : List Entry) (name : String) : List Text :=
  ((attributesOf entries).filter fun a => a.name == name.toList).filterMap Attribute.value

variable {entries entries' : List Entry} {name : String}

theorem valuesOf_append (entries entries' : List Entry) (name : String) :
    valuesOf (entries ++ entries') name = valuesOf entries name ++ valuesOf entries' name := by
  rw [valuesOf, attributesOf_append, List.filter_append, List.filterMap_append]
  rfl

theorem valuesOf_perm (h : entries.Perm entries') (name : String) :
    (valuesOf entries name).Perm (valuesOf entries' name) :=
  ((h.filterMap _).filter _).filterMap _

theorem attributesOf_map {name : String} (hname : ':' ∉ name.toList) (vs : List Text) :
    attributesOf (vs.map (attributeEntry name)) = vs.map fun v => ⟨name.toList, some v⟩ := by
  have hentry : ∀ v, Attribute.ofLine (name.toList ++ ':' :: v) = ⟨name.toList, some v⟩ := by
    intro v
    rw [Attribute.ofLine, Text.cut?_append hname]
  induction vs with
  | nil => rfl
  | cons v vs ih =>
    have hfirst : attributesOf [attributeEntry name v] = [⟨name.toList, some v⟩] :=
      congrArg (fun a => [a]) (hentry v)
    rw [List.map_cons, List.map_cons, ← ih, ← List.singleton_append, attributesOf_append, hfirst]
    rfl

theorem valuesOf_map (hname : ':' ∉ name.toList) (vs : List Text) :
    valuesOf (vs.map (attributeEntry name)) name = vs := by
  have hall : ∀ a ∈ vs.map fun v => (⟨name.toList, some v⟩ : Attribute),
      (a.name == name.toList) = true := by
    intro a ha
    obtain ⟨v, -, rfl⟩ := List.mem_map.mp ha
    exact beq_self_eq_true _
  rw [valuesOf, attributesOf_map hname, List.filter_eq_self.mpr hall, List.filterMap_map]
  exact List.filterMap_some

theorem valuesOf_map_of_ne {other : String} (hname : ':' ∉ name.toList)
    (hne : name.toList ≠ other.toList) (vs : List Text) :
    valuesOf (vs.map (attributeEntry name)) other = [] := by
  have hnone : ∀ a ∈ vs.map fun v => (⟨name.toList, some v⟩ : Attribute),
      ¬ (a.name == other.toList) = true := by
    intro a ha
    obtain ⟨v, -, rfl⟩ := List.mem_map.mp ha
    exact fun h => hne (beq_iff_eq.mp h)
  rw [valuesOf, attributesOf_map hname, List.filter_eq_nil_iff.mpr hnone, List.filterMap_nil]

theorem valuesOf_eq_nil (h : ∀ a ∈ attributesOf entries, a.name ≠ name.toList) :
    valuesOf entries name = [] := by
  have hnone : ∀ a ∈ attributesOf entries, ¬ (a.name == name.toList) = true := fun a ha hname =>
    h a ha (beq_iff_eq.mp hname)
  rw [valuesOf, List.filter_eq_nil_iff.mpr hnone, List.filterMap_nil]

end Values

/-- The heading that lists the payload types of a medium. -/
def headingOf (m : Medium) (profile : Text) : Heading :=
  ⟨m.kind.name, profile,
    [' '].intercalate (m.formats.map fun f => Text.decimal f.payloadType.toNat)⟩

/-- The lines of the section of a medium, in which only a mapping that goes without saying may be
left out. -/
inductive Tells (m : Medium) : List Entry → Prop
  | lines (profile : Text) {value : Text} {body : List Entry} (others : List Entry)
      (mapped : List Format) (control : List Text)
      (hvalue : HeadingText (headingOf m profile) value)
      (hprofile : "RTP/".toList.isPrefixOf profile = true) (hbody : Body body)
      (horder : body.Perm ((mapped.map Format.mappingText).map (attributeEntry "rtpmap") ++
        (m.formats.filterMap Format.parametersText?).map (attributeEntry "fmtp") ++
        control.map (attributeEntry "control") ++ others))
      (hmapped : mapped.Sublist m.formats)
      (hfixed : ∀ f ∈ m.formats, f ∉ mapped →
        Format.ofPayloadType? f.payloadType = some f.bare)
      (hcontrol : control = [m.control] ∨ m.control = [] ∧ control = [])
      (hothers : ∀ a ∈ attributesOf others,
        a.name ∉ ["rtpmap".toList, "fmtp".toList, "control".toList]) :
      Tells m (('m', value) :: body)

/-- Neither a mapping of the section nor a fixed meaning tells the format of the payload type. -/
def Unrecognized (body : List Entry) (payloadType : UInt8) : Prop :=
  Format.ofPayloadType? payloadType = none ∧
    ∀ v ∈ valuesOf body "rtpmap", ∀ f, Format.ofMapping? v = some f → f.payloadType ≠ payloadType

/-- The lines of a section that cannot be played, for its kind, its profile or its formats. -/
inductive Skipped : List Entry → Prop
  | lines {h : Heading} {value : Text} {body : List Entry} (hvalue : HeadingText h value)
      (hbody : Body body)
      (hwhy : (∀ kind : Kind, h.kind ≠ kind.name) ∨ "RTP/".toList.isPrefixOf h.profile = false ∨
        ∀ payloadType ∈ payloadTypes h, Unrecognized body payloadType) :
      Skipped (('m', value) :: body)

/-- The sections of some media, in order, and others between them. -/
inductive Sections : List Medium → List Entry → Prop
  | nil : Sections [] []
  | tells {m : Medium} {media : List Medium} {first rest : List Entry} (hfirst : Tells m first)
      (hrest : Sections media rest) : Sections (m :: media) (first ++ rest)
  | skipped {media : List Medium} {first rest : List Entry} (hfirst : Skipped first)
      (hrest : Sections media rest) : Sections media (first ++ rest)

/-- The text is a document of the description. -/
inductive Document (d : Description) (t : Text) : Prop
  | lines (origin times : Text) {entries : List Entry} (horigin : OriginText origin)
      (htimes : TimeText times) (hsections : Sections d.media entries)
      (hwritten : Written (('v', ['0']) :: ('o', origin) :: ('s', d.name) :: ('t', times) ::
        controlEntries d.control ++ entries) t) : Document d t

section Formats

/-- The value that a function has wherever it has one. -/
theorem findSome?_eq {α β : Type} {l : List α} {g : α → Option β} {o : Option β}
    (hall : ∀ a ∈ l, ∀ b, g a = some b → o = some b)
    (hsome : ∀ b, o = some b → ∃ a ∈ l, g a = some b) : l.findSome? g = o := by
  cases hfound : l.findSome? g with
  | some b =>
    obtain ⟨a, ha, hb⟩ := List.exists_of_findSome?_eq_some hfound
    exact (hall a ha b hb).symm
  | none =>
    cases o with
    | none => rfl
    | some b =>
      obtain ⟨a, ha, hb⟩ := hsome b rfl
      rw [List.findSome?_eq_none_iff.mp hfound a ha] at hb
      cases hb

variable {m : Medium} {s : Section} {mapped : List Format} {f : Format}

/-- Whether it has a mapping or goes without saying, a format is found but for its parameters. -/
theorem mapping?_eq (hm : m.Plain)
    (hvalues : (s.values "rtpmap").Perm (mapped.map Format.mappingText))
    (hmapped : mapped.Sublist m.formats)
    (hfixed : ∀ f ∈ m.formats, f ∉ mapped → Format.ofPayloadType? f.payloadType = some f.bare)
    (hf : f ∈ m.formats) : mapping? s f.payloadType = some f.bare := by
  have hread : ((s.values "rtpmap").filterMap Format.ofMapping?).Perm (mapped.map Format.bare) := by
    have hmap : (mapped.map Format.mappingText).filterMap Format.ofMapping? =
        mapped.map Format.bare := by
      rw [List.filterMap_map, ← List.filterMap_eq_map]
      refine List.filterMap_congr fun g hg => ?_
      exact Format.ofMapping?_mappingText (hm.formats g (hmapped.subset hg))
    exact hmap ▸ hvalues.filterMap Format.ofMapping?
  have hmem : ∀ g, g ∈ (s.values "rtpmap").filterMap Format.ofMapping? ↔
      ∃ f ∈ mapped, f.bare = g := fun g => by rw [hread.mem_iff, List.mem_map]
  by_cases hin : f ∈ mapped
  · have hfind : ((s.values "rtpmap").filterMap Format.ofMapping?).find?
        (fun g => g.payloadType == f.payloadType) = some f.bare := by
      rw [List.find?_eq_findSome?_guard]
      refine findSome?_eq ?_ ?_
      · intro g hg b hb
        obtain ⟨rfl, hsame⟩ := Option.guard_eq_some_iff.mp hb
        obtain ⟨g', hg', rfl⟩ := (hmem g).mp hg
        rw [hm.eq_of_payloadType hf (hmapped.subset hg') (beq_iff_eq.mp hsame)]
      · rintro _ ⟨⟩
        exact ⟨f.bare, (hmem f.bare).mpr ⟨f, hin, rfl⟩,
          Option.guard_eq_some_iff.mpr ⟨rfl, beq_self_eq_true _⟩⟩
    rw [mapping?, hfind, Option.some_or]
  · have hnone : ((s.values "rtpmap").filterMap Format.ofMapping?).find?
        (fun g => g.payloadType == f.payloadType) = none := by
      rw [List.find?_eq_none]
      intro g hg hsame
      obtain ⟨g', hg', rfl⟩ := (hmem g).mp hg
      obtain rfl := hm.eq_of_payloadType hf (hmapped.subset hg') (beq_iff_eq.mp hsame)
      exact hin hg'
    have hfixed' := hfixed f hf hin
    rw [mapping?, hnone, Option.none_or, if_pos (Format.lt_firstDynamic hfixed'), hfixed']

/-- A format has its own parameters, or none. -/
theorem findSome?_parametersOf? (hm : m.Plain)
    (hvalues : (s.values "fmtp").Perm (m.formats.filterMap Format.parametersText?))
    (hf : f ∈ m.formats) :
    (s.values "fmtp").findSome? (parametersOf? f.payloadType) = f.parameters := by
  have hmem : ∀ v, v ∈ s.values "fmtp" ↔ ∃ g ∈ m.formats, g.parametersText? = some v := fun v => by
    rw [hvalues.mem_iff, List.mem_filterMap]
  refine findSome?_eq ?_ ?_
  · intro v hv p hp
    obtain ⟨g, hg, htext⟩ := (hmem v).mp hv
    obtain ⟨q, hq, rfl⟩ := Option.map_eq_some_iff.mp htext
    rw [Format.parametersOf?_eq ((hm.formats g hg).parameters_trimmed q hq)] at hp
    split at hp
    · rename_i hsame
      obtain rfl := hm.eq_of_payloadType hf hg hsame
      rw [hq, hp]
    · cases hp
  · intro p hp
    refine ⟨_, (hmem _).mpr ⟨f, hf, congrArg (Option.map _) hp⟩, ?_⟩
    rw [Format.parametersOf?_eq ((hm.formats f hf).parameters_trimmed p hp), if_pos rfl]

/-- The payload types of a heading that lists them. -/
theorem payloadTypes_headingOf (m : Medium) (profile : Text) :
    payloadTypes (headingOf m profile) = m.formats.map Format.payloadType := by
  have hwords : Text.words (headingOf m profile).formats =
      m.formats.map fun f => Text.decimal f.payloadType.toNat := by
    refine Text.words_intercalate (by decide) fun w hw => ?_
    obtain ⟨f, -, rfl⟩ := List.mem_map.mp hw
    exact ⟨Text.decimal_ne_nil _, Text.blankless_decimal _⟩
  rw [payloadTypes, hwords, List.filterMap_map, ← List.filterMap_eq_map]
  exact List.filterMap_congr fun f _ => Text.uint8?_decimal f.payloadType

/-- A medium is read if its kind, its control and its formats are. -/
theorem medium?_eq {profile : Text} (hheading : s.heading = some (headingOf m profile))
    (hprofile : "RTP/".toList.isPrefixOf profile = true) (hne : m.formats ≠ [])
    (hcontrol : s.control = m.control)
    (hformats : ∀ f ∈ m.formats, format? s f.payloadType = some f) : medium? s = some m := by
  have hall : (payloadTypes (headingOf m profile)).filterMap (format? s) = m.formats := by
    rw [payloadTypes_headingOf, List.filterMap_map]
    exact (List.filterMap_congr hformats).trans List.filterMap_some
  have hkind : Kind.ofName? (headingOf m profile).kind = some m.kind := Kind.ofName?_name m.kind
  have hprofile' : "RTP/".toList.isPrefixOf (headingOf m profile).profile = true := hprofile
  simp only [medium?, hheading, hkind, hprofile', hall, hcontrol, Option.bind_eq_bind,
    Option.bind_some, if_true]

end Formats

section Media

variable {m : Medium} {entries : List Entry}

/-- What each of the three attributes tells. -/
theorem values_of_order {s : Section} {body others : List Entry} {mappings parameters : List Text}
    {control : List Text}
    (horder : body.Perm (mappings.map (attributeEntry "rtpmap") ++
      parameters.map (attributeEntry "fmtp") ++ control.map (attributeEntry "control") ++ others))
    (hs : s.attributes = attributesOf body)
    (hothers : ∀ a ∈ attributesOf others,
      a.name ∉ ["rtpmap".toList, "fmtp".toList, "control".toList]) :
    (s.values "rtpmap").Perm mappings ∧ (s.values "fmtp").Perm parameters ∧
      (s.values "control").Perm control := by
  have hnone : ∀ name ∈ ["rtpmap", "fmtp", "control"], valuesOf others name = [] := by
    intro name hname
    refine valuesOf_eq_nil fun a ha heq => hothers a ha ?_
    rw [heq]
    exact List.mem_map_of_mem (f := String.toList) hname
  have hall : ∀ name ∈ ["rtpmap", "fmtp", "control"], (s.values name).Perm
      (valuesOf (mappings.map (attributeEntry "rtpmap")) name ++
        valuesOf (parameters.map (attributeEntry "fmtp")) name ++
        valuesOf (control.map (attributeEntry "control")) name) := by
    intro name hname
    have hperm := valuesOf_perm horder name
    rw [Section.values, hs]
    rwa [valuesOf_append, valuesOf_append, valuesOf_append, hnone name hname,
      List.append_nil] at hperm
  refine ⟨?mapping, ?parameters, ?control⟩
  case mapping =>
    have hperm := hall "rtpmap" (by decide)
    rwa [valuesOf_map (by decide), valuesOf_map_of_ne (by decide) (by decide),
      valuesOf_map_of_ne (by decide) (by decide), List.append_nil, List.append_nil] at hperm
  case parameters =>
    have hperm := hall "fmtp" (by decide)
    rwa [valuesOf_map_of_ne (by decide) (by decide), valuesOf_map (by decide),
      valuesOf_map_of_ne (by decide) (by decide), List.nil_append, List.append_nil] at hperm
  case control =>
    have hperm := hall "control" (by decide)
    rwa [valuesOf_map_of_ne (by decide) (by decide), valuesOf_map_of_ne (by decide) (by decide),
      valuesOf_map (by decide), List.nil_append, List.nil_append] at hperm

theorem control_eq {s : Section} {control : List Text} {told : Text}
    (hvalues : (s.values "control").Perm control)
    (hcontrol : control = [told] ∨ told = [] ∧ control = []) : s.control = Text.trim told := by
  rcases hcontrol with rfl | ⟨rfl, rfl⟩
  · rw [Section.control, List.perm_singleton.mp hvalues]
    rfl
  · rw [Section.control, List.perm_nil.mp hvalues]
    rfl

/-- The section of a medium is read as the medium. -/
theorem Tells.reads (hm : m.Plain) (h : Tells m entries) (r : Reading) :
    ∃ r' s, Reads r entries r' ∧ r'.name = r.name ∧ r'.sections = r.sections ++ [s] ∧
      medium? s = some m := by
  obtain @⟨profile, value, body, others, mapped, control, hvalue, hprofile, hbody, horder, hmapped,
    hfixed, hcontrol, hothers⟩ := h
  obtain ⟨r', hreads, hname, hsections⟩ := reads_section (r := r) hvalue hbody
  obtain ⟨hmappings, hparameters, hcontrols⟩ := values_of_order
    (s := ⟨some (headingOf m profile), attributesOf body⟩) horder rfl hothers
  refine ⟨r', _, hreads, hname, hsections, medium?_eq rfl hprofile hm.formats_ne ?_ fun f hf => ?_⟩
  · exact (control_eq hcontrols hcontrol).trans hm.control_trimmed
  · rw [format?, mapping?_eq hm hmappings hmapped hfixed hf, Option.map_some,
      findSome?_parametersOf? hm hparameters hf]
    rfl

theorem format?_of_unrecognized {h : Heading} {body : List Entry} {payloadType : UInt8}
    (hp : Unrecognized body payloadType) :
    format? ⟨some h, attributesOf body⟩ payloadType = none := by
  have hfind : (((⟨some h, attributesOf body⟩ : Section).values "rtpmap").filterMap
      Format.ofMapping?).find? (fun f => f.payloadType == payloadType) = none := by
    rw [List.find?_eq_none]
    intro f hf hsame
    obtain ⟨v, hv, hread⟩ := List.mem_filterMap.mp hf
    exact hp.2 v hv f hread (beq_iff_eq.mp hsame)
  rw [format?, mapping?, hfind, hp.1, ite_self]
  rfl

/-- The section of none is passed over. -/
theorem Skipped.reads (h : Skipped entries) (r : Reading) :
    ∃ r' s, Reads r entries r' ∧ r'.name = r.name ∧ r'.sections = r.sections ++ [s] ∧
      medium? s = none := by
  obtain @⟨heading, value, body, hvalue, hbody, hwhy⟩ := h
  obtain ⟨r', hreads, hname, hsections⟩ := reads_section (r := r) hvalue hbody
  refine ⟨r', _, hreads, hname, hsections, ?_⟩
  simp only [medium?, Option.bind_eq_bind, Option.bind_some]
  rcases hwhy with hkind | hprofile | hformats
  · have hnone : Kind.ofName? heading.kind = none :=
      List.find?_eq_none.mpr fun kind _ hsame => hkind kind (beq_iff_eq.mp hsame).symm
    rw [hnone, Option.bind_none]
  · cases Kind.ofName? heading.kind with
    | none => rfl
    | some kind =>
      rw [Option.bind_some, hprofile]
      rfl
  · have hnil : (payloadTypes heading).filterMap (format? ⟨some heading, attributesOf body⟩) = [] :=
      List.filterMap_eq_nil_iff.mpr fun p hp => format?_of_unrecognized (hformats p hp)
    cases Kind.ofName? heading.kind with
    | none => rfl
    | some kind =>
      rw [Option.bind_some, hnil]
      exact ite_self none

/-- Section after section, the media are read in their order. -/
theorem Sections.reads {media : List Medium} (h : Sections media entries)
    (hplain : ∀ m ∈ media, m.Plain) (r : Reading) :
    ∃ r' sections, Reads r entries r' ∧ r'.name = r.name ∧
      r'.sections = r.sections ++ sections ∧ sections.filterMap medium? = media := by
  induction h generalizing r with
  | nil => exact ⟨r, [], Reads.nil r, rfl, (List.append_nil _).symm, rfl⟩
  | tells hfirst _ ih =>
    obtain ⟨r', s, hreads, hname, hsections, hmedium⟩ :=
      hfirst.reads (hplain _ List.mem_cons_self) r
    obtain ⟨r'', sections, hreads', hname', hsections', hmedia⟩ :=
      ih (fun m hm => hplain m (List.mem_cons_of_mem _ hm)) r'
    refine ⟨r'', s :: sections, hreads.append hreads', hname'.trans hname, ?_, ?_⟩
    · rw [hsections', hsections, List.append_assoc, List.singleton_append]
    · rw [List.filterMap_cons_some hmedium, hmedia]
  | skipped hfirst _ ih =>
    obtain ⟨r', s, hreads, hname, hsections, hmedium⟩ := hfirst.reads r
    obtain ⟨r'', sections, hreads', hname', hsections', hmedia⟩ := ih hplain r'
    refine ⟨r'', s :: sections, hreads.append hreads', hname'.trans hname, ?_, ?_⟩
    · rw [hsections', hsections, List.append_assoc, List.singleton_append]
    · rw [List.filterMap_cons_none hmedium, hmedia]

end Media

theorem control_session {control : Text} (h : Text.trim control = control) :
    (⟨none, attributesOf (controlEntries control)⟩ : Section).control = control := by
  unfold controlEntries
  split
  · rename_i hnil
    rw [hnil]
    rfl
  · have hvalues : (⟨none, attributesOf [attributeEntry "control" control]⟩ : Section).values
        "control" = [control] :=
      valuesOf_map (by decide) [control]
    exact (control_eq (List.Perm.of_eq hvalues) (Or.inl rfl)).trans h

/-- Every document of a description is read as the description, whatever the order of the
attributes, whichever mappings go without saying, and whatever else is described between the
media. -/
theorem parse_document {d : Description} {t : Text} (hcontrol : Text.trim d.control = d.control)
    (hmedia : d.media ≠ []) (hplain : ∀ m ∈ d.media, m.Plain) (h : Document d t) :
    parse t = .ok d := by
  obtain @⟨origin, times, entries, horigin, htimes, hsections, hwritten⟩ := h
  obtain ⟨r, hreads, hname, hfirst⟩ :=
    reads_session d.name d.control horigin htimes
  obtain ⟨r', sections, hreads', hname', hall, hfound⟩ := hsections.reads hplain r
  have hlist : Line.list t = .ok ⟨1, 'v', ['0']⟩ :: numbered 2 (('o', origin) :: ('s', d.name) ::
      ('t', times) :: controlEntries d.control ++ entries) := list_written hwritten 1
  have hrun : Reading.start.run (numbered 2 (('o', origin) :: ('s', d.name) :: ('t', times) ::
      controlEntries d.control ++ entries)) = .ok r' := by
    have hend := (hreads.append hreads') 2 []
    rwa [List.append_nil] at hend
  have hreading : Reading.ofText t = .ok r' := by
    simp only [Reading.ofText, hlist, hrun, ne_eq, not_true_eq_false, if_false]
  have hdescription : ofReading r' = .ok d := by
    rw [hfirst, List.singleton_append] at hall
    cases sections with
    | nil => exact absurd hfound.symm hmedia
    | cons s sections =>
      simp only [ofReading, hall, hfound, control_session hcontrol, hname', hname]
  simp only [parse, read, hreading, hdescription, mapError_ok]

/-- Two media, whose sections have another one between them that cannot be played. -/
def woven : Description :=
  ⟨"x=y".toList, "*".toList,
    [⟨.video, "trackID=1".toList,
      [⟨96, "H264".toList, 90000, none, some "packetization-mode=1".toList⟩,
        ⟨26, "JPEG".toList, 90000, none, none⟩]⟩,
      ⟨.audio, [], [⟨97, "OPUS".toList, 48000, some 2, none⟩]⟩]⟩

def wovenVideo : List Entry :=
  [('m', "video 0 RTP/AVP 96 26".toList), ('a', "fmtp:96 packetization-mode=1".toList),
    ('a', "control:trackID=1".toList), ('a', "recvonly".toList),
    ('a', "rtpmap:96 H264/90000".toList)]

def wovenText : List Entry :=
  [('m', "text 0 RTP/AVP 96".toList), ('a', "control:text".toList),
    ('a', "rtpmap:96 T140/1000".toList)]

def wovenAudio : List Entry :=
  [('m', "audio 5004/2 RTP/SAVP 97".toList), ('a', "rtpmap:97 OPUS/48000/2".toList)]

/-- Lines that all end in carriage return and line feed. -/
def textOf (entries : List Entry) : Text :=
  entries.flatMap fun e => e.1 :: '=' :: e.2 ++ ['\r', '\n']

theorem sections_woven :
    Sections woven.media (wovenVideo ++ (wovenText ++ (wovenAudio ++ []))) := by
  refine .tells ?video (.skipped ?text (.tells ?audio .nil))
  case video =>
    refine .lines "RTP/AVP".toList [('a', "recvonly".toList)]
      [⟨96, "H264".toList, 90000, none, some "packetization-mode=1".toList⟩] ["trackID=1".toList]
      ⟨"0".toList, by decide, ⟨0, by decide, Or.inl (by decide)⟩, by decide, by decide⟩ (by decide)
      (.of_attributes (by decide)) (by decide) (by decide) (by decide) (Or.inl rfl) (by decide)
  case text =>
    refine .lines (h := ⟨"text".toList, "RTP/AVP".toList, "96".toList⟩)
      ⟨"0".toList, by decide, ⟨0, by decide, Or.inl (by decide)⟩, by decide, by decide⟩
      (.of_attributes (by decide)) (Or.inl fun kind => ?_)
    cases kind <;> decide
  case audio =>
    exact .lines "RTP/SAVP".toList [] [⟨97, "OPUS".toList, 48000, some 2, none⟩] []
      ⟨"5004/2".toList, by decide, ⟨5004, by decide, Or.inr ⟨2, by decide, by decide⟩⟩, by decide,
        by decide⟩ (by decide) (.of_attributes (by decide)) (by decide) (by decide) (by decide)
      (Or.inr ⟨rfl, rfl⟩) (by decide)

theorem plain_woven : ∀ m ∈ woven.media, m.Plain := by
  refine List.forall_mem_cons.mpr ⟨⟨by decide, by decide, by decide, ?_⟩,
    List.forall_mem_singleton.mpr ⟨by decide, by decide, by decide, ?_⟩⟩
  · refine List.forall_mem_cons.mpr ⟨⟨by decide, by decide, by decide, by decide, ?_⟩,
      List.forall_mem_singleton.mpr ⟨by decide, by decide, by decide, by decide, ?_⟩⟩
    · rintro _ ⟨⟩
      decide
    · rintro _ ⟨⟩
  · refine List.forall_mem_singleton.mpr ⟨by decide, by decide, by decide, by decide, ?_⟩
    rintro _ ⟨⟩

theorem parse_document_woven :
    parse (["v=0\r\n", "o=- 7 8 IN IP4 cam\r\n", "s=x=y\r\n", "t=0 0\r\n", "a=control:*\r\n",
      "m=video 0 RTP/AVP 96 26\r\n", "a=fmtp:96 packetization-mode=1\r\n",
      "a=control:trackID=1\r\n", "a=recvonly\r\n", "a=rtpmap:96 H264/90000\r\n",
      "m=text 0 RTP/AVP 96\r\n", "a=control:text\r\n", "a=rtpmap:96 T140/1000\r\n",
      "m=audio 5004/2 RTP/SAVP 97\r\n", "a=rtpmap:97 OPUS/48000/2\r\n"].flatMap String.toList) =
      .ok woven := by
  have horigin : OriginText "- 7 8 IN IP4 cam".toList :=
    ⟨"-".toList, "7".toList, 8, "IN".toList, "IP4".toList, "cam".toList, by decide, by decide,
      by decide, by decide, by decide, by decide⟩
  have htimes : TimeText "0 0".toList := ⟨0, 0, by decide, by decide, by decide⟩
  have hwritten : Written _ (textOf (('v', ['0']) :: ('o', "- 7 8 IN IP4 cam".toList) ::
      ('s', "x=y".toList) :: ('t', "0 0".toList) :: controlEntries ['*'] ++
        (wovenVideo ++ (wovenText ++ (wovenAudio ++ []))))) :=
    written_flatMap (Or.inr rfl) (by decide)
  refine (congrArg parse ?text).trans (parse_document (by decide) (by decide) plain_woven
    (.lines _ _ horigin htimes sections_woven hwritten))
  case text => decide +kernel

section Padded

/-- A session whose control has blanks around it. -/
def padded : Description :=
  ⟨"S".toList, " x ".toList, [⟨.video, [], [⟨33, "MP2T".toList, 90000, none, none⟩]⟩]⟩

/-- The control of a session does not come back with the blanks around it. -/
theorem padded_not_kept :
    let text := ["v=0\r\n", "o=- 0 0 IN IP4 cam\r\n", "s=S\r\n", "t=0 0\r\n", "a=control: x \r\n",
      "m=video 0 RTP/AVP 33\r\n"].flatMap String.toList
    padded.media ≠ [] ∧ (∀ m ∈ padded.media, m.Plain) ∧ Document padded text ∧
      parse text ≠ .ok padded := by
  intro text
  have horigin : OriginText "- 0 0 IN IP4 cam".toList :=
    ⟨"-".toList, "0".toList, 0, "IN".toList, "IP4".toList, "cam".toList, by decide, by decide,
      by decide, by decide, by decide, by decide⟩
  have htimes : TimeText "0 0".toList := ⟨0, 0, by decide, by decide, by decide⟩
  have hsections : Sections padded.media ([('m', "video 0 RTP/AVP 33".toList)] ++ []) :=
    .tells (.lines "RTP/AVP".toList [] [] [] ⟨"0".toList, by decide, ⟨0, by decide,
      Or.inl (by decide)⟩, by decide, by decide⟩ (by decide) (.of_attributes (by decide))
      (by decide) (by decide) (by decide) (Or.inr ⟨rfl, rfl⟩) (by decide)) .nil
  have hwritten : Written _ (textOf (('v', ['0']) :: ('o', "- 0 0 IN IP4 cam".toList) ::
      ('s', "S".toList) :: ('t', "0 0".toList) :: controlEntries " x ".toList ++
        ([('m', "video 0 RTP/AVP 33".toList)] ++ []))) :=
    written_flatMap (Or.inr rfl) (by decide)
  refine ⟨by decide, ?plain, ?document, by decide +kernel⟩
  case plain =>
    refine List.forall_mem_singleton.mpr ⟨by decide, by decide, by decide, ?_⟩
    refine List.forall_mem_singleton.mpr ⟨by decide, by decide, by decide, by decide, ?_⟩
    rintro _ ⟨⟩
  case document =>
    have htext : text = textOf (('v', ['0']) :: ('o', "- 0 0 IN IP4 cam".toList) ::
        ('s', "S".toList) :: ('t', "0 0".toList) :: controlEntries " x ".toList ++
          ([('m', "video 0 RTP/AVP 33".toList)] ++ [])) := by
      decide +kernel
    exact .lines _ _ horigin htimes hsections (htext ▸ hwritten)

end Padded

end Description

end Rtsp
