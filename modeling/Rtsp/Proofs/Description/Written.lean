import Rtsp.Proofs.Description.Stray
import Rtsp.Proofs.Text.Line

/-!
A description that is written line by line. A line is a letter with its value, and every line has
its end. The reader takes the lines as they come: those of the session, and then section by section,
of which it keeps the heading and the attributes.
-/
namespace Rtsp.Description

open Text (Unbroken not_mem_decimal)

/-- A line without its number. -/
abbrev Entry := Char × Text

/-- The text that is made of these lines, with either line end. -/
inductive Written : List Entry → Text → Prop
  | nil : Written [] []
  | line {key : Char} {value : Text} {entries : List Entry} {t : Text}
      (hkey : key.isAlpha = true) (hvalue : Unbroken value) (hrest : Written entries t) :
      Written ((key, value) :: entries) (key :: '=' :: value ++ '\n' :: t)
  | lineReturn {key : Char} {value : Text} {entries : List Entry} {t : Text}
      (hkey : key.isAlpha = true) (hvalue : Unbroken value) (hrest : Written entries t) :
      Written ((key, value) :: entries) (key :: '=' :: value ++ '\r' :: '\n' :: t)

/-- The lines with their numbers. -/
def numbered : Nat → List Entry → List (Except Defect Line)
  | _, [] => []
  | n, (key, value) :: entries => .ok ⟨n, key, value⟩ :: numbered (n + 1) entries

section List

variable {key : Char} {value : Text} {entries : List Entry} {t : Text}

theorem toNat_of_isAlpha (h : key.isAlpha = true) : 65 ≤ key.toNat ∧ key.toNat ≤ 122 := by
  have hbounds : ∀ low high : Char, key.val ≥ low.val ∧ key.val ≤ high.val →
      low.toNat ≤ key.toNat ∧ key.toNat ≤ high.toNat := fun _ _ hin =>
    ⟨UInt32.le_iff_toNat_le.mp hin.1, UInt32.le_iff_toNat_le.mp hin.2⟩
  rcases Bool.or_eq_true_iff.mp (show (key.isUpper || key.isLower) = true from h) with
    hupper | hlower
  · have hin : 65 ≤ key.toNat ∧ key.toNat ≤ 90 := hbounds 'A' 'Z' (of_decide_eq_true hupper)
    omega
  · have hin : 97 ≤ key.toNat ∧ key.toNat ≤ 122 :=
      hbounds 'a' 'z' ((Bool.and_eq_true_iff.mp hlower).imp of_decide_eq_true of_decide_eq_true)
    omega

theorem ne_of_isAlpha (h : key.isAlpha = true) {c : Char} (hc : c.isAlpha = false) : c ≠ key := by
  rintro rfl
  rw [h] at hc
  cases hc

theorem parse_entry (hkey : key.isAlpha = true) (n : Nat) (value : Text) :
    Line.parse n (key :: '=' :: value) = .ok ⟨n, key, value⟩ := by
  have hequals : '=' ∉ [key] :=
    List.not_mem_cons_of_ne_of_not_mem (ne_of_isAlpha hkey (by decide)) List.not_mem_nil
  have hcut : Text.cut? '=' (key :: '=' :: value) = some ([key], value) :=
    Text.cut?_append hequals value
  have hlt : key.toNat < 0x80 := by
    have := toNat_of_isAlpha hkey
    omega
  simp only [Line.parse, hcut, hlt, if_true]

theorem unbroken_entry (hkey : key.isAlpha = true) (hvalue : Unbroken value) :
    Unbroken (key :: '=' :: value) := by
  have hnot : ∀ {c : Char}, c.isAlpha = false → c ≠ '=' → c ∉ value → c ∉ key :: '=' :: value :=
    fun hc hequals hvalue => List.not_mem_cons_of_ne_of_not_mem (ne_of_isAlpha hkey hc)
      (List.not_mem_cons_of_ne_of_not_mem hequals hvalue)
  exact ⟨hnot (by decide) (by decide) hvalue.1, hnot (by decide) (by decide) hvalue.2⟩

theorem dropReturn_of_unbroken {l : Text} (h : Unbroken l) : Text.dropReturn l = l := by
  refine if_neg fun hlast => h.1 ?_
  exact List.mem_of_getLast? hlast

/-- Lines that were written are read back with their numbers. -/
theorem list_written (h : Written entries t) (n : Nat) :
    ((Text.lines t).zipIdx n).filterMap
      (fun p => if p.1 = [] then none else some (Line.parse p.2 p.1)) = numbered n entries := by
  induction h generalizing n with
  | nil => rfl
  | line hkey hvalue _ ih =>
    have hone := unbroken_entry hkey hvalue
    rw [Text.lines_append hone.2, dropReturn_of_unbroken hone, List.zipIdx_cons]
    simp only [List.filterMap_cons, reduceCtorEq, if_false, ih (n + 1), parse_entry hkey, numbered]
  | lineReturn hkey hvalue _ ih =>
    have hone := unbroken_entry hkey hvalue
    rw [Text.lines_append_end hone.2, List.zipIdx_cons]
    simp only [List.filterMap_cons, reduceCtorEq, if_false, ih (n + 1), parse_entry hkey, numbered]

/-- Lines that all have the same line end. -/
theorem written_flatMap {ending : Text} (hending : ending = ['\n'] ∨ ending = ['\r', '\n'])
    (h : ∀ e ∈ entries, e.1.isAlpha = true ∧ Unbroken e.2) :
    Written entries (entries.flatMap fun e => e.1 :: '=' :: e.2 ++ ending) := by
  induction entries with
  | nil => exact .nil
  | cons e entries ih =>
    obtain ⟨hkey, hvalue⟩ := h e List.mem_cons_self
    have hrest := ih fun e' he' => h e' (List.mem_cons_of_mem e he')
    rw [List.flatMap_cons, List.append_assoc]
    rcases hending with rfl | rfl
    · exact .line hkey hvalue hrest
    · exact .lineReturn hkey hvalue hrest

end List

section Reads

/-- From the reading `r` the lines lead to the reading `r'`, wherever they stand. -/
def Reads (r : Reading) (entries : List Entry) (r' : Reading) : Prop :=
  ∀ n rest, r.run (numbered n (entries ++ rest)) = r'.run (numbered (n + entries.length) rest)

variable {r r' r'' : Reading} {key : Char} {value : Text} {entries entries' : List Entry}

theorem Reads.nil (r : Reading) : Reads r [] r := fun _ _ => rfl

theorem Reads.append (h : Reads r entries r') (h' : Reads r' entries' r'') :
    Reads r (entries ++ entries') r'' := by
  intro n rest
  rw [List.append_assoc, h, h', List.length_append, Nat.add_assoc]

/-- A line that is not of a medium. -/
theorem Reads.add (hkey : key ≠ 'm') (h : ∀ n, r.add ⟨n, key, value⟩ = .ok r') :
    Reads r [(key, value)] r' := by
  intro n rest
  exact run_ok ((if_neg hkey).trans (h n))

theorem Reads.next (h : ∀ n, r.next ⟨n, 'm', value⟩ = .ok r') : Reads r [('m', value)] r' := by
  intro n rest
  exact run_ok ((if_pos rfl).trans (h n))

/-- A line that comes in its place, with a value of its grammar. -/
theorem Reads.keep (hkey : key ≠ 'm') (hclaim : ∀ n, r.claim ⟨n, key, value⟩ = .ok ())
    (hcheck : ∀ n, (if r.heading.isSome then Line.checkMedium ⟨n, key, value⟩
      else Line.checkSession (r.keys.contains 't') ⟨n, key, value⟩) = .ok ()) :
    Reads r [(key, value)] (r.keep ⟨0, key, value⟩) := by
  refine Reads.add hkey fun n => ?_
  have hcheck' := hcheck n
  unfold Reading.add
  rw [hclaim n]
  cases hheading : r.heading.isSome <;>
    simp only [hheading, if_true, if_false, Bool.false_eq_true] at hcheck' <;>
    simp only [if_true, if_false, Bool.false_eq_true, hcheck', bind, Except.bind, pure, Except.pure,
      Reading.keep]

end Reads

section Grammar

/-- Three fields, the first two without blanks. -/
def ConnectionText (value : Text) : Prop :=
  ∃ net kind address, ' ' ∉ net ∧ ' ' ∉ kind ∧ value = net ++ ' ' :: (kind ++ ' ' :: address)

/-- A kind of bandwidth and how much of it there is. -/
def BandwidthText (value : Text) : Prop :=
  ∃ kind amount, ':' ∉ kind ∧ amount < Text.bound 64 ∧ value = kind ++ ':' :: Text.decimal amount

/-- Who made the description: a user, a session with its version, and an address. -/
def OriginText (value : Text) : Prop :=
  ∃ user session version net kind address, ' ' ∉ user ∧ ' ' ∉ session ∧
    version < Text.bound 64 ∧ ' ' ∉ net ∧ ' ' ∉ kind ∧
    value = user ++ ' ' :: (session ++ ' ' :: (Text.decimal version ++ ' ' ::
      (net ++ ' ' :: (kind ++ ' ' :: address))))

/-- When the session begins and when it ends. -/
def TimeText (value : Text) : Prop :=
  ∃ start stop, start < Text.bound 64 ∧ stop < Text.bound 64 ∧
    value = Text.decimal start ++ ' ' :: Text.decimal stop

/-- A port, perhaps with the number of ports behind it. -/
def PortText (value : Text) : Prop :=
  ∃ port < Text.bound 16, value = Text.decimal port ∨
    ∃ count < Text.bound 16, value = Text.decimal port ++ '/' :: Text.decimal count

/-- The value of the line that opens the section of a medium. -/
def HeadingText (h : Heading) (value : Text) : Prop :=
  ∃ port, ' ' ∉ h.kind ∧ PortText port ∧ ' ' ∉ h.profile ∧
    value = h.kind ++ ' ' :: (port ++ ' ' :: (h.profile ++ ' ' :: h.formats))

variable {value : Text}

theorem parts_one (sep : Char) (t : Text) : Text.parts sep (0 + 1) t = [t] := rfl

theorem ConnectionText.check (h : ConnectionText value) (n : Nat) :
    Line.checkConnection n value = .ok () := by
  obtain ⟨net, kind, address, hnet, hkind, rfl⟩ := h
  simp only [Line.checkConnection, Text.parts_append hnet, Text.parts_append hkind, parts_one,
    Line.need, bind, Except.bind, pure, Except.pure]

theorem BandwidthText.check (h : BandwidthText value) (n : Nat) :
    Line.checkBandwidth n value = .ok () := by
  obtain ⟨kind, amount, hkind, hamount, rfl⟩ := h
  have hsplit : (kind ++ ':' :: Text.decimal amount).splitOn ':' = [kind, Text.decimal amount] := by
    rw [List.splitOn_append_cons_self_of_not_mem hkind,
      List.splitOn_eq_singleton (not_mem_decimal (by decide) amount)]
  simp only [Line.checkBandwidth, hsplit, Text.natural?_decimal hamount, Line.need, Line.expect,
    Line.finish, bind, Except.bind]

theorem OriginText.check (h : OriginText value) (n : Nat) :
    Line.checkOrigin n value = .ok () := by
  obtain ⟨user, session, version, net, kind, address, huser, hsession, hversion, hnet, hkind,
    rfl⟩ := h
  have hblank : ' ' ∉ Text.decimal version := not_mem_decimal (by decide) version
  simp only [Line.checkOrigin, Text.parts_append huser, Text.parts_append hsession,
    Text.parts_append hblank, Text.parts_append hnet, Text.parts_append hkind, parts_one,
    Text.natural?_decimal hversion, Line.need, Line.expect, bind, Except.bind, pure, Except.pure]

theorem TimeText.check (h : TimeText value) (n : Nat) : Line.checkTime n value = .ok () := by
  obtain ⟨start, stop, hstart, hstop, rfl⟩ := h
  have hblank : ∀ n, ' ' ∉ Text.decimal n := not_mem_decimal (by decide)
  have hpieces : Text.pieces ' ' (Text.decimal start ++ ' ' :: Text.decimal stop) =
      [Text.decimal start, Text.decimal stop] := by
    rw [Text.pieces, List.splitOn_append_cons_self_of_not_mem (hblank start),
      List.splitOn_eq_singleton (hblank stop)]
    simp only [List.filter_cons, List.filter_nil, bne_iff_ne, ne_eq, Text.decimal_ne_nil,
      not_false_eq_true, if_true]
  simp only [Line.checkTime, hpieces, Text.natural?_decimal hstart, Text.natural?_decimal hstop,
    Line.need, Line.expect, Line.finish, bind, Except.bind]

theorem PortText.check (h : PortText value) (n : Nat) : Heading.checkPort n value = .ok () := by
  have hslash : ∀ n, '/' ∉ Text.decimal n := not_mem_decimal (by decide)
  obtain ⟨port, hport, rfl | ⟨count, hcount, rfl⟩⟩ := h
  · simp only [Heading.checkPort, Text.cut?_eq_none (hslash port), Text.natural?_decimal hport,
      Line.expect, bind, Except.bind, pure, Except.pure]
  · simp only [Heading.checkPort, Text.cut?_append (hslash port), Text.natural?_decimal hport,
      Text.natural?_decimal hcount, Line.expect, bind, Except.bind, pure, Except.pure]

theorem PortText.blankless (h : PortText value) : ' ' ∉ value := by
  have hblank : ∀ n, ' ' ∉ Text.decimal n := not_mem_decimal (by decide)
  obtain ⟨port, -, rfl | ⟨count, -, rfl⟩⟩ := h
  · exact hblank port
  · exact List.not_mem_append (hblank port)
      (List.not_mem_cons_of_ne_of_not_mem (by decide) (hblank count))

theorem HeadingText.parse {h : Heading} (hvalue : HeadingText h value) (n : Nat) :
    Heading.parse n value = .ok h := by
  obtain ⟨port, hkind, hport, hprofile, rfl⟩ := hvalue
  simp only [Heading.parse, Text.parts_append hkind, Text.parts_append hport.blankless,
    Text.parts_append hprofile, parts_one, hport.check, Line.need, bind, Except.bind, pure,
    Except.pure]

end Grammar

section Sections

/-- The attributes among some lines. -/
def attributesOf (entries : List Entry) : List Attribute :=
  entries.filterMap fun e => if e.1 = 'a' then some (.ofLine e.2) else none

theorem attributesOf_append (a b : List Entry) :
    attributesOf (a ++ b) = attributesOf a ++ attributesOf b := by
  unfold attributesOf
  exact List.filterMap_append

/-- The lines behind the heading of a section: titles and keys come at most once. -/
structure Body (entries : List Entry) : Prop where
  plain : ∀ e ∈ entries, e.1 ≠ 'm'
  connections : ∀ e ∈ entries, e.1 = 'c' → ConnectionText e.2
  bandwidths : ∀ e ∈ entries, e.1 = 'b' → BandwidthText e.2
  once : ∀ key ∈ ['i', 'k'], (entries.map Prod.fst).count key ≤ 1

variable {r : Reading} {h : Heading} {key : Char} {value : Text} {entries : List Entry}

/-- A body may have nothing but attributes. -/
theorem Body.of_attributes (h : ∀ e ∈ entries, e.1 = 'a') : Body entries where
  plain := fun e he hkey => absurd ((h e he).symm.trans hkey) (by decide)
  connections := fun e he hkey => absurd ((h e he).symm.trans hkey) (by decide)
  bandwidths := fun e he hkey => absurd ((h e he).symm.trans hkey) (by decide)
  once := by
    intro key hkey
    have hnot : key ∉ entries.map Prod.fst := by
      intro hmem
      obtain ⟨e, he, rfl⟩ := List.mem_map.mp hmem
      rw [h e he] at hkey
      exact absurd hkey (by decide)
    rw [List.count_eq_zero.mpr hnot]
    omega

/-- Only titles and keys are claimed within a medium. -/
theorem claim_medium (hr : r.heading = some h) (hfresh : key ∈ ['i', 'k'] → key ∉ r.keys)
    (n : Nat) : r.claim ⟨n, key, value⟩ = .ok () := by
  unfold Reading.claim
  by_cases hkey : key ∈ ['i', 'k']
  · have hno : r.keys.contains key = false :=
      Bool.eq_false_iff.mpr fun hmem => hfresh hkey (List.contains_iff_mem.mp hmem)
    split
    · rfl
    · rw [hno]
      rfl
  · have hnone : r.once? key = none := by
      unfold Reading.once?
      simp only [hr, Option.isSome_some, if_true]
      split
      · exact absurd (by decide) hkey
      · exact absurd (by decide) hkey
      · rfl
    rw [hnone]

theorem keep_medium (hr : r.heading = some h) (n : Nat) :
    r.keep ⟨n, key, value⟩ =
      { r with
        attributes := (attributesOf [(key, value)]).reverse ++ r.attributes
        keys := r.keys.insert key } := by
  unfold Reading.keep attributesOf
  by_cases hkey : key = 'a'
  · simp [hkey]
  · simp [hkey, hr]

/-- The body of a section leaves its attributes, the latest first. -/
theorem reads_body (hr : r.heading = some h) (hplain : ∀ e ∈ entries, e.1 ≠ 'm')
    (hconnections : ∀ e ∈ entries, e.1 = 'c' → ConnectionText e.2)
    (hbandwidths : ∀ e ∈ entries, e.1 = 'b' → BandwidthText e.2)
    (honce : ∀ key ∈ ['i', 'k'], (r.keys ++ entries.map Prod.fst).count key ≤ 1) :
    ∃ keys, Reads r entries
      { r with
        attributes := (attributesOf entries).reverse ++ r.attributes
        keys := keys } := by
  induction entries generalizing r with
  | nil => exact ⟨r.keys, Reads.nil r⟩
  | cons e entries ih =>
    obtain ⟨key, value⟩ := e
    have hclaim : ∀ n, r.claim ⟨n, key, value⟩ = .ok () := by
      refine fun n => claim_medium hr (fun hkey hmem => ?_) n
      have hcount := honce key hkey
      rw [List.map_cons, List.count_append, List.count_cons_self] at hcount
      have := List.count_pos_iff.mpr hmem
      omega
    have hcheck : ∀ n, (if r.heading.isSome then Line.checkMedium ⟨n, key, value⟩
        else Line.checkSession (r.keys.contains 't') ⟨n, key, value⟩) = .ok () := by
      intro n
      rw [hr]
      refine (if_pos rfl).trans ?_
      unfold Line.checkMedium
      split
      · rename_i hkey
        exact (hconnections _ List.mem_cons_self hkey).check n
      · rename_i hkey
        exact (hbandwidths _ List.mem_cons_self hkey).check n
      · rfl
    have hfirst := Reads.keep (hplain _ List.mem_cons_self) hclaim hcheck
    rw [keep_medium hr] at hfirst
    have hrest : ∀ key' ∈ ['i', 'k'],
        (r.keys.insert key ++ entries.map Prod.fst).count key' ≤ 1 := by
      intro key' hkey'
      have hcount : (r.keys ++ key :: entries.map Prod.fst).count key' ≤ 1 := honce key' hkey'
      rw [List.count_append, List.count_cons] at hcount
      have hinsert : (r.keys.insert key).count key' ≤
          r.keys.count key' + if key == key' then 1 else 0 := by
        by_cases hmem : key ∈ r.keys
        · rw [List.insert_of_mem hmem]
          omega
        · refine Nat.le_of_eq ?_
          rw [List.insert_of_not_mem hmem, List.count_cons]
      rw [List.count_append]
      omega
    obtain ⟨keys, hkeys⟩ := ih (r := { r with
        attributes := (attributesOf [(key, value)]).reverse ++ r.attributes
        keys := r.keys.insert key }) hr
      (fun e he => hplain e (List.mem_cons_of_mem _ he))
      (fun e he => hconnections e (List.mem_cons_of_mem _ he))
      (fun e he => hbandwidths e (List.mem_cons_of_mem _ he)) hrest
    refine ⟨keys, ?_⟩
    have hattributes : attributesOf ((key, value) :: entries) =
        attributesOf [(key, value)] ++ attributesOf entries :=
      attributesOf_append [(key, value)] entries
    have hall := hfirst.append hkeys
    rw [hattributes, List.reverse_append, List.append_assoc]
    exact hall

/-- A section is kept behind those that were there. -/
theorem reads_section {body : List Entry} (hvalue : HeadingText h value) (hbody : Body body) :
    ∃ r', Reads r (('m', value) :: body) r' ∧ r'.name = r.name ∧
      r'.sections = r.sections ++ [⟨some h, attributesOf body⟩] := by
  have hnext : ∀ n, r.next ⟨n, 'm', value⟩ =
      .ok ⟨r.name, r.openSection :: r.closed, some h, [], []⟩ := by
    intro n
    rw [Reading.next, hvalue.parse]
    rfl
  obtain ⟨keys, hkeys⟩ := reads_body (r := ⟨r.name, r.openSection :: r.closed, some h, [], []⟩) rfl
    hbody.plain hbody.connections hbody.bandwidths hbody.once
  refine ⟨_, (Reads.next hnext).append hkeys, rfl, ?_⟩
  simp only [Reading.sections, Reading.openSection, List.append_nil, List.reverse_reverse,
    List.reverse_cons, List.append_assoc, List.cons_append, List.nil_append]

/-- An attribute with its value. -/
def attributeEntry (name : String) (value : Text) : Entry := ('a', name.toList ++ ':' :: value)

/-- The control of a session, which goes without saying if it is empty. -/
def controlEntries (control : Text) : List Entry :=
  if control = [] then [] else [attributeEntry "control" control]

/-- The lines of the session leave its name and its control. -/
theorem reads_session (name control : Text) {origin times : Text} (horigin : OriginText origin)
    (htimes : TimeText times) :
    ∃ r, Reads Reading.start
        (('o', origin) :: ('s', name) :: ('t', times) :: controlEntries control) r ∧
      r.name = name ∧ r.sections = [⟨none, attributesOf (controlEntries control)⟩] := by
  have ho : Reads Reading.start [('o', origin)] ⟨[], [], none, [], ['o']⟩ :=
    Reads.keep (by decide) (fun _ => rfl) horigin.check
  have hs : Reads ⟨[], [], none, [], ['o']⟩ [('s', name)] ⟨name, [], none, [], ['s', 'o']⟩ :=
    Reads.keep (by decide) (fun _ => rfl) fun _ => rfl
  have ht : Reads ⟨name, [], none, [], ['s', 'o']⟩ [('t', times)]
      ⟨name, [], none, [], ['t', 's', 'o']⟩ :=
    Reads.keep (by decide) (fun _ => rfl) htimes.check
  have hhead := (ho.append hs).append ht
  unfold controlEntries
  split
  · exact ⟨_, hhead, rfl, rfl⟩
  · have ha : Reads ⟨name, [], none, [], ['t', 's', 'o']⟩ [attributeEntry "control" control]
        ⟨name, [], none, [.ofLine ("control".toList ++ ':' :: control)], ['a', 't', 's', 'o']⟩ :=
      Reads.keep (by decide) (fun _ => rfl) fun _ => rfl
    exact ⟨_, hhead.append ha, rfl, rfl⟩

end Sections

end Rtsp.Description
