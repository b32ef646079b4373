import Mathlib.Data.List.Perm.Basic
import Rtsp.Proofs.Text.Hexadecimal
import Rtsp.Proofs.Text.Trim
import Rtsp.Proofs.Transport.Written

/-!
A transport as a server may write it. The profile and the names of the parameters have any letter
case, the parameters come in any order, with others among them, with blanks around the semicolons
and with further transports behind a comma. However it is written, the same transport is read. What
a client writes is one of these spellings, but for the source, which is left out.
-/
namespace Rtsp.Transport

open Text (Blankless Padded SpellsHex blankless_append blankless_cons sameName trim)

/-- What a Transport header can tell besides its profile. -/
inductive Parameter where
  | clientPort (ports : UInt16 × UInt16)
  | serverPort (ports : UInt16 × UInt16)
  | interleaved (channels : UInt8 × UInt8)
  | ssrc (n : UInt32)
  | source (address : Text)

namespace Parameter

def name : Parameter → Text
  | clientPort _ => "client_port".toList
  | serverPort _ => "server_port".toList
  | interleaved _ => "interleaved".toList
  | ssrc _ => "ssrc".toList
  | source _ => "source".toList

def names : List Text :=
  ["client_port".toList, "server_port".toList, "interleaved".toList, "ssrc".toList,
    "source".toList]

theorem name_mem (p : Parameter) : p.name ∈ names := by
  cases p with
  | clientPort => exact .head _
  | serverPort => exact .tail _ (.head _)
  | interleaved => exact .tail _ (.tail _ (.head _))
  | ssrc => exact .tail _ (.tail _ (.tail _ (.head _)))
  | source => exact .tail _ (.tail _ (.tail _ (.tail _ (.head _))))

def set (th : Transport) : Parameter → Transport
  | clientPort ports => { th with clientPort := some ports }
  | serverPort ports => { th with serverPort := some ports }
  | interleaved channels => { th with interleaved := some channels }
  | ssrc n => { th with ssrc := some n }
  | source address => { th with source := some address }

/-- Two numbers with a dash between them; of two neighbours the first may do. -/
def SpellsPair (a b : Nat) (value : Text) : Prop :=
  value = pairText a b ∨ b = a + 1 ∧ value = Text.decimal a

/-- The values that mean the parameter. -/
def Written (value : Text) : Parameter → Prop
  | clientPort ports => SpellsPair ports.1.toNat ports.2.toNat value
  | serverPort ports => SpellsPair ports.1.toNat ports.2.toNat value
  | interleaved channels => SpellsPair channels.1.toNat channels.2.toNat value
  | ssrc n => SpellsHex n.toNat value
  | source address => value = address ∧ ',' ∉ address ∧ ';' ∉ address ∧ trim address = address

/-- The text names the parameter, in any letter case, and gives its value. -/
def Spells (p : Parameter) (t : Text) : Prop :=
  ∃ name value, t = name ++ '=' :: value ∧ sameName name p.name = true ∧ p.Written value

end Parameter

/-- The parameters that have a value. -/
def parameters (th : Transport) : List Parameter :=
  (th.clientPort.map .clientPort).toList ++ (th.serverPort.map .serverPort).toList ++
    (th.interleaved.map .interleaved).toList ++ (th.ssrc.map .ssrc).toList ++
    (th.source.map .source).toList

/-- A piece between two semicolons that has none of the names. -/
def Foreign (x : Text) : Prop :=
  ',' ∉ x ∧ ';' ∉ x ∧ ∀ p : Parameter, sameName (Text.cut '=' (trim x)).1 p.name = false

/-- The pieces tell the parameters, in this order, and there may be foreign ones between them. -/
inductive Parts : List Parameter → List Text → Prop where
  | nil : Parts [] []
  | own {p : Parameter} {t x : Text} {ps : List Parameter} {xs : List Text} (spelled : p.Spells t)
      (padded : Padded t x) (rest : Parts ps xs) : Parts (p :: ps) (x :: xs)
  | foreign {x : Text} {ps : List Parameter} {xs : List Text} (other : Foreign x)
      (rest : Parts ps xs) : Parts ps (x :: xs)

/-- The profiles, in any letter case. -/
def SpellsProfile (tcp : Bool) (t : Text) : Prop :=
  if tcp then Text.upper t = "RTP/AVP/TCP".toList
  else Text.upper t = "RTP/AVP".toList ∨ Text.upper t = "RTP/AVP/UDP".toList

/-- A text that means the transport: its profile and its parameters in any order, with blanks
around the semicolons, and whatever stands behind a comma. -/
def Spells (th : Transport) (text : Text) : Prop :=
  ∃ profile x ps xs tail, SpellsProfile th.tcp profile ∧ Padded profile x ∧
    ps.Perm th.parameters ∧ Parts ps xs ∧ (∀ c ∈ tail.head?, c = ',') ∧
    text = x ++ xs.flatMap (';' :: ·) ++ tail

section Values

variable {a b : Nat} {value : Text}

theorem Parameter.SpellsPair.blankless (h : SpellsPair a b value) : Blankless value := by
  obtain rfl | ⟨-, rfl⟩ := h
  · exact blankless_pairText a b
  · exact Text.blankless_decimal a

theorem Parameter.SpellsPair.not_mem (h : SpellsPair a b value) {c : Char}
    (hc : c.isDigit = false) (hdash : c ≠ '-') : c ∉ value := by
  obtain rfl | ⟨-, rfl⟩ := h
  · exact not_mem_pairText hc hdash a b
  · exact Text.not_mem_decimal hc a

theorem Parameter.SpellsPair.ne_nil (h : SpellsPair a b value) : value ≠ [] := by
  obtain rfl | ⟨-, rfl⟩ := h
  · exact List.append_ne_nil_of_right_ne_nil _ (List.cons_ne_nil _ _)
  · exact Text.decimal_ne_nil a

theorem Parameter.SpellsPair.pair? (h : SpellsPair a b value) {width : Nat}
    (ha : a < Text.bound width) (hb : b < Text.bound width) :
    Transport.pair? width value = some (a, b) := by
  obtain rfl | ⟨rfl, rfl⟩ := h
  · exact pair?_pairText ha hb
  · have hcut : Text.cut? '-' (Text.decimal a) = none :=
      Text.cut?_eq_none (Text.not_mem_decimal (by decide) a)
    simp only [Transport.pair?, Text.trim_of_blankless (Text.blankless_decimal a), hcut,
      Text.natural?_decimal ha, hb, if_true, bind, Option.bind]

theorem Parameter.SpellsPair.ports? {ports : UInt16 × UInt16}
    (h : SpellsPair ports.1.toNat ports.2.toNat value) :
    Transport.ports? value = some ports := by
  rw [Transport.ports?, h.pair? ports.1.toNat_lt ports.2.toNat_lt]
  simp

theorem Parameter.SpellsPair.channels? {channels : UInt8 × UInt8}
    (h : SpellsPair channels.1.toNat channels.2.toNat value) :
    Transport.channels? value = some channels := by
  rw [Transport.channels?, h.pair? channels.1.toNat_lt channels.2.toNat_lt]
  simp

theorem ssrc?_of_spellsHex {n : UInt32} (h : SpellsHex n.toNat value) : ssrc? value = some n := by
  rw [ssrc?, Text.trim_of_blankless h.blankless, h.hexNatural? n.toNat_lt]
  simp

end Values

section Spelling

namespace Parameter

variable {p : Parameter} {t value : Text}

theorem Written.not_mem (h : p.Written value) : ',' ∉ value ∧ ';' ∉ value := by
  cases p with
  | clientPort ports => exact ⟨SpellsPair.not_mem h (by decide) (by decide),
      SpellsPair.not_mem h (by decide) (by decide)⟩
  | serverPort ports => exact ⟨SpellsPair.not_mem h (by decide) (by decide),
      SpellsPair.not_mem h (by decide) (by decide)⟩
  | interleaved channels => exact ⟨SpellsPair.not_mem h (by decide) (by decide),
      SpellsPair.not_mem h (by decide) (by decide)⟩
  | ssrc n => exact ⟨SpellsHex.not_mem h (by decide), SpellsHex.not_mem h (by decide)⟩
  | source address =>
    obtain ⟨rfl, hcomma, hsemicolon, -⟩ := h
    exact ⟨hcomma, hsemicolon⟩

/-- There is no value, or its end can be seen. -/
theorem Written.endsVisibly (h : p.Written value) : value = [] ∨ Text.EndsVisibly value := by
  cases p with
  | clientPort ports => exact Or.inr (.of_blankless (SpellsPair.ne_nil h) (SpellsPair.blankless h))
  | serverPort ports => exact Or.inr (.of_blankless (SpellsPair.ne_nil h) (SpellsPair.blankless h))
  | interleaved channels =>
    exact Or.inr (.of_blankless (SpellsPair.ne_nil h) (SpellsPair.blankless h))
  | ssrc n => exact Or.inr (.of_blankless (SpellsHex.ne_nil h) (SpellsHex.blankless h))
  | source address =>
    obtain ⟨rfl, -, -, htrim⟩ := h
    by_cases hne : value = []
    · exact Or.inl hne
    · exact Or.inr (.of_trim hne htrim)

theorem lower_name (p : Parameter) : Text.lower p.name = p.name := by
  have hall : ∀ name ∈ names, Text.lower name = name := by decide
  exact hall p.name p.name_mem

theorem Spells.not_mem (h : p.Spells t) : ',' ∉ t ∧ ';' ∉ t := by
  obtain ⟨name, value, rfl, hname, hvalue⟩ := h
  obtain ⟨hcomma, hsemicolon⟩ := hvalue.not_mem
  have hall : ∀ name ∈ names, ∀ c ∈ [',', ';'], c.toLower ∉ Text.lower name := by decide
  have hclear := hall p.name p.name_mem
  exact ⟨List.not_mem_append (Text.not_mem_of_sameName hname (hclear ',' (by decide)))
      (List.not_mem_cons_of_ne_of_not_mem (by decide) hcomma),
    List.not_mem_append (Text.not_mem_of_sameName hname (hclear ';' (by decide)))
      (List.not_mem_cons_of_ne_of_not_mem (by decide) hsemicolon)⟩

theorem Spells.trim_eq (h : p.Spells t) : trim t = t := by
  obtain ⟨name, value, rfl, hname, hvalue⟩ := h
  have hall : ∀ name ∈ names, Blankless (Text.lower name) := by decide
  have hblank : Blankless name := Text.blankless_of_sameName hname (hall p.name p.name_mem)
  have hend : Text.EndsVisibly ('=' :: value) := by
    obtain rfl | hend := hvalue.endsVisibly
    · exact ⟨'=', rfl, by decide⟩
    · exact hend.append ['=']
  refine (hend.append name).trim fun c hc => ?_
  rw [List.head?_append] at hc
  cases name with
  | nil => exact Option.some.inj hc ▸ by decide
  | cons d name => exact Option.some.inj hc ▸ hblank d List.mem_cons_self

/-- Reading the text sets the parameter. -/
theorem Spells.put (h : p.Spells t) (th : Transport) : th.put t = p.set th := by
  obtain ⟨name, value, rfl, hsame, hvalue⟩ := h
  have hall : ∀ name ∈ names, '='.toLower ∉ Text.lower name := by decide
  have hequals : '=' ∉ name := Text.not_mem_of_sameName hsame (hall p.name p.name_mem)
  have hlower : Text.lower name = p.name :=
    (Text.lower_eq_of_sameName hsame).trans p.lower_name
  rw [Transport.put, Text.cut, Text.cut?_append hequals, Option.getD_some]
  cases p with
  | clientPort ports =>
    have hname : Text.lower name = "client_port".toList := hlower
    have hset : ({ th with clientPort := ports? value } : Transport) =
        (clientPort ports).set th := by
      rw [SpellsPair.ports? hvalue]
      rfl
    exact (if_pos hname).trans hset
  | serverPort ports =>
    have hname : Text.lower name = "server_port".toList := hlower
    have hset : ({ th with serverPort := ports? value } : Transport) =
        (serverPort ports).set th := by
      rw [SpellsPair.ports? hvalue]
      rfl
    refine (if_neg (by rw [hname]; decide)).trans ?_
    exact (if_pos hname).trans hset
  | interleaved channels =>
    have hname : Text.lower name = "interleaved".toList := hlower
    have hset : ({ th with interleaved := channels? value } : Transport) =
        (interleaved channels).set th := by
      rw [SpellsPair.channels? hvalue]
      rfl
    iterate 2 refine (if_neg (by rw [hname]; decide)).trans ?_
    exact (if_pos hname).trans hset
  | ssrc n =>
    have hname : Text.lower name = "ssrc".toList := hlower
    have hset : ({ th with ssrc := ssrc? value } : Transport) = (ssrc n).set th := by
      rw [ssrc?_of_spellsHex hvalue]
      rfl
    iterate 3 refine (if_neg (by rw [hname]; decide)).trans ?_
    exact (if_pos hname).trans hset
  | source address =>
    have hname : Text.lower name = "source".toList := hlower
    obtain ⟨rfl, -, -, htrim⟩ := hvalue
    have hset : ({ th with source := some (trim value) } : Transport) = (source value).set th := by
      rw [htrim]
      rfl
    iterate 4 refine (if_neg (by rw [hname]; decide)).trans ?_
    exact (if_pos hname).trans hset

end Parameter

/-- A piece that has none of the names changes nothing. -/
theorem Foreign.put {x : Text} (h : Foreign x) (th : Transport) : th.put (trim x) = th := by
  have hname : ∀ p : Parameter, Text.lower (Text.cut '=' (trim x)).1 ≠ p.name := by
    intro p heq
    have hsame : sameName (Text.cut '=' (trim x)).1 p.name = true := by
      rw [sameName, heq, p.lower_name, beq_self_eq_true]
    exact absurd hsame (by rw [h.2.2 p]; exact Bool.false_ne_true)
  exact (if_neg (hname (.clientPort (0, 0)))).trans ((if_neg (hname (.serverPort (0, 0)))).trans
    ((if_neg (hname (.interleaved (0, 0)))).trans ((if_neg (hname (.ssrc 0))).trans
      (if_neg (hname (.source []))))))

variable {ps : List Parameter} {xs : List Text}

theorem Parts.not_mem (h : Parts ps xs) {x : Text} (hx : x ∈ xs) : ',' ∉ x ∧ ';' ∉ x := by
  induction h with
  | nil => cases hx
  | own spelled padded rest ih =>
    rcases List.mem_cons.mp hx with rfl | hx
    · exact ⟨padded.not_mem (by decide) spelled.not_mem.1,
        padded.not_mem (by decide) spelled.not_mem.2⟩
    · exact ih hx
  | foreign other rest ih =>
    rcases List.mem_cons.mp hx with rfl | hx
    · exact ⟨other.1, other.2.1⟩
    · exact ih hx

/-- Reading the pieces sets the parameters one by one. -/
theorem Parts.foldl_put (h : Parts ps xs) (th : Transport) :
    (xs.map trim).foldl put th = ps.foldl Parameter.set th := by
  induction h generalizing th with
  | nil => rfl
  | own spelled padded rest ih =>
    rw [List.map_cons, List.foldl_cons, List.foldl_cons, padded.trim_eq, spelled.trim_eq,
      spelled.put, ih]
  | foreign other rest ih => rw [List.map_cons, List.foldl_cons, other.put, ih]

end Spelling

section Order

/-- The parameter has this value in the transport. -/
def Parameter.Holds (th : Transport) : Parameter → Prop
  | clientPort ports => th.clientPort = some ports
  | serverPort ports => th.serverPort = some ports
  | interleaved channels => th.interleaved = some channels
  | ssrc n => th.ssrc = some n
  | source address => th.source = some address

theorem holds_of_mem_parameters {th : Transport} {p : Parameter} (h : p ∈ th.parameters) :
    p.Holds th := by
  simp only [parameters, List.mem_append, Option.mem_toList, Option.map_eq_some_iff, or_assoc] at h
  rcases h with ⟨_, h, rfl⟩ | ⟨_, h, rfl⟩ | ⟨_, h, rfl⟩ | ⟨_, h, rfl⟩ | ⟨_, h, rfl⟩ <;> exact h

/-- Two parameters of one transport are set in either order: those of one name are the same. -/
theorem set_comm {th : Transport} {p q : Parameter} (hp : p.Holds th) (hq : q.Holds th)
    (z : Transport) : q.set (p.set z) = p.set (q.set z) := by
  cases p <;> cases q <;>
    first
    | rfl
    | rw [Option.some.inj (Eq.trans (Eq.symm hp) hq)]

/-- The parameters make the transport, in whatever order they are set. -/
theorem foldl_set {th : Transport} {ps : List Parameter} (h : ps.Perm th.parameters) :
    ps.foldl Parameter.set { empty with tcp := th.tcp } = th := by
  have hcomm : ∀ p ∈ ps, ∀ q ∈ ps, ∀ z, q.set (p.set z) = p.set (q.set z) := fun p hp q hq z =>
    set_comm (holds_of_mem_parameters (h.mem_iff.mp hp)) (holds_of_mem_parameters (h.mem_iff.mp hq))
      z
  rw [h.foldl_eq' hcomm]
  obtain ⟨tcp, clientPort, serverPort, interleaved, ssrc, source⟩ := th
  cases clientPort <;> cases serverPort <;> cases interleaved <;> cases ssrc <;> cases source <;>
    rfl

end Order

section Reading

/-- A text is split at separators that its pieces do not have. -/
theorem splitOn_flatMap {sep : Char} {x : Text} {xs : List Text} (hx : sep ∉ x)
    (hxs : ∀ y ∈ xs, sep ∉ y) : (x ++ xs.flatMap (sep :: ·)).splitOn sep = x :: xs := by
  induction xs generalizing x with
  | nil => rw [List.flatMap_nil, List.append_nil, List.splitOn_eq_singleton hx]
  | cons y ys ih =>
    have hrest := ih (hxs y List.mem_cons_self) fun z hz => hxs z (List.mem_cons_of_mem y hz)
    rw [List.flatMap_cons, List.cons_append, List.splitOn_append_cons_self,
      List.splitOn_eq_singleton hx, hrest, List.singleton_append]

/-- What stands behind a comma is cut off. -/
theorem cut_comma {body tail : Text} (hbody : ',' ∉ body) (htail : ∀ c ∈ tail.head?, c = ',') :
    (Text.cut ',' (body ++ tail)).1 = body := by
  cases tail with
  | nil => rw [List.append_nil, Text.cut, Text.cut?_eq_none hbody, Option.getD_none]
  | cons c after =>
    rw [htail c rfl, Text.cut, Text.cut?_append hbody, Option.getD_some]

variable {tcp : Bool} {profile : Text}

theorem SpellsProfile.mem (h : SpellsProfile tcp profile) {c : Char} (hc : c ∈ profile) :
    c.toUpper ∈ "RTP/AVP/TCPUDP".toList := by
  have hmem : c.toUpper ∈ Text.upper profile := List.mem_map_of_mem hc
  cases tcp with
  | true =>
    rw [show Text.upper profile = "RTP/AVP/TCP".toList from h] at hmem
    exact (by decide : "RTP/AVP/TCP".toList ⊆ "RTP/AVP/TCPUDP".toList) hmem
  | false =>
    rcases (h : _ = "RTP/AVP".toList ∨ _ = "RTP/AVP/UDP".toList) with h | h
    · rw [h] at hmem
      exact (by decide : "RTP/AVP".toList ⊆ "RTP/AVP/TCPUDP".toList) hmem
    · rw [h] at hmem
      exact (by decide : "RTP/AVP/UDP".toList ⊆ "RTP/AVP/TCPUDP".toList) hmem

theorem SpellsProfile.blankless (h : SpellsProfile tcp profile) : Blankless profile := by
  have hall : Blankless "RTP/AVP/TCPUDP".toList := by decide
  intro c hc
  cases hblank : Text.isBlank c with
  | false => rfl
  | true =>
    have hmem := h.mem hc
    rw [Text.toUpper_of_isBlank hblank] at hmem
    exact hblank.symm.trans (hall c hmem)

/-- The profile tells whether it is the control connection that carries the packets. -/
theorem SpellsProfile.upper (h : SpellsProfile tcp profile) :
    "RTP/".toList.isPrefixOf (Text.upper profile) = true ∧
      "/TCP".toList.isSuffixOf (Text.upper profile) = tcp := by
  cases tcp with
  | true =>
    rw [show Text.upper profile = "RTP/AVP/TCP".toList from h]
    decide
  | false =>
    rcases (h : _ = "RTP/AVP".toList ∨ _ = "RTP/AVP/UDP".toList) with h | h <;> rw [h] <;> decide

/-- A transport is read from each of its spellings. -/
theorem parse?_of_spells {th : Transport} {text : Text} (h : th.Spells text) :
    parse? text = some th := by
  obtain ⟨profile, x, ps, xs, tail, hprofile, hpadded, hperm, hparts, htail, rfl⟩ := h
  have hnot : ∀ c ∈ [',', ';'], c ∉ x := by
    have hall : ∀ c ∈ [',', ';'], Text.isBlank c = false ∧
        c.toUpper ∉ "RTP/AVP/TCPUDP".toList := by decide
    exact fun c hc => hpadded.not_mem (hall c hc).1 fun hmem => (hall c hc).2 (hprofile.mem hmem)
  have hbody : ',' ∉ x ++ xs.flatMap (';' :: ·) := by
    refine List.not_mem_append (hnot ',' (by decide)) fun hmem => ?_
    obtain ⟨y, hy, hmem⟩ := List.mem_flatMap.mp hmem
    exact List.not_mem_cons_of_ne_of_not_mem (by decide) (hparts.not_mem hy).1 hmem
  have hsplit : (x ++ xs.flatMap (';' :: ·)).splitOn ';' = x :: xs :=
    splitOn_flatMap (hnot ';' (by decide)) fun y hy => (hparts.not_mem hy).2
  have htrim : trim x = profile :=
    hpadded.trim_eq.trans (Text.trim_of_blankless hprofile.blankless)
  obtain ⟨hstart, htcp⟩ := hprofile.upper
  simp only [parse?, cut_comma hbody htail, hsplit, List.map_cons, htrim, hstart, htcp, if_true,
    hparts.foldl_put, foldl_set hperm]

end Reading

section Serializing

/-- The value that a client writes for the parameter. -/
def Parameter.value : Parameter → Text
  | clientPort ports => pairText ports.1.toNat ports.2.toNat
  | serverPort ports => pairText ports.1.toNat ports.2.toNat
  | interleaved channels => pairText channels.1.toNat channels.2.toNat
  | ssrc n => Text.padded 8 (Text.upper (Text.hexadecimal n.toNat))
  | source address => address

def Parameter.text (p : Parameter) : Text := p.name ++ '=' :: p.value

variable {th : Transport}

theorem parameter_eq {α : Type} {name : String} {write : α → Text} (make : α → Parameter)
    (hmake : ∀ v, (make v).name = name.toList ∧ (make v).value = write v) (value : Option α) :
    parameter name write value =
      ((value.map make).toList.map Parameter.text).flatMap (';' :: ·) := by
  cases value with
  | none => rfl
  | some v =>
    rw [Option.map_some, Option.toList_some, List.map_singleton, List.flatMap_singleton,
      Parameter.text, (hmake v).1, (hmake v).2]
    rfl

theorem text_eq (hsource : th.source = none) :
    th.text = profile th.tcp ++ (th.parameters.map Parameter.text).flatMap (';' :: ·) := by
  rw [parameters, hsource, Option.map_none, Option.toList_none, List.append_nil]
  simp only [List.map_append, List.flatMap_append, ← List.append_assoc]
  have hjoin : ∀ {a b c d : Text}, a = b → c = d → a ++ c = b ++ d := by
    rintro a _ c _ rfl rfl
    rfl
  refine hjoin (hjoin (hjoin (hjoin rfl ?clientPort) ?serverPort) ?interleaved) ?ssrc
  case clientPort => exact parameter_eq .clientPort (fun _ => ⟨rfl, rfl⟩) th.clientPort
  case serverPort => exact parameter_eq .serverPort (fun _ => ⟨rfl, rfl⟩) th.serverPort
  case interleaved => exact parameter_eq .interleaved (fun _ => ⟨rfl, rfl⟩) th.interleaved
  case ssrc => exact parameter_eq .ssrc (fun _ => ⟨rfl, rfl⟩) th.ssrc

theorem Parameter.Holds.spells_text {p : Parameter} (h : p.Holds th) (hsource : th.source = none) :
    p.Spells p.text := by
  refine ⟨p.name, p.value, rfl, Text.sameName_refl p.name, ?_⟩
  cases p with
  | clientPort ports => exact Or.inl rfl
  | serverPort ports => exact Or.inl rfl
  | interleaved channels => exact Or.inl rfl
  | ssrc n => exact Text.spellsHex_padded 8 n.toNat
  | source address =>
    rw [Holds, hsource] at h
    cases h

theorem foreign_unicast : Foreign "unicast".toList := by
  refine ⟨by decide, by decide, fun p => ?_⟩
  have hall : ∀ name ∈ Parameter.names,
      sameName (Text.cut '=' (trim "unicast".toList)).1 name = false := by decide
  exact hall p.name p.name_mem

theorem parts_map_text {ps : List Parameter} (h : ∀ p ∈ ps, p.Spells p.text) :
    Parts ps (ps.map Parameter.text) := by
  induction ps with
  | nil => exact .nil
  | cons p ps ih =>
    exact .own (h p List.mem_cons_self) (Padded.refl p.text)
      (ih fun q hq => h q (List.mem_cons_of_mem p hq))

/-- What a client writes is one of the spellings, with the word `unicast` as a foreign piece. -/
theorem spells_text (hsource : th.source = none) : th.Spells th.text := by
  have hparts : Parts th.parameters (th.parameters.map Parameter.text) :=
    parts_map_text fun p hp => (holds_of_mem_parameters hp).spells_text hsource
  refine ⟨if th.tcp then "RTP/AVP/TCP".toList else "RTP/AVP".toList, _, _, _, [], ?_,
    Padded.refl _, List.Perm.refl _, .foreign foreign_unicast hparts, by simp, ?_⟩
  · cases th.tcp with
    | true => exact (by decide : Text.upper "RTP/AVP/TCP".toList = "RTP/AVP/TCP".toList)
    | false => exact Or.inl (by decide)
  · rw [text_eq hsource, List.append_nil, List.flatMap_cons, ← List.append_assoc]
    cases th.tcp <;> rfl

end Serializing

/-- However a transport is written, with its parameters in any order and any letter case and with
others among them, it is read as it was; and what a client writes is read as the transport without
its source. -/
theorem parse?_spelled (th : Transport) :
    (∀ text, th.Spells text → parse? text = some th) ∧
      parse? th.text = some { th with source := none } := by
  have hwritten : ({ th with source := none } : Transport).Spells th.text := spells_text rfl
  exact ⟨fun _ h => parse?_of_spells h, parse?_of_spells hwritten⟩

/-- Out of order, in mixed case, with a lone port, a foreign word and a second transport. -/
theorem parse?_scrambled :
    parse? "rtp/Avp/uDP ; SSRC=0beEf;mode=play\t;Source=10.0.0.1; client_PORT=4588,RTP/AVP".toList =
      some ⟨false, some (4588, 4589), none, none, some 0xBEEF, some "10.0.0.1".toList⟩ := by
  have hblank : ∀ t, Text.AllBlank t → ∀ x, Padded x (t ++ x) := fun t ht x =>
    ⟨t, [], ht, fun _ hc => absurd hc List.not_mem_nil, by rw [List.append_nil]⟩
  refine (parse?_spelled _).1 _ ⟨"rtp/Avp/uDP".toList, "rtp/Avp/uDP ".toList,
    [.ssrc 0xBEEF, .source "10.0.0.1".toList, .clientPort (4588, 4589)],
    [" SSRC=0beEf".toList, "mode=play\t".toList, "Source=10.0.0.1".toList,
      " client_PORT=4588".toList], ",RTP/AVP".toList, Or.inr (by decide), ?profile, ?order,
    .own ?ssrc (hblank " ".toList (by decide) _) (.foreign ?mode (.own ?source (Padded.refl _)
      (.own ?clientPort (hblank " ".toList (by decide) _) .nil))), ?tail, by decide⟩
  case profile =>
    exact ⟨[], " ".toList, by decide, by decide, by decide⟩
  case order =>
    exact List.perm_append_singleton (Parameter.clientPort (4588, 4589))
      [.ssrc 0xBEEF, .source "10.0.0.1".toList]
  case tail =>
    rintro _ ⟨⟩
    rfl
  case ssrc => exact ⟨"SSRC".toList, "0beEf".toList, by decide, by decide, 1, by decide⟩
  case source =>
    exact ⟨"Source".toList, "10.0.0.1".toList, by decide, by decide, rfl, by decide, by decide,
      by decide⟩
  case clientPort =>
    exact ⟨"client_PORT".toList, "4588".toList, by decide, by decide, Or.inr ⟨rfl, by decide⟩⟩
  case mode =>
    refine ⟨by decide, by decide, fun p => ?_⟩
    have hall : ∀ name ∈ Parameter.names,
        sameName (Text.cut '=' (trim "mode=play\t".toList)).1 name = false := by decide
    exact hall p.name p.name_mem

end Rtsp.Transport
