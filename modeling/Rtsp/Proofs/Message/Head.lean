import Rtsp.Decoder
import Rtsp.Proofs.Text.Line

/-!
The head of a message: its start line, its header and an empty line. A header whose names and
values are trimmed and stay on their lines is read back field by field, and the body length that a
head announces is the first value of its Content-Length. A message with a body has such a field
behind those of its own, which tells the length of the body in bytes.
-/
namespace Rtsp

namespace Header

/-- The name and the value are as a reader leaves them, and the name ends at the colon. -/
structure Field.Clean (f : Field) : Prop where
  trimmedName : Text.trim f.name = f.name
  trimmedValue : Text.trim f.value = f.value
  unbrokenName : Text.Unbroken f.name
  unbrokenValue : Text.Unbroken f.value
  whole : ':' ∉ f.name

theorem Field.clean_iff (f : Field) :
    f.Clean ↔ Text.trim f.name = f.name ∧ Text.trim f.value = f.value ∧ Text.Unbroken f.name ∧
      Text.Unbroken f.value ∧ ':' ∉ f.name :=
  ⟨fun ⟨h₁, h₂, h₃, h₄, h₅⟩ => ⟨h₁, h₂, h₃, h₄, h₅⟩,
    fun ⟨h₁, h₂, h₃, h₄, h₅⟩ => ⟨h₁, h₂, h₃, h₄, h₅⟩⟩

instance (f : Field) : Decidable f.Clean := decidable_of_iff _ f.clean_iff.symm

/-- A field that is read back. Only at the ends of its texts does a carriage return count. -/
structure Field.Legible (f : Field) : Prop where
  trimmedName : Text.trim f.name = f.name
  trimmedValue : Text.trim f.value = f.value
  oneLineName : Text.OneLine f.name
  oneLineValue : Text.OneLine f.value
  whole : ':' ∉ f.name

theorem Field.Clean.legible {f : Field} (hf : f.Clean) : f.Legible :=
  ⟨hf.trimmedName, hf.trimmedValue, hf.unbrokenName.oneLine, hf.unbrokenValue.oneLine, hf.whole⟩

/-- A field on its line, without the end of the line. -/
def Field.entry (f : Field) : Text := f.name ++ ':' :: ' ' :: f.value

def lengthName : Text := "Content-Length".toList

/-- The header on the wire: with a body, its length is told at the end. -/
def told (h : Header) : Option Text → Header
  | none => h
  | some body => h.add lengthName (Text.decimal (Text.Utf8.size body))

/-- A start line, the header and the empty line. -/
def head (h : Header) (start : Text) : Text :=
  (start :: h.map Field.entry).flatMap (· ++ ['\r', '\n']) ++ ['\r', '\n']

variable {f : Field} {h : Header} {start : Text}

theorem Field.Legible.oneLine_entry (hf : f.Legible) : Text.OneLine f.entry := by
  apply Text.oneLine_append hf.oneLineName
  apply Text.oneLine_cons (by decide)
  exact Text.oneLine_cons (by decide) hf.oneLineValue

theorem Field.entry_ne_nil (f : Field) : f.entry ≠ [] := by
  simp [Field.entry]

theorem Field.Legible.field?_entry (hf : f.Legible) : field? f.entry = some f := by
  have hvalue : Text.trim (' ' :: f.value) = f.value := by
    rw [Text.trim_cons_of_isBlank (by decide), hf.trimmedValue]
  unfold field? Field.entry
  rw [Text.cut?_append hf.whole, Option.map_some, hf.trimmedName, hvalue]

theorem mapM_field?_entry (hc : ∀ f ∈ h, f.Legible) : (h.map Field.entry).mapM field? = some h := by
  induction h with
  | nil => rfl
  | cons f h ih =>
    have hf := (hc f List.mem_cons_self).field?_entry
    have hrest := ih fun g hg => hc g (List.mem_cons_of_mem f hg)
    simp only [List.map_cons, List.mapM_cons, hf, hrest, Option.pure_def, Option.bind_eq_bind,
      Option.bind_some]

/-- A legible header is read back from its lines. -/
theorem ofLines_entries (hc : ∀ f ∈ h, f.Legible) : ofLines (h.map Field.entry ++ [[]]) = .ok h := by
  have htake : (h.map Field.entry ++ [[]]).takeWhile (· != []) = h.map Field.entry := by
    rw [List.takeWhile_append_of_pos]
    · simp
    · intro line hline
      obtain ⟨f, -, rfl⟩ := List.mem_map.mp hline
      simpa using f.entry_ne_nil
  simp only [ofLines, htake, mapM_field?_entry hc]

theorem value?_cons (f : Field) (h : Header) (name : Text) :
    Header.value? (f :: h) name = if f.isNamed name then some f.value else h.value? name := by
  cases hn : f.isNamed name <;> simp [value?, hn]

theorem value?_append_of_unnamed {name : Text} (hn : ∀ f ∈ h, f.isNamed name = false) (g : Header) :
    Header.value? (h ++ g) name = g.value? name := by
  induction h with
  | nil => rfl
  | cons f h ih =>
    have hf := hn f List.mem_cons_self
    have hrest := ih fun g hg => hn g (List.mem_cons_of_mem f hg)
    rw [List.cons_append, value?_cons, hf, hrest]
    rfl

/-- What the length field of a head says is the first value of that name. -/
theorem lengthField?_entries (hc : ∀ f ∈ h, f.Legible) :
    Decoder.lengthField? (h.map Field.entry ++ [[]]) =
      (h.value? lengthName).map (' ' :: ·) := by
  induction h with
  | nil => rfl
  | cons f h ih =>
    have hf := hc f List.mem_cons_self
    have hrest := ih fun g hg => hc g (List.mem_cons_of_mem f hg)
    have hcut : Text.cut? ':' f.entry = some (f.name, ' ' :: f.value) := Text.cut?_append hf.whole _
    rw [List.map_cons, List.cons_append, Decoder.lengthField?, hcut]
    change (if Text.sameName (Text.trim f.name) lengthName then _ else _) = _
    rw [hf.trimmedName, value?_cons, Field.isNamed]
    cases Text.sameName f.name lengthName with
    | true => rfl
    | false => exact hrest

/-- A field with a word for its name. -/
theorem legible_of_word {name value : Text} (hname : ∀ c ∈ name, Text.isBlank c = false)
    (hwhole : ':' ∉ name) (htrim : Text.trim value = value) (hvalue : Text.OneLine value) :
    (Field.mk name value).Legible where
  trimmedName := Text.trim_of_blankless hname
  trimmedValue := htrim
  oneLineName := Text.oneLine_of_blankless hname
  oneLineValue := hvalue
  whole := hwhole

/-- A field in whose name and value there are no blanks. -/
theorem legible_of_blankless {name value : Text} (hname : ∀ c ∈ name, Text.isBlank c = false)
    (hwhole : ':' ∉ name) (hvalue : ∀ c ∈ value, Text.isBlank c = false) :
    (Field.mk name value).Legible :=
  legible_of_word hname hwhole (Text.trim_of_blankless hvalue) (Text.oneLine_of_blankless hvalue)

theorem legible_length (n : Nat) : (Field.mk lengthName (Text.decimal n)).Legible :=
  legible_of_blankless (by decide) (by decide) fun _ hc => Text.isBlank_of_mem_decimal hc

theorem legible_told (hc : ∀ f ∈ h, f.Legible) (body : Option Text) :
    ∀ f ∈ h.told body, f.Legible := by
  cases body with
  | none => exact hc
  | some body =>
    intro f hf
    rcases List.mem_append.mp hf with hf | hf
    · exact hc f hf
    · rw [List.mem_singleton.mp hf]
      exact legible_length _

theorem value?_told (hn : ∀ f ∈ h, f.isNamed lengthName = false) (body : Option Text) :
    (h.told body).value? lengthName = body.map fun b => Text.decimal (Text.Utf8.size b) := by
  cases body with
  | none =>
    have hnone := value?_append_of_unnamed hn []
    rw [List.append_nil] at hnone
    exact hnone
  | some body =>
    have hself : (Field.mk lengthName (Text.decimal (Text.Utf8.size body))).isNamed lengthName =
        true := Text.sameName_refl lengthName
    rw [told, add, value?_append_of_unnamed hn, value?_cons, if_pos hself, Option.map_some]

theorem lines_head (hs : Text.OneLine start) (hc : ∀ f ∈ h, f.Legible) :
    Text.lines (h.head start) = start :: (h.map Field.entry ++ [[]]) := by
  have hlines : ∀ l ∈ start :: h.map Field.entry, Text.OneLine l := by
    intro l hl
    rcases List.mem_cons.mp hl with rfl | hl
    · exact hs
    · obtain ⟨f, hf, rfl⟩ := List.mem_map.mp hl
      exact (hc f hf).oneLine_entry
  rw [head, Text.lines_flatMap _ hlines]
  rfl

/-- A head announces the length of the body that it was written for. -/
theorem bodyLength_head (hs : Text.OneLine start) (hc : ∀ f ∈ h, f.Legible)
    (hn : ∀ f ∈ h, f.isNamed lengthName = false) (body : Option Text)
    (hsize : Text.Utf8.size (body.getD []) < Text.bound 64) :
    Decoder.bodyLength ((h.told body).head start) = .ok (Text.Utf8.size (body.getD [])) := by
  have hlines := lines_head hs (legible_told hc body)
  have hfield := lengthField?_entries (legible_told hc body)
  rw [value?_told hn body] at hfield
  cases body with
  | none => simp only [Decoder.bodyLength, hlines, List.tail_cons, hfield]; rfl
  | some body =>
    have htrim : Text.trim (' ' :: Text.decimal (Text.Utf8.size body)) =
        Text.decimal (Text.Utf8.size body) := by
      rw [Text.trim_cons_of_isBlank (by decide),
        Text.trim_of_blankless fun c hc => Text.isBlank_of_mem_decimal hc]
    have hread : Text.natural? 64 (Text.decimal (Text.Utf8.size body)) =
        some (Text.Utf8.size body) := Text.natural?_decimal hsize
    simp only [Decoder.bodyLength, hlines, List.tail_cons, hfield, Option.map_some, htrim, hread,
      Option.getD_some]

theorem Field.line_eq (f : Field) : f.line = f.entry ++ ['\r', '\n'] := by
  simp [Field.line, Field.entry]

theorem text_eq_flatMap (h : Header) :
    h.text = (h.map Field.entry).flatMap (· ++ ['\r', '\n']) := by
  rw [text, List.flatMap_map]
  exact congrArg (List.flatMap · h) (funext Field.line_eq)

/-- Header and body on the wire are the rest of a head, and the body. -/
theorem startLine_withBody (h : Header) (start : Text) (body : Option Text) :
    start ++ ['\r', '\n'] ++ h.withBody body = (h.told body).head start ++ body.getD [] := by
  cases body with
  | none => simp [withBody, told, head, text_eq_flatMap]
  | some body =>
    simp only [withBody, told, head, add, text_eq_flatMap, Field.line_eq, List.map_append,
      List.map_cons, List.map_nil, List.flatMap_append, List.flatMap_cons, List.flatMap_nil,
      List.append_assoc, List.append_nil, Option.getD_some]
    rfl

end Header

end Rtsp
