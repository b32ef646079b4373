import Rtsp.Proofs.Decoder.Account
import Rtsp.Proofs.Message.Head

/-!
Where the framing of a message and its header part. The framing looks for a length field in all
lines behind the start line, up to the end of the head. The header is read up to the first empty
line, and that need not be the end: a head that ends with carriage returns may hold an empty line
without them. Where the header has a length field, both find it, and as many bytes are taken for the
body as it tells. Where it has none the hidden lines behind the first empty one decide; framing and
header agree there exactly if those announce nothing.
-/
namespace Rtsp

/-- The header and the body of a message. A frame has neither. -/
def Message.content? : Message → Option (Header × Option Text)
  | .response r => some (r.header, r.body)
  | .request r => some (r.header, r.body)
  | .frame _ => none

/-- The header of a message tells that its body was read from `n` bytes: by its length field, or by
having neither such a field nor a body. -/
def Header.Tells (h : Header) (body : Option Text) (n : Nat) : Prop :=
  match h.value? "Content-Length".toList with
  | some value => Text.natural? 64 value = some n
  | none => n = 0 ∧ body = none

namespace Decoder

/-- How long the body is that some lines announce. -/
def announced (lines : List Text) : Except ParseFault Nat :=
  match lengthField? lines with
  | none => .ok 0
  | some value =>
    match Text.natural? 64 (Text.trim value) with
    | some n => .ok n
    | none => .error .contentLength

/-- The lines of a head from its first empty one on, which are not part of the header. -/
def hiddenLines (head : Text) : List Text := (Text.lines head).tail.dropWhile (· != [])

theorem bodyLength_eq_announced (head : Text) :
    bodyLength head = announced (Text.lines head).tail :=
  rfl

section Lines

variable {lines : List Text} {header : Header}

theorem lengthField?_append (a b : List Text) :
    lengthField? (a ++ b) = (lengthField? a).or (lengthField? b) := by
  induction a with
  | nil => rfl
  | cons line a ih =>
    rw [List.cons_append, lengthField?, lengthField?]
    cases Text.cut? ':' line with
    | none => exact ih
    | some p =>
      dsimp only
      split
      · rfl
      · exact ih

/-- Among the lines of a header the framing finds what the header has under that name. -/
theorem lengthField?_of_mapM (h : lines.mapM Header.field? = some header) :
    (lengthField? lines).map Text.trim = header.value? Header.lengthName := by
  induction lines generalizing header with
  | nil =>
    rw [List.mapM_nil] at h
    obtain rfl := Option.some.inj h
    rfl
  | cons line lines ih =>
    obtain ⟨f, hf, rest, hrest, rfl⟩ := exists_of_mapM_cons h
    obtain ⟨⟨name, value⟩, hcut, rfl⟩ := Option.map_eq_some_iff.mp hf
    rw [lengthField?, hcut, Header.value?_cons]
    change Option.map _ (if Text.sameName (Text.trim name) Header.lengthName then _ else _) =
      if Text.sameName (Text.trim name) Header.lengthName then _ else _
    split
    · rfl
    · exact ih hrest

/-- The length field of a header is the one that counts, and without it the hidden lines count. -/
theorem lengthField?_of_ofLines (h : Header.ofLines lines = .ok header) :
    (lengthField? lines).map Text.trim =
      (header.value? Header.lengthName).or
        ((lengthField? (lines.dropWhile (· != []))).map Text.trim) := by
  have hsplit : lines = lines.takeWhile (· != []) ++ lines.dropWhile (· != []) :=
    List.takeWhile_append_dropWhile.symm
  rw [← lengthField?_of_mapM (Header.mapM_of_ofLines h), ← Option.map_or, ← lengthField?_append,
    ← hsplit]

theorem announced_eq_ok_iff {n : Nat} :
    announced lines = .ok n ↔
      match (lengthField? lines).map Text.trim with
      | none => n = 0
      | some value => Text.natural? 64 value = some n := by
  unfold announced
  cases lengthField? lines with
  | none => simp [eq_comm]
  | some value =>
    rw [Option.map_some]
    dsimp only
    cases Text.natural? 64 (Text.trim value) <;> simp

end Lines

/-- The header of a message is read from the lines of its head behind the start line. -/
theorem content_of_parse {head : Text} {body : Option Text} {m : Message}
    (h : parse head body = .ok m) :
    ∃ header, Header.ofLines (Text.lines head).tail = .ok header ∧
      m.content? = some (header, body) := by
  rcases exists_of_parse h with ⟨r, hr, rfl⟩ | ⟨r, hr, rfl⟩
  · obtain ⟨start, lines, hlines, -, hread, -⟩ := Response.exists_lines_of_parse hr
    exact ⟨r.header, by rw [hlines]; exact hread, rfl⟩
  · obtain ⟨start, lines, hlines, -, hread, -⟩ := Request.exists_lines_of_parse hr
    exact ⟨r.header, by rw [hlines]; exact hread, rfl⟩

/-- Framing and header of a message agree about its body exactly if the header has a length field,
or the hidden lines of the head announce no body; in the other case the body that was taken is as
long as the hidden lines announce. -/
theorem framing_agrees_iff {s : Bytes} {m : Message} {d : Decoder} {header : Header}
    {body : Option Text} (hd : decode ⟨s⟩ = (.message m, d))
    (hm : m.content? = some (header, body)) :
    ∃ head taken : Bytes, skip s = head ++ (taken ++ d.pending) ∧
      headLength? (skip s) = some head.length ∧ body = bodyOf taken ∧
      (header.value? "Content-Length".toList = none →
        announced (hiddenLines (Text.Utf8.lossy head)) = .ok taken.length) ∧
      (header.Tells body taken.length ↔
        (header.value? "Content-Length".toList).isSome ∨
          announced (hiddenLines (Text.Utf8.lossy head)) = .ok 0) := by
  have haccounts := accounts_decode s
  rw [hd] at haccounts
  dsimp only at haccounts
  generalize hskip : skip s = bytes at haccounts
  generalize hrest : d.pending = rest at haccounts
  cases haccounts with
  | kept _ settled => exact absurd settled id
  | frame channel high low payload rest measured => cases hm
  | text head taken rest ended announces made _ =>
    refine ⟨head, taken, rfl, ended, ?_⟩
    obtain ⟨header', hread, hcontent⟩ := content_of_parse (eq_ok_of_ofParse made)
    rw [hm, Option.some.injEq, Prod.mk.injEq] at hcontent
    obtain ⟨rfl, rfl⟩ := hcontent
    have hbodyNone : bodyOf taken = none ↔ taken.length = 0 := by
      simp [bodyOf, List.length_eq_zero_iff]
    rw [bodyLength_eq_announced, announced_eq_ok_iff, lengthField?_of_ofLines hread] at announces
    have hname : Header.lengthName = "Content-Length".toList := rfl
    rw [hname] at announces
    rw [Header.Tells]
    cases hvalue : header.value? "Content-Length".toList with
    | some value =>
      rw [hvalue] at announces
      exact ⟨rfl, by simp, fun _ => .inl rfl, fun _ => announces⟩
    | none =>
      rw [hvalue, Option.none_or] at announces
      have hhidden : announced (hiddenLines (Text.Utf8.lossy head)) = .ok taken.length :=
        announced_eq_ok_iff.mpr announces
      refine ⟨rfl, fun _ => hhidden, ?_⟩
      rw [hhidden, hbodyNone]
      simp

/-- A length with blanks around its name and a sign before its number, a body that ends like a head,
and the beginning of a frame behind it. -/
theorem framing_agrees_signed :
    let s := Text.Utf8.encode
      "\r\nRTSP/1.0 200 OK\r\ncontent-length : +7\r\nContent-Length: 1\r\n\r\nbye\r\n\r\n$".toList
    let r : Response := ⟨200, "OK".toList, [⟨"content-length".toList, "+7".toList⟩,
      ⟨"Content-Length".toList, "1".toList⟩], some "bye\r\n\r\n".toList⟩
    decode ⟨s⟩ = (.message (.response r), ⟨[Frame.marker]⟩) ∧
      (Message.response r).content? = some (r.header, r.body) ∧
      ∃ head taken : Bytes, skip s = head ++ (taken ++ [Frame.marker]) ∧
        headLength? (skip s) = some head.length ∧ r.body = bodyOf taken ∧
        (r.header.value? "Content-Length".toList = none →
          announced (hiddenLines (Text.Utf8.lossy head)) = .ok taken.length) ∧
        (r.header.Tells r.body taken.length ↔
          (r.header.value? "Content-Length".toList).isSome ∨
            announced (hiddenLines (Text.Utf8.lossy head)) = .ok 0) := by
  intro s r
  have hlook : decode ⟨s⟩ = (.message (.response r), ⟨[Frame.marker]⟩) := by decide +kernel
  exact ⟨hlook, rfl, framing_agrees_iff hlook rfl⟩

/-- A length field behind an empty line that is written without a carriage return: the body is taken
as it tells, while the header ends before it and tells of no body. -/
theorem framing_disagrees :
    let head := Text.Utf8.encode
      "RTSP/1.0 200 OK\r\nCSeq: 1\n\nContent-Length: 5\r\n\r\n".toList
    let body := Text.Utf8.encode "hello".toList
    let r : Response := ⟨200, "OK".toList, [⟨"CSeq".toList, "1".toList⟩], some "hello".toList⟩
    headLength? (head ++ body) = some head.length ∧
      decode ⟨head ++ body⟩ = (.message (.response r), ⟨[]⟩) ∧
      r.value? "Content-Length".toList = none ∧ ¬ r.header.Tells r.body body.length := by
  intro head body r
  have hvalue : r.header.value? "Content-Length".toList = none := by decide
  refine ⟨by decide +kernel, by decide +kernel, hvalue, ?_⟩
  rw [Header.Tells, hvalue]
  exact fun h => by cases h.2

end Decoder

end Rtsp
