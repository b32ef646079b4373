import Rtsp.Proofs.Message.Heard

/-!
Messages that were read, written, and read again. Exactly the legible messages without a body come
back from what is written of them, and every message that is read from some text is one of these:
its words, its reason, its names and its values are as a reader leaves them. So reading and writing
brings every text that is read at all into one form, in which it stays.
-/
namespace Rtsp

namespace Response

variable {r : Response}

theorem parse_text (hr : r.Legible) (hbody : r.body = none) : parse r.text = .ok r := by
  have htext : r.text = r.header.head r.statusLine := by
    rw [text_eq_head, hbody]
    exact List.append_nil _
  rw [htext, parse_head hr.trimmed hr.oneLine hr.fields, ← hbody]

theorem parse_text_iff : parse r.text = .ok r ↔ r.Legible ∧ r.body = none :=
  ⟨legible_of_parse, fun hr => parse_text hr.1 hr.2⟩

end Response

namespace Request

/-- The words of the request line and the fields of a request are read back. -/
structure Legible (r : Request) : Prop where
  words : ∀ w ∈ [r.method, r.uri, r.version], w ≠ [] ∧ Text.Blankless w
  version : "RTSP/".toList.isPrefixOf r.version = true
  fields : ∀ f ∈ r.header, f.Legible

variable {r : Request}

theorem requestLine_eq (r : Request) :
    r.requestLine = [' '].intercalate [r.method, r.uri, r.version] := by
  rw [List.intercalate_cons_cons, List.intercalate_cons_cons, List.intercalate_singleton,
    requestLine]
  simp only [List.append_assoc, List.singleton_append]

theorem Legible.words_requestLine (hr : r.Legible) :
    Text.words r.requestLine = [r.method, r.uri, r.version] := by
  rw [requestLine_eq, Text.words_intercalate (by decide) hr.words]

theorem Legible.oneLine_requestLine (hr : r.Legible) : Text.OneLine r.requestLine := by
  rw [requestLine_eq]
  exact Text.oneLine_intercalate (by decide) fun w hw => Text.oneLine_of_blankless (hr.words w hw).2

theorem legible_of_parse {t : Text} (h : parse t = .ok r) : r.Legible ∧ r.body = none := by
  obtain ⟨start, lines, hlines, hwords, hread, hbody⟩ := exists_lines_of_parse h
  have hone : ∀ l ∈ lines, Text.OneLine l := fun l hl =>
    Text.oneLine_of_mem_lines (hlines ▸ List.mem_cons_of_mem start hl)
  refine ⟨⟨fun w hw => ?_, ?_, Header.legible_ofLines hone hread⟩, hbody⟩
  · rw [← hwords] at hw
    exact ⟨bne_iff_ne.mp (List.mem_filter.mp hw).2, Text.blankless_of_mem_words hw⟩
  · unfold parse at h
    simp only [hlines, hwords] at h
    split at h
    · assumption
    · cases h

theorem parse_text (hr : r.Legible) (hbody : r.body = none) : parse r.text = .ok r := by
  have htext : r.text = r.header.head r.requestLine := by
    rw [text_eq_head, hbody]
    exact List.append_nil _
  rw [htext]
  simp only [parse, Header.lines_head hr.oneLine_requestLine hr.fields, hr.words_requestLine,
    hr.version, if_true, Header.ofLines_entries hr.fields, Except.map, ← hbody]

theorem parse_text_iff : parse r.text = .ok r ↔ r.Legible ∧ r.body = none :=
  ⟨legible_of_parse, fun hr => parse_text hr.1 hr.2⟩

end Request

/-- What is read from any text at all is a legible message without a body, and every such message is
read from some text. It is read again from what is written of it, with the same status and reason,
or the same method, address and version, and the same fields in order. -/
theorem parse_text_of_parse :
    (∀ r : Response, ((∃ t, Response.parse t = .ok r) ↔ r.Legible ∧ r.body = none) ∧
      ∀ t, Response.parse t = .ok r → Response.parse r.text = .ok r) ∧
    ∀ r : Request, ((∃ t, Request.parse t = .ok r) ↔ r.Legible ∧ r.body = none) ∧
      ∀ t, Request.parse t = .ok r → Request.parse r.text = .ok r := by
  refine ⟨fun r => ⟨⟨fun ⟨t, h⟩ => Response.legible_of_parse h, fun hr => ?_⟩, fun t h => ?_⟩,
    fun r => ⟨⟨fun ⟨t, h⟩ => Request.legible_of_parse h, fun hr => ?_⟩, fun t h => ?_⟩⟩
  · exact ⟨r.text, Response.parse_text_iff.mpr hr⟩
  · exact Response.parse_text_iff.mpr (Response.legible_of_parse h)
  · exact ⟨r.text, Request.parse_text_iff.mpr hr⟩
  · exact Request.parse_text_iff.mpr (Request.legible_of_parse h)

/-- Line ends of both kinds and carriage returns that are none, blanks of all kinds around the
words, a status with a sign, an empty reason, fields without a name and without a value, and lines
behind the empty one that are none of the header. -/
theorem parse_text_of_parse_ragged :
    let response : Response :=
      ⟨200, [], [⟨[], "a:b".toList⟩, ⟨"x\ry".toList, []⟩], none⟩
    let request : Request :=
      ⟨"PING".toList, "\x00".toList, "RTSP/".toList, [⟨"Session".toList, "a\u00a0 b".toList⟩], none⟩
    let answered := "RTSP/2 \t+200 \u3000\r\r\n:\u2003a:b\n\u0085x\ry: \r\r\n\r\nz".toList
    let asked := "\u00a0PING\t\x00  RTSP/\n Session :\ra\u00a0 b\r".toList
    Response.parse answered = .ok response ∧ Response.parse response.text = .ok response ∧
      response.text = "RTSP/1.0 200 \r\n: a:b\r\nx\ry: \r\n\r\n".toList ∧
      Request.parse asked = .ok request ∧ Request.parse request.text = .ok request ∧
      request.text = "PING \x00 RTSP/\r\nSession: a\u00a0 b\r\n\r\n".toList := by
  intro response request answered asked
  have hanswered : Response.parse answered = .ok response := by decide +kernel
  have hasked : Request.parse asked = .ok request := by decide +kernel
  exact ⟨hanswered, (parse_text_of_parse.1 response).2 answered hanswered, by decide +kernel,
    hasked, (parse_text_of_parse.2 request).2 asked hasked, by decide +kernel⟩

end Rtsp
