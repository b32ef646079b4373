import Rtsp.Proofs.Message.Head

/-!
Messages that are written and read again. A response comes back from its head if its reason is
trimmed and stays on the status line; a request comes back if its method, its address and its version
are words, and if the method cannot be taken for the beginning of a response or of a frame. What comes back has the field that the body added, and an empty body
comes back as none.
-/
namespace Rtsp

/-- Clean fields, none of which tells the length of a body. -/
structure Header.Plain (h : Header) : Prop where
  clean : ∀ f ∈ h, f.Clean
  unnamed : ∀ f ∈ h, f.isNamed Header.lengthName = false

theorem Header.plain_iff (h : Header) :
    h.Plain ↔ (∀ f ∈ h, f.Clean) ∧ ∀ f ∈ h, f.isNamed Header.lengthName = false :=
  ⟨fun hp => ⟨hp.clean, hp.unnamed⟩, fun hp => ⟨hp.1, hp.2⟩⟩

instance (h : Header) : Decidable h.Plain := decidable_of_iff _ h.plain_iff.symm

theorem Header.Plain.legible {h : Header} (hp : h.Plain) : ∀ f ∈ h, f.Legible :=
  fun f hf => (hp.clean f hf).legible

namespace Response

structure Writable (r : Response) : Prop where
  trimmed : Text.trim r.reason = r.reason
  unbroken : Text.Unbroken r.reason
  plain : r.header.Plain
  fits : Text.Utf8.size r.text ≤ Decoder.limit

/-- The start line without its end. -/
def statusLine (r : Response) : Text :=
  "RTSP/1.0".toList ++ ' ' :: (Text.decimal r.status.toNat ++ ' ' :: r.reason)

/-- The response as a reader finds it. -/
def received (r : Response) : Response :=
  { r with header := r.header.told r.body, body := r.body.filter (· != []) }

variable {r : Response}

theorem text_eq_head (r : Response) :
    r.text = (r.header.told r.body).head r.statusLine ++ r.body.getD [] := by
  have hstart : r.startLine = r.statusLine ++ ['\r', '\n'] := by
    unfold startLine statusLine
    simp only [List.append_assoc, List.cons_append]
    rfl
  rw [text, hstart, Header.startLine_withBody]

theorem oneLine_statusLine (hr : Text.OneLine r.reason) : Text.OneLine r.statusLine := by
  apply Text.oneLine_append (by decide)
  apply Text.oneLine_cons (by decide)
  apply Text.oneLine_append
  · exact Text.oneLine_of_blankless fun c hc => Text.isBlank_of_mem_decimal hc
  · exact Text.oneLine_cons (by decide) hr

theorem status?_statusLine (ht : Text.trim r.reason = r.reason) :
    status? r.statusLine = some (r.status, r.reason) := by
  have hblank : ' ' ∉ Text.decimal r.status.toNat :=
    fun h => absurd (Text.isBlank_of_mem_decimal h) (by decide)
  have hcode : Text.uint16? (Text.trim (Text.decimal r.status.toNat)) = some r.status := by
    rw [Text.trim_of_blankless fun c hc => Text.isBlank_of_mem_decimal hc, Text.uint16?_decimal]
  have hparts : Text.parts ' ' 3 r.statusLine =
      ["RTSP/1.0".toList, Text.decimal r.status.toNat, r.reason] := by
    unfold statusLine
    rw [Text.parts_append (by decide), Text.parts_append hblank]
    rfl
  have hversion : "RTSP/".toList.isPrefixOf "RTSP/1.0".toList = true := by decide
  simp only [status?, hparts, hversion, if_true, hcode, Option.map_some, List.headD_cons, ht]

theorem parse_head (ht : Text.trim r.reason = r.reason) (hr : Text.OneLine r.reason) {h : Header}
    (hc : ∀ f ∈ h, f.Legible) :
    parse (h.head r.statusLine) = .ok ⟨r.status, r.reason, h, none⟩ := by
  simp only [parse, Header.lines_head (oneLine_statusLine hr) hc, status?_statusLine ht,
    Header.ofLines_entries hc, Except.map]

end Response

namespace Request

/-- A request that a reader takes for one: three words, the first of which begins neither as a
response nor as a frame. -/
structure Worded (r : Request) : Prop where
  called : r.method ≠ []
  method : ∀ c ∈ r.method, Text.isBlank c = false
  unmarked : r.method.head? ≠ some '$'
  apart : "RTSP/".toList.isPrefixOf r.method = false
  addressed : r.uri ≠ []
  word : ∀ c ∈ r.uri, Text.isBlank c = false
  versioned : "RTSP/".toList.isPrefixOf r.version = true
  version : ∀ c ∈ r.version, Text.isBlank c = false

structure Writable (r : Request) : Prop where
  worded : r.Worded
  plain : r.header.Plain
  fits : Text.Utf8.size r.text ≤ Decoder.limit

/-- The start line without its end. -/
def requestLine (r : Request) : Text := r.method ++ ' ' :: (r.uri ++ ' ' :: r.version)

/-- The request as a reader finds it. -/
def received (r : Request) : Request :=
  { r with header := r.header.told r.body, body := r.body.filter (· != []) }

variable {r : Request}

theorem text_eq_head (r : Request) :
    r.text = (r.header.told r.body).head r.requestLine ++ r.body.getD [] := by
  have hstart : r.startLine = r.requestLine ++ ['\r', '\n'] := by
    simp only [startLine, requestLine, List.append_assoc, List.cons_append]
  rw [text, hstart, Header.startLine_withBody]

theorem isBlank_of_mem_name (m : Method) : ∀ c ∈ m.name, Text.isBlank c = false := by
  apply Text.blankless_of_all
  cases m <;> decide

/-- A request of one of the client's own methods needs only an address. -/
theorem worded_of_method (m : Method) (hm : r.method = m.name) (hv : r.version = "RTSP/1.0".toList)
    (ha : r.uri ≠ []) (hu : ∀ c ∈ r.uri, Text.isBlank c = false) : r.Worded where
  called := by
    rw [hm]
    cases m <;> decide
  method := hm ▸ isBlank_of_mem_name m
  unmarked := by
    rw [hm]
    cases m <;> decide
  apart := by
    rw [hm]
    cases m <;> decide
  addressed := ha
  word := hu
  versioned := by
    rw [hv]
    decide
  version := hv ▸ Text.blankless_of_all (by decide)

/-- The client has no such method, but a server may ask for it. -/
example : (⟨"SET_PARAMETER".toList, "rtsp://cam".toList, "RTSP/1.0".toList, [], none⟩ :
    Request).Worded := by
  constructor <;> decide

theorem Worded.version_ne_nil (hr : r.Worded) : r.version ≠ [] := by
  intro hv
  have h := hr.versioned
  rw [hv] at h
  cases h

theorem Worded.words_requestLine (hr : r.Worded) :
    Text.words r.requestLine = [r.method, r.uri, r.version] := by
  rw [requestLine, Text.words_append_blank hr.called hr.method rfl,
    Text.words_append_blank hr.addressed hr.word rfl,
    Text.words_eq_singleton hr.version_ne_nil hr.version]

theorem Worded.oneLine_requestLine (hr : r.Worded) : Text.OneLine r.requestLine := by
  apply Text.oneLine_append (Text.oneLine_of_blankless hr.method)
  apply Text.oneLine_cons (by decide)
  apply Text.oneLine_append (Text.oneLine_of_blankless hr.word)
  exact Text.oneLine_cons (by decide) (Text.oneLine_of_blankless hr.version)

theorem Worded.parse_head (hr : r.Worded) {h : Header} (hc : ∀ f ∈ h, f.Legible) :
    parse (h.head r.requestLine) = .ok ⟨r.method, r.uri, r.version, h, none⟩ := by
  simp only [parse, Header.lines_head hr.oneLine_requestLine hc, hr.words_requestLine,
    hr.versioned, if_true, Header.ofLines_entries hc, Except.map]

end Request

namespace Decoder

/-- The beginning of its head tells a response from a request. -/
theorem parse_response {r : Response} (ht : Text.trim r.reason = r.reason)
    (hr : Text.OneLine r.reason) {h : Header} (hc : ∀ f ∈ h, f.Legible) (body : Option Text) :
    parse (h.head r.statusLine) body = .ok (.response ⟨r.status, r.reason, h, body⟩) := by
  have hstart : "RTSP/".toList.isPrefixOf (h.head r.statusLine) = true := rfl
  rw [parse, if_pos hstart, Response.parse_head ht hr hc]
  rfl

theorem parse_request {r : Request} (hr : r.Worded) {h : Header} (hc : ∀ f ∈ h, f.Legible)
    (body : Option Text) :
    parse (h.head r.requestLine) body =
      .ok (.request ⟨r.method, r.uri, r.version, h, body⟩) := by
  have hstart : "RTSP/".toList.isPrefixOf (h.head r.requestLine) = false := by
    rw [Header.head, List.flatMap_cons, Request.requestLine]
    simp only [List.append_assoc, List.cons_append]
    rw [Text.isPrefixOf_append_cons (by decide), hr.apart]
  rw [parse, hstart, if_neg Bool.false_ne_true, hr.parse_head hc]
  rfl

end Decoder

end Rtsp
