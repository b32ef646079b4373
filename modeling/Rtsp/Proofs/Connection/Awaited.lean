import Rtsp.Proofs.Connection.Conveyed

/-!
Waiting for a response among units as they are written. Whatever the order of the units and however
their bytes are cut into reads, the response that is read is the first that tells the number that is
waited for, or none. What cannot be read back stands in the way of all that is behind it.
-/
namespace Rtsp

namespace Response

/-- The response tells the number `n`, or none. -/
def Answers (n : Nat) (r : Response) : Prop :=
  r.sequence? = none ∨ r.sequence? = some (Text.decimal n)

variable {r : Response} {n : Nat}

instance : Decidable (r.Answers n) := by
  unfold Answers
  infer_instance

theorem sequence?_received (r : Response) : r.received.sequence? = r.sequence? :=
  value?_told_of_ne r.header r.body (by decide)

theorem consent_received (session : Option Text) (q : Request) :
    consent session q.received = consent session q := by
  have hsequence : q.received.sequence? = q.sequence? :=
    value?_told_of_ne q.header q.body (by decide)
  rw [consent, consent, hsequence]

end Response

/-- A request is received as it was sent. -/
theorem requestsOf_received (ms : List Message) :
    requestsOf (ms.map Message.received) = (requestsOf ms).map Request.received := by
  unfold requestsOf
  rw [List.filterMap_map, List.map_filterMap]
  congr 1
  funext m
  cases m <;> rfl

namespace Connection

variable {c : Connection} {n : Nat}

theorem isFor_received_iff (n : Nat) (r : Response) : isFor n r.received = true ↔ r.Answers n := by
  unfold isFor Response.Answers
  rw [r.sequence?_received]
  cases r.sequence? <;> simp

/-- A server says units one after another, and what it says comes in any number of reads. Then the
waiting for a response ends with the first that tells the number `n` or none. The requests before it
have been answered, once each and in order; the frames before it are kept behind those that were, as
far as there is room; and what is behind it is all there to be found by further polls. -/
theorem readResponse_first {before after : List Message} {r : Response} {later : List Arrival}
    (hunits : ∀ m ∈ before ++ .response r :: after, m.Writable)
    (hbrings : c.Brings (written (before ++ .response r :: after)) later)
    (hothers : ∀ r', .response r' ∈ before → ¬ r'.Answers n) (hfirst : r.Answers n)
    (hwrites : ∀ w ∈ c.writes, w = none) (hrequested : c.cancellation.requested = false) :
    ∃ c', c.readResponse n = (.ok r.received, c') ∧
      c'.sent = c.sent ++ (requestsOf before).map
        (fun q => .response (.consent c.sessionId q)) ∧
      c'.early = c.early ++ (framesOf before).take (earlyLimit - c.early.length) ∧
      c'.Brings (written after) later ∧
      ∃ k, (c'.polls k).1.filter (· ≠ .ok (.nothing false)) =
          after.map (fun m => .ok (.unit m.received)) ∧ (c'.polls k).2.Brings [] later := by
  rw [List.forall_mem_append, List.forall_mem_cons] at hunits
  obtain ⟨hbefore, hr, hafter⟩ := hunits
  obtain ⟨pieces, hpieces, hspells⟩ := Decoder.exists_pieces hbefore
  obtain ⟨piece, hpiece, hanswer⟩ := Decoder.exists_spells hr
  obtain ⟨pieces', hpieces', hspells'⟩ := Decoder.exists_pieces hafter
  have hbytes : written (before ++ .response r :: after) =
      pieces.flatten ++ (piece ++ pieces'.flatten) := by
    rw [written_append, written_cons, written_of_mapM hpieces, written_of_mapM hpieces']
    simp [written, hpiece]
  have hpassed : ∀ r', .response r' ∈ before.map Message.received → isFor n r' = false := by
    intro r' hr'
    obtain ⟨m, hm, hreceived⟩ := List.mem_map.mp hr'
    cases m with
    | response r₀ =>
      obtain rfl := Message.response.inj hreceived
      rw [Bool.eq_false_iff, ne_eq, isFor_received_iff]
      exact hothers r₀ hm
    | request q => cases hreceived
    | frame f => cases hreceived
  obtain ⟨c', hread, hserved, -, hleft⟩ := Undisturbed.readUpTo_first ⟨hwrites, hrequested⟩ hspells
    hpassed hanswer ((isFor_received_iff n r).mpr hfirst) (Nat.lt_succ_self c.remaining)
    (hbytes ▸ hbrings)
  refine ⟨c', hread, ?_, ?_, written_of_mapM hpieces' ▸ hleft, ?_⟩
  · rw [hserved.sent, requestsOf_received, List.map_map]
    congr 1
    exact List.map_congr_left fun q _ => congrArg Message.response
      (Response.consent_received c.sessionId q)
  · rw [hserved.early, framesOf_received]
  · have hpolls := hleft.exists_polls hspells'
    rw [List.map_map] at hpolls
    exact hpolls

section Errand

/-- What a server says before its answer: frames, one of them like the end of a head, requests with
a number and without one, and an answer that is no longer waited for. -/
def leading : List Message :=
  [.frame ⟨0, [0x24]⟩,
    .request ((Request.make .getParameter "rtsp://cam/live".toList).add "CSeq".toList ['7']),
    .response (Response.ok.add "CSeq".toList ['1']), .request (.make .options ['*']),
    .frame ⟨1, [0x0D, 0x0A, 0x0D, 0x0A]⟩]

def reply : Response := { Response.ok.add "CSeq".toList ['2'] with body := some ['x'] }

/-- What it says behind the answer, which includes one that tells no number. -/
def trailing : List Message := [.frame ⟨0, [0x00]⟩, .response .ok]

/-- Its bytes in three reads, which end within the first request and within the frame behind the
answer. -/
def deliveries : List Arrival :=
  let bytes := written (leading ++ .response reply :: trailing)
  [.data (bytes.take 30), .silence false, .data ((bytes.drop 30).take 134), .failed .stalled,
    .data (bytes.drop 164)]

theorem smooth_deliveries : ∀ a ∈ deliveries, a.Smooth := by
  simp only [deliveries, List.forall_mem_cons]
  exact ⟨.data _, .pause, .data _, .stall, .data _, fun a ha => absurd ha List.not_mem_nil⟩

theorem writable_said : ∀ m ∈ leading ++ .response reply :: trailing, m.Writable := by
  have hframe : ∀ f : Frame, f.payload.length < 0x10000 → (Message.frame f).Writable := fun _ h => h
  have hresponse : ∀ r : Response, Text.trim r.reason = r.reason ∧ Text.Unbroken r.reason ∧
      r.header.Plain ∧ Text.Utf8.size r.text ≤ Decoder.limit → (Message.response r).Writable :=
    fun r h => ⟨h.1, h.2.1, h.2.2.1, h.2.2.2⟩
  have hnumbered : (Message.request ((Request.make .getParameter "rtsp://cam/live".toList).add
      "CSeq".toList ['7'])).Writable :=
    ⟨Request.worded_of_method .getParameter rfl rfl (by decide) (Text.blankless_of_all (by decide)),
      by decide, by decide +kernel⟩
  have hbare : (Message.request (.make .options ['*'])).Writable :=
    ⟨Request.worded_of_method .options rfl rfl (by decide) (Text.blankless_of_all (by decide)),
      by decide, by decide +kernel⟩
  simp only [leading, trailing, List.cons_append, List.nil_append, List.forall_mem_cons]
  exact ⟨hframe _ (by decide), hnumbered, hresponse _ (by decide +kernel), hbare,
    hframe _ (by decide), hresponse _ (by decide +kernel), hframe _ (by decide),
    hresponse _ (by decide +kernel), fun m hm => absurd hm List.not_mem_nil⟩

/-- In a session two requests are answered on the way, one of them without a number; then the server
ends the connection. -/
theorem readResponse_first_errand :
    let c := (start (deliveries ++ [.closed]) [none] (.counting 0)).attach "41".toList none
    (∀ m ∈ leading ++ .response reply :: trailing, m.Writable) ∧
      c.Brings (written (leading ++ .response reply :: trailing)) [.closed] ∧
      (∀ r, .response r ∈ leading → ¬ r.Answers 2) ∧ reply.Answers 2 ∧
      ∃ c', c.readResponse 2 = (.ok reply.received, c') ∧
        c'.sent =
          [.response ((Response.ok.add "CSeq".toList ['7']).add "Session".toList "41".toList),
            .response (Response.ok.add "Session".toList "41".toList)] ∧
        c'.early = [⟨0, [0x24]⟩, ⟨1, [0x0D, 0x0A, 0x0D, 0x0A]⟩] ∧
        c'.Brings (written trailing) [.closed] ∧
        ∃ k, (c'.polls k).1.filter (· ≠ .ok (.nothing false)) =
            trailing.map (fun m => .ok (.unit m.received)) ∧
          (c'.polls k).2.Brings [] [.closed] := by
  intro c
  have hbrings : c.Brings (written (leading ++ .response reply :: trailing)) [.closed] := by
    refine ⟨deliveries, smooth_deliveries, rfl, ?_⟩
    change brought deliveries = _
    simp only [deliveries, brought, List.append_nil]
    rw [show (164 : Nat) = 30 + 134 from rfl, ← List.drop_drop, List.take_append_drop,
      List.take_append_drop]
  have hothers : ∀ r, .response r ∈ leading → ¬ r.Answers 2 := by
    intro r hr
    simp only [leading, List.mem_cons, List.not_mem_nil, or_false, reduceCtorEq, false_or,
      Message.response.injEq] at hr
    rw [hr]
    decide
  have hreply : reply.Answers 2 := by decide
  exact ⟨writable_said, hbrings, hothers, hreply,
    readResponse_first (n := 2) writable_said hbrings hothers hreply
      (List.forall_mem_singleton.mpr rfl) rfl⟩

end Errand

section Unread

/-- A response with a body that fills all that a decoder takes, so that its head is too much. -/
def bulky : Response := { Response.ok with body := some (List.replicate Decoder.limit 'a') }

def bulkyHead : Text := "RTSP/1.0 200 OK\r\nContent-Length: 1048576\r\n\r\n".toList

/-- Its head in one read, and its body in reads as large as they are made. -/
def bulkyReads : List Arrival :=
  .data (Text.Utf8.encode bulkyHead) ::
    List.replicate 16 (.data (List.replicate readLimit 0x61))

/-- A request whose address is two words. -/
def spaced : Request :=
  (Request.make .getParameter "rtsp://cam/a b".toList).add "CSeq".toList ['9']

theorem brought_replicate (k : Nat) (bytes : Bytes) :
    brought (List.replicate k (.data bytes)) = (List.replicate k bytes).flatten := by
  induction k with
  | zero => rfl
  | succ k ih => rw [List.replicate_succ, List.replicate_succ, brought, List.flatten_cons, ih]

theorem written_filled (n : Nat) :
    written [.response { Response.ok with body := some (List.replicate n 'a') }] =
      Text.Utf8.encode (Header.head [⟨Header.lengthName, Text.decimal n⟩] Response.ok.statusLine) ++
        List.replicate n 0x61 := by
  have hbody : Text.Utf8.encode (List.replicate n 'a') = List.replicate n 0x61 :=
    Text.Utf8.encode_replicate (by decide) n
  have htold : Header.told [] (some (List.replicate n 'a')) =
      [⟨Header.lengthName, Text.decimal n⟩] := by
    change [Header.Field.mk _ (Text.decimal (Text.Utf8.size (List.replicate n 'a')))] = _
    rw [Text.Utf8.size, hbody, List.length_replicate]
  rw [← htold, ← hbody, ← Text.Utf8.encode_append]
  simp only [written, List.flatMap_singleton, Message.bytes?, Response.text_eq_head,
    Option.getD_some]
  rfl

theorem brings_bulky :
    (start bulkyReads [] (.counting 0)).Brings (written [.response bulky]) [] := by
  refine ⟨bulkyReads, ?_, (List.append_nil _).symm, ?_⟩
  · rw [bulkyReads, List.forall_mem_cons]
    exact ⟨.data _, fun a ha => List.eq_of_mem_replicate ha ▸ .data _⟩
  · have hhead : Header.head [⟨Header.lengthName, Text.decimal Decoder.limit⟩]
        Response.ok.statusLine = bulkyHead := by decide +kernel
    have hlength : 16 * readLimit = Decoder.limit := by decide
    simp only [start, Decoder.empty, List.nil_append, bulkyReads, brought, brought_replicate,
      List.flatten_replicate_replicate, hlength, bulky, written_filled, hhead]

/-- What cannot be read ends the waiting, although the response is there: one that is too long by
itself, and one behind a request whose address is two words. A response that tells its number with a
blank before it is taken for one that tells it without. -/
theorem readResponse_not_first :
    (bulky.Answers 1 ∧ (start bulkyReads [] (.counting 0)).Brings (written [.response bulky]) [] ∧
      ((start bulkyReads [] (.counting 0)).readResponse 1).1 =
        .error (.fault (.parse .tooBig))) ∧
    (let answer := Response.ok.add "CSeq".toList ['1']
      let c := start [.data (written [.request spaced, .response answer])] [] (.counting 0)
      answer.Answers 1 ∧ (c.readResponse 1).1 = .error (.fault (.parse .requestLine))) ∧
    (let padded := (Response.make 404 "Not Found".toList).add "CSeq".toList [' ', '1']
      let answer := Response.ok.add "CSeq".toList ['1']
      let c := start [.data (written [.response padded, .response answer])] [] (.counting 0)
      ¬ padded.Answers 1 ∧ answer.Answers 1 ∧
        (c.readResponse 1).1.map Response.status = .ok 404) := by
  refine ⟨⟨by decide, brings_bulky, ?_⟩, ⟨by decide, by decide +kernel⟩, by decide, by decide,
    by decide +kernel⟩
  have hrefused : Decoder.decode ⟨Text.Utf8.encode bulkyHead⟩ =
      (.refused .tooBig, ⟨Text.Utf8.encode bulkyHead⟩) := by decide +kernel
  obtain ⟨c', hread⟩ := readResponse_of_refused (c := start bulkyReads [] (.counting 0)) hrefused
    rfl rfl rfl 1
  exact congrArg Prod.fst hread

end Unread

end Connection

end Rtsp
