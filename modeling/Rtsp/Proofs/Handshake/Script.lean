import Rtsp.Proofs.Connection.Conveyed

/-!
A handshake over a connection, and the same handshake with a script that simply hands out its
responses. They end alike and say the same, since whatever else a connection deals with leaves it in
step with the script.
-/
namespace Rtsp

namespace Handshake

open Connection (Conveys stamped)

/-- The server that hands out its responses one after another, whatever it is asked. -/
def script (responses : List Response) (said : List Request) : Except Halt Response :=
  match responses[said.length - 1]? with
  | some r => .ok r
  | none => .error (.fault (.connection "script exhausted".toList))

/-- The requests as a connection numbers them. -/
def numbered (said : List Request) : List Request := said.mapIdx fun i r => stamped (i + 1) r

/-- A connection over which all has been said that was said to the script, and over which what is
left of the script is still to come. -/
structure InStep (responses : List Response) (said : List Request) (c : Connection) : Prop where
  calm : c.Calm
  sequence_eq : c.sequence = said.length
  requests_eq : c.requests = numbered said
  conveys : Conveys Decoder.limit (said.length + 1) (responses.drop said.length) c.stream

variable {α : Type} {responses : List Response} {said : List Request} {c : Connection}

/-- What was said remains said. -/
theorem length_le_run (server : List Request → Except Halt Response) (d : Dialogue α)
    (said : List Request) : said.length ≤ (d.run (listening server) said).2.length := by
  induction d generalizing said with
  | done result => exact Nat.le_refl _
  | ask request next ih =>
    cases hreply : server (said ++ [request]) with
    | ok response =>
      have hle := ih response (said ++ [request])
      rw [List.length_append] at hle
      rw [run_ask_ok hreply]
      exact Nat.le_trans (Nat.le_add_right _ _) hle
    | error h =>
      rw [run_ask_error hreply]
      simp

/-- One exchange keeps the connection in step with the script. -/
theorem InStep.exchange (h : InStep responses said c) (hr : ∀ r ∈ responses, r.Scripted)
    (hmore : said.length < responses.length) (request : Request) :
    ∃ r r' c', script responses (said ++ [request]) = .ok r ∧
      Connection.exchange c request = (.ok r', c') ∧ r.Alike r' ∧
      InStep responses (said ++ [request]) c' := by
  obtain ⟨r, hget, hdrop⟩ : ∃ r, responses[said.length]? = some r ∧
      responses.drop said.length = r :: responses.drop (said.length + 1) :=
    ⟨_, List.getElem?_eq_getElem hmore, List.drop_eq_getElem_cons hmore⟩
  have hconveys := h.conveys
  rw [hdrop, ← h.sequence_eq] at hconveys
  obtain ⟨r', c', hexchange, halike, hcalm, hsequence, hrequests, hrest⟩ :=
    Connection.exchange_conveyed (hr r (List.mem_of_getElem? hget)) h.calm hconveys request
  have hlength : (said ++ [request]).length = said.length + 1 := by simp
  refine ⟨r, r', c', ?_, hexchange, halike, hcalm, ?_, ?_, ?_⟩
  · rw [script, hlength, Nat.add_sub_cancel, hget]
  · rw [hsequence, h.sequence_eq, hlength]
  · rw [hrequests, h.requests_eq, h.sequence_eq]
    simp [numbered, List.mapIdx_append]
  · rw [h.sequence_eq] at hrest
    rwa [hlength]

/-- A dialogue that does not tell alike responses apart goes over the connection as by the script. -/
theorem InStep.run {d d' : Dialogue α} (hd : Dialogue.Alike Eq d d') (h : InStep responses said c)
    (hr : ∀ r ∈ responses, r.Scripted)
    (henough : (d.run (listening (script responses)) said).2.length ≤ responses.length) :
    (d'.run Connection.exchange c).1 = (d.run (listening (script responses)) said).1 ∧
      (d'.run Connection.exchange c).2.requests =
        numbered (d.run (listening (script responses)) said).2 := by
  induction hd generalizing said c with
  | value heq => exact ⟨congrArg Except.ok heq.symm, h.requests_eq⟩
  | halt halt => exact ⟨rfl, h.requests_eq⟩
  | @ask request next next' _ ih =>
    -- The whole run says no more than there are responses, so that there is one for this request.
    have hmore : said.length < responses.length := by
      cases hreply : script responses (said ++ [request]) with
      | ok response =>
        rw [run_ask_ok hreply] at henough
        have hle := length_le_run (script responses) (next response) (said ++ [request])
        rw [List.length_append] at hle
        exact Nat.lt_of_lt_of_le (Nat.lt_of_succ_le hle) henough
      | error halt =>
        rw [run_ask_error hreply, List.length_append] at henough
        exact henough
    obtain ⟨r, r', c', hreply, hexchange, halike, hstep⟩ := h.exchange hr hmore request
    rw [run_ask_ok hreply] at henough ⊢
    have hrun : (Dialogue.ask request next').run Connection.exchange c =
        (next' r').run Connection.exchange c' := by
      simp only [Dialogue.run, hexchange]
    rw [hrun]
    exact ih r r' halike hstep henough

/-- Over a connection on which nothing goes wrong, and whose bytes convey the responses of a script
that is long enough, a handshake ends as it does with the script itself, and sends the same requests
under their numbers. What is said between the responses makes no difference, nor how the bytes are
cut into reads. -/
theorem run_conveyed (plan : Plan) (e e' : Auth.Entropy) {responses : List Response}
    (hr : ∀ r ∈ responses, r.Scripted) {arrivals : List Connection.Arrival}
    {writes : List (Option Fault.Trouble)} (harrivals : ∀ a ∈ arrivals, a.Smooth)
    (hwrites : ∀ w ∈ writes, w = none)
    (hconveys : Conveys Decoder.limit 1 responses (Connection.brought arrivals))
    (henough : ((dialogue plan e).against (script responses)).2.length ≤ responses.length) :
    ((dialogue plan e).run Connection.exchange (.start arrivals writes e')).1 =
        ((dialogue plan e).against (script responses)).1 ∧
      ((dialogue plan e).run Connection.exchange (.start arrivals writes e')).2.requests =
        numbered ((dialogue plan e).against (script responses)).2 := by
  have hstart : InStep responses [] (.start arrivals writes e') :=
    ⟨⟨harrivals, hwrites, rfl, rfl, rfl⟩, rfl, rfl, hconveys⟩
  exact hstart.run (alike_dialogue plan e) hr henough

section Chatter

/-- The description of one medium, a session, and consent to play. -/
def described : Response :=
  ⟨200, "OK".toList, [], some "v=0\r\nm=video 0 RTP/AVP 33\r\na=control:track\r\n".toList⟩

def joined : Response := ⟨200, "OK".toList, [⟨"Session".toList, "41;timeout=30".toList⟩], none⟩

def consent : Response := ⟨200, "OK".toList, [⟨"Range".toList, "npt=0-".toList⟩], some []⟩

def numberedBytes (n : Nat) (r : Response) : Bytes :=
  Text.Utf8.encode { r with header := Response.numberField n :: r.header }.text

def question : Request :=
  { Request.make .options "rtsp://cam/live".toList with
    header := [⟨"CSeq".toList, "1".toList⟩] }

/-- The three responses from a server that asks something of its own first, sends a frame that looks
like the end of a head, and says everything twice. -/
def chatter : Bytes :=
  Text.Utf8.encode question.text ++ (numberedBytes 1 described ++ (numberedBytes 1 described ++
    (numberedBytes 2 joined ++ (numberedBytes 2 joined ++
      (0x24 :: 0x00 :: 0x00 :: 0x04 :: [0x0D, 0x0A, 0x0D, 0x0A] ++
        (numberedBytes 3 consent ++ (numberedBytes 3 consent ++ [])))))))

def chatterArrivals : List Connection.Arrival :=
  [.data (chatter.take 30), .silence false, .failed .stalled, .data (chatter.drop 30)]

theorem run_conveyed_chatter :
    ∃ settings, (Settings.Draft.ofUrl "rtsp://cam/live".toList).build = .ok settings ∧
      let plan : Plan := ⟨settings, .tcp, fun _ => none⟩
      let responses := [described, joined, consent]
      let scripted := (dialogue plan (.counting 0)).against (script responses)
      let real := (dialogue plan (.counting 0)).run Connection.exchange
        (.start chatterArrivals [] (.counting 7))
      (∀ r ∈ responses, r.Scripted) ∧ (∀ a ∈ chatterArrivals, a.Smooth) ∧
        Conveys Decoder.limit 1 responses (Connection.brought chatterArrivals) ∧
        (scripted.1.map fun n => n.session.id) = .ok "41".toList ∧ scripted.2.length = 3 ∧
        real.1 = scripted.1 ∧ real.2.requests = numbered scripted.2 := by
  have hdescribed : described.Scripted := ⟨by decide +kernel, by decide, by decide⟩
  have hjoined : joined.Scripted := ⟨by decide +kernel, by decide, by decide⟩
  have hconsent : consent.Scripted := ⟨by decide +kernel, by decide, by decide⟩
  have hscripted : ∀ r ∈ [described, joined, consent], r.Scripted := by
    simp [hdescribed, hjoined, hconsent]
  have hsmooth : ∀ a ∈ chatterArrivals, a.Smooth := by
    simp only [chatterArrivals, List.forall_mem_cons]
    exact ⟨.data _, .pause, .stall, .data _, fun a ha => absurd ha List.not_mem_nil⟩
  have hbrought : Connection.brought chatterArrivals = chatter := by
    simp [chatterArrivals, Connection.brought]
  have hnumbered : ∀ n (r : Response), r.Numbered n (numberedBytes n r) := fun n r =>
    ⟨[], r.header, rfl, rfl⟩
  have hquestion : Decoder.Spells (Text.Utf8.encode question.text) (.request question) := by
    have hwritable : question.Writable :=
      ⟨Request.worded_of_method .options rfl rfl (by decide) (Text.blankless_of_all (by decide)),
        by decide, by decide +kernel⟩
    obtain ⟨bytes, hbytes, hspells⟩ := Decoder.exists_spells (m := .request question) hwritable
    obtain rfl := Option.some.inj hbytes
    exact hspells
  have hframe : Decoder.Spells [0x24, 0x00, 0x00, 0x04, 0x0D, 0x0A, 0x0D, 0x0A]
      (.frame ⟨0, [0x0D, 0x0A, 0x0D, 0x0A]⟩) := Decoder.spells_frame rfl
  have hconveys : Conveys Decoder.limit 1 [described, joined, consent] chatter :=
    .beside hquestion trivial (.twice hdescribed (hnumbered 1 _) (by decide +kernel)
      (.twice hjoined (hnumbered 2 _) (by decide +kernel)
        (.beside hframe trivial (.twice hconsent (hnumbered 3 _) (by decide +kernel)
          (.nil 4 [])))))
  have hplayed : (Settings.Draft.ofUrl "rtsp://cam/live".toList).build.map (fun settings =>
      let scripted := (dialogue ⟨settings, .tcp, fun _ => none⟩ (.counting 0)).against
        (script [described, joined, consent])
      (scripted.1.map fun n => n.session.id, scripted.2.length)) = .ok (.ok "41".toList, 3) := by
    decide +kernel
  cases hbuild : (Settings.Draft.ofUrl "rtsp://cam/live".toList).build with
  | error f =>
    rw [hbuild] at hplayed
    cases hplayed
  | ok settings =>
    rw [hbuild] at hplayed
    obtain ⟨hid, hthree⟩ := Prod.mk.inj (Except.ok.inj hplayed)
    exact ⟨settings, rfl, hscripted, hsmooth, hbrought ▸ hconveys, hid, hthree,
      run_conveyed ⟨settings, .tcp, fun _ => none⟩ (.counting 0) (.counting 7) hscripted hsmooth
        (fun w hw => absurd hw List.not_mem_nil) (hbrought ▸ hconveys) (Nat.le_of_eq hthree)⟩

end Chatter

section Oversized

/-- A refusal with a body that fills all that a decoder takes, so that its head is too much. -/
def oversized : Response :=
  ⟨404, "Not Found".toList, [], some (List.replicate Decoder.limit 'a')⟩

theorem decode_oversized :
    Decoder.decode ⟨numberedBytes 1 oversized⟩ =
      (.refused .tooBig, ⟨numberedBytes 1 oversized⟩) := by
  have hopens : Decoder.Opens oversized.statusLine :=
    Decoder.opens_statusLine (show Text.OneLine "Not Found".toList by decide)
  have hnumber : ∀ f ∈ [Response.numberField 1], f.Legible := List.forall_mem_singleton.mpr
    (Header.legible_of_blankless (by decide) (by decide) fun _ hc => Text.isBlank_of_mem_decimal hc)
  have hbody : Text.Utf8.size (oversized.body.getD []) = Decoder.limit :=
    (congrArg List.length (Text.Utf8.encode_replicate (by decide) _)).trans List.length_replicate
  generalize hhead : Header.head (Header.told [Response.numberField 1] oversized.body)
    oversized.statusLine = head
  have hbytes : numberedBytes 1 oversized =
      Text.Utf8.encode head ++ Text.Utf8.encode (oversized.body.getD []) := by
    rw [numberedBytes, Response.text_eq_head, Text.Utf8.encode_append, ← hhead]
    rfl
  have hannounces : Decoder.Announces (numberedBytes 1 oversized) (Text.Utf8.size head)
      Decoder.limit := by
    rw [hbytes, ← hbody, ← hhead]
    exact Decoder.announces_head hopens hnumber (fun f hf => List.mem_singleton.mp hf ▸ rfl)
      (Nat.lt_of_le_of_lt (Nat.le_of_eq hbody) Decoder.limit_lt_bound) _
  obtain ⟨b, tail, hcons, hbreak, hmarker⟩ :
      ∃ b tail, numberedBytes 1 oversized = b :: tail ∧ Decoder.isBreak b = false ∧
        b ≠ Frame.marker := by
    rw [hbytes, ← Text.Utf8.encode_append, ← hhead, Header.head, List.flatMap_cons,
      List.append_assoc, List.append_assoc, List.append_assoc]
    exact hopens.encode_eq_cons _
  have hpositive : 0 < Text.Utf8.size head := (Decoder.headLength?_bounds hannounces.1).1
  have hsmall : Text.Utf8.size head ≤ 100 := by
    have htold : Header.told [Response.numberField 1] oversized.body =
        [Response.numberField 1, ⟨Header.lengthName, Text.decimal Decoder.limit⟩] := by
      rw [← hbody]
      rfl
    rw [← hhead, htold]
    decide +kernel
  have hbound : ¬ Text.bound 64 ≤ Text.Utf8.size head + Decoder.limit := by
    have hlimit : Decoder.limit + 100 < Text.bound 64 := by decide
    omega
  have hlook : Decoder.decodeText (numberedBytes 1 oversized) =
      (.refused .tooBig, ⟨numberedBytes 1 oversized⟩) := by
    rw [Decoder.decodeText_of_announces hannounces, if_neg hbound, if_pos (by omega)]
  rw [hcons] at hlook ⊢
  rw [Decoder.decode_cons hbreak, if_neg hmarker, hlook]

/-- Without a limit to what is conveyed the script and the connection part: the refusal is what the
handshake with the script ends with, and the connection cannot even read it. -/
theorem oversized_not_conveyed :
    oversized.Scripted ∧ oversized.Numbered 1 (numberedBytes 1 oversized) ∧
      (∃ largest, Conveys largest 1 [oversized] (numberedBytes 1 oversized)) ∧
      ∀ (plan : Plan) (e e' : Auth.Entropy),
        ((dialogue plan e).against (script [oversized])).2.length = 1 ∧
        ((dialogue plan e).against (script [oversized])).1 =
          .error (.fault (.status .describe 404 "Not Found".toList)) ∧
        ((dialogue plan e).run Connection.exchange
            (.start [.data (numberedBytes 1 oversized)] [] e')).1 =
          .error (.fault (.parse .tooBig)) := by
  have hscripted : oversized.Scripted :=
    ⟨by decide +kernel, fun f hf => absurd hf List.not_mem_nil,
      fun f hf => absurd hf List.not_mem_nil⟩
  have hnumbered : oversized.Numbered 1 (numberedBytes 1 oversized) := ⟨[], [], rfl, rfl⟩
  have hconveys : Conveys (numberedBytes 1 oversized).length 1 [oversized]
      (numberedBytes 1 oversized ++ []) := .answer hnumbered (Nat.le_refl _) (.nil 2 [])
  rw [List.append_nil] at hconveys
  refine ⟨hscripted, hnumbered, ⟨_, hconveys⟩, fun plan e e' => ?_⟩
  obtain ⟨request, next, hdialogue, hnext⟩ : ∃ request next, dialogue plan e = .ask request next ∧
      next oversized = .done (.error (.fault (.status .describe 404 "Not Found".toList))) := by
    rw [dialogue_eq, describe_eq, send_eq]
    exact ⟨_, _, rfl, rfl⟩
  have hreply : script [oversized] ([] ++ [request]) = .ok oversized := rfl
  have hagainst : (dialogue plan e).against (script [oversized]) =
      (next oversized).run (listening (script [oversized])) ([] ++ [request]) := by
    rw [hdialogue]
    exact run_ask_ok hreply
  rw [hagainst, hnext]
  refine ⟨rfl, rfl, ?_⟩
  rw [hdialogue]
  obtain ⟨c', hexchange⟩ := Connection.exchange_of_refused decode_oversized e' request
  simp only [Dialogue.run, hexchange]

end Oversized

end Handshake

end Rtsp
