import Rtsp.Proofs.Connection.Waiting
import Rtsp.Proofs.Decoder.RoundTrip
import Rtsp.Proofs.Handshake.Alike
import Rtsp.Proofs.Message.Heard

/-!
A server that answers by a script. It numbers its answers, and between them it may say other things:
ask something itself, send frames, or answer requests that are no longer waited for. Over a
connection on which nothing goes wrong each exchange brings what the script has next, as long as no
answer is longer than what a decoder takes.
-/
namespace Rtsp

theorem Text.decimal_injective : Function.Injective Text.decimal := by
  intro n k h
  calc
    n = Nat.ofDigitChars 10 (Text.decimal n) 0 := Nat.ofDigitChars_ten_toDigits.symm
    _ = Nat.ofDigitChars 10 (Text.decimal k) 0 := by rw [h]
    _ = k := Nat.ofDigitChars_ten_toDigits

namespace Response

/-- A response that comes back from its own text, but for the body, and leaves its number and the
length of its body to whoever sends it. -/
structure Scripted (r : Response) : Prop where
  survives : parse { r with body := none }.text = .ok { r with body := none }
  unnumbered : ∀ f ∈ r.header, f.isNamed "CSeq".toList = false
  unmeasured : ∀ f ∈ r.header, f.isNamed "Content-Length".toList = false

/-- The field that tells which request a response is for. -/
def numberField (n : Nat) : Header.Field := ⟨"CSeq".toList, Text.decimal n⟩

/-- The bytes of a response that is numbered `n`, anywhere in its header. -/
def Numbered (n : Nat) (r : Response) (piece : Bytes) : Prop :=
  ∃ before after, r.header = before ++ after ∧
    piece = Text.Utf8.encode { r with header := before ++ numberField n :: after }.text

variable {r : Response} {n : Nat} {before after : Header} {name : Text}

theorem Scripted.legible (hr : r.Scripted) : r.Legible := by
  obtain ⟨htrim, hone, hfields⟩ := (legible_of_parse hr.survives).1
  exact ⟨htrim, hone, hfields⟩

theorem values_numbered (hname : Text.sameName "CSeq".toList name = false) :
    Header.values (before ++ numberField n :: after) name =
      Header.values (before ++ after) name := by
  have hskip : (numberField n).isNamed name = false := hname
  simp only [Header.values, List.filter_append, List.filter_cons, hskip, Bool.false_eq_true,
    if_false]

theorem values_told (h : Header) (body : Option Text)
    (hname : Text.sameName "Content-Length".toList name = false) :
    (h.told body).values name = h.values name := by
  cases body with
  | none => rfl
  | some body => exact Connection.values_add_of_ne h hname

theorem value?_told_of_ne (h : Header) (body : Option Text)
    (hname : Text.sameName "Content-Length".toList name = false) :
    (h.told body).value? name = h.value? name := by
  rw [Header.value?_eq_head?, values_told h body hname, ← Header.value?_eq_head?]

/-- A numbered response is read as one that is like it, and is for the request of that number. -/
theorem Scripted.spells {piece : Bytes} (hr : r.Scripted) (hpiece : r.Numbered n piece)
    (hfits : piece.length ≤ Decoder.limit) :
    ∃ r', Decoder.Spells piece (.response r') ∧ r.Alike r' ∧ r'.sequence? = some (Text.decimal n) := by
  obtain ⟨before, after, hheader, rfl⟩ := hpiece
  obtain ⟨htrim, hone, hfields⟩ := hr.legible
  have hunmeasured := hr.unmeasured
  have hunnumbered := hr.unnumbered
  rw [hheader] at hfields hunmeasured hunnumbered
  have hnumber : (numberField n).Legible :=
    Header.legible_of_blankless (by decide) (by decide) fun _ hc => Text.isBlank_of_mem_decimal hc
  have hinsert : ∀ {P : Header.Field → Prop}, (∀ f ∈ before ++ after, P f) →
      P (numberField n) → ∀ f ∈ before ++ numberField n :: after, P f := by
    intro P hall hself
    rw [List.forall_mem_append] at hall ⊢
    exact ⟨hall.1, List.forall_mem_cons.mpr ⟨hself, hall.2⟩⟩
  refine ⟨_, Decoder.spells_response htrim hone (hinsert hfields hnumber)
    (hinsert hunmeasured rfl) hfits, ⟨rfl, rfl, ?_, ?_⟩, ?_⟩
  · intro name hname
    have hcseq := hname _ List.mem_cons_self
    have hlength := hname _ (List.mem_cons_of_mem _ List.mem_cons_self)
    exact (values_told _ r.body hlength).trans ((values_numbered hcseq).trans (by rw [hheader]))
  · change (r.body.filter (· != [])).getD [] = r.body.getD []
    cases r.body with
    | none => rfl
    | some body => by_cases hb : body = [] <;> simp [Option.filter, hb]
  · have hself : (numberField n).isNamed "CSeq".toList = true := Text.sameName_refl _
    have hbefore : ∀ f ∈ before, f.isNamed "CSeq".toList = false := fun f hf =>
      hunnumbered f (List.mem_append_left after hf)
    change Header.value? ((before ++ numberField n :: after).told r.body) "CSeq".toList = _
    rw [value?_told_of_ne _ _ (by decide), Header.value?_append_of_unnamed hbefore,
      Header.value?_cons, if_pos hself]
    rfl

end Response

namespace Connection

open Decoder (Spells)

/-- What is not taken for the response to request `n`: requests, frames, and responses that are
numbered otherwise. -/
def Beside (n : Nat) : Message → Prop
  | .response r => ∃ t, r.sequence? = some t ∧ t ≠ Text.decimal n
  | .request _ | .frame _ => True

/-- The bytes of a server that answers request `n` and those after it by a script, no answer being
longer than `largest`. Between the answers there is anything that is not taken for the next one, and
behind the last anything at all. -/
inductive Conveys (largest : Nat) : Nat → List Response → Bytes → Prop
  | nil (n : Nat) (rest : Bytes) : Conveys largest n [] rest
  | beside {n : Nat} {script : List Response} {piece rest : Bytes} {m : Message}
      (spelled : Spells piece m) (other : Beside n m) (more : Conveys largest n script rest) :
      Conveys largest n script (piece ++ rest)
  | answer {n : Nat} {r : Response} {script : List Response} {piece rest : Bytes}
      (numbered : r.Numbered n piece) (fits : piece.length ≤ largest)
      (more : Conveys largest (n + 1) script rest) :
      Conveys largest n (r :: script) (piece ++ rest)

/-- A server may say everything twice: the second time it is no longer waited for. -/
theorem Conveys.twice {n : Nat} {r : Response} {script : List Response} {piece rest : Bytes}
    (hr : r.Scripted) (hpiece : r.Numbered n piece) (hfits : piece.length ≤ Decoder.limit)
    (more : Conveys Decoder.limit (n + 1) script rest) :
    Conveys Decoder.limit n (r :: script) (piece ++ (piece ++ rest)) := by
  obtain ⟨r', hspells, -, hnumber⟩ := hr.spells hpiece hfits
  have hne : Text.decimal n ≠ Text.decimal (n + 1) := Text.decimal_injective.ne (by omega)
  exact .answer hpiece hfits (.beside hspells ⟨_, hnumber, hne⟩ more)

/-- The request as it is sent under a number. -/
def stamped (n : Nat) (r : Request) : Request :=
  (r.put "CSeq".toList (Text.decimal n)).put "User-Agent".toList userAgent

variable {c : Connection}

theorem isFor_of_beside {n : Nat} {r : Response} (h : Beside n (.response r)) :
    isFor n r = false := by
  obtain ⟨t, ht, hne⟩ := h
  simp only [isFor, ht, beq_eq_false_iff_ne.mpr hne]

/-- What is conveyed next is an answer, with some units before it that are not taken for it. -/
theorem Conveys.exists_next {largest n : Nat} {r : Response} {script : List Response}
    {bytes : Bytes} (h : Conveys largest n (r :: script) bytes) :
    ∃ pieces units piece rest, bytes = List.flatten pieces ++ (piece ++ rest) ∧
      List.Forall₂ Spells pieces units ∧ (∀ m ∈ units, Beside n m) ∧ r.Numbered n piece ∧
      piece.length ≤ largest ∧ Conveys largest (n + 1) script rest := by
  generalize hscript : r :: script = whole at h
  induction h with
  | nil n rest => cases hscript
  | @beside n _ first _ m spelled other _ ih =>
    obtain ⟨pieces, units, piece, rest, rfl, hunits, hbeside, hnext⟩ := ih hscript
    refine ⟨first :: pieces, m :: units, piece, rest, ?_, .cons spelled hunits,
      List.forall_mem_cons.mpr ⟨other, hbeside⟩, hnext⟩
    rw [List.flatten_cons, List.append_assoc]
  | @answer n _ _ piece rest numbered fits more =>
    obtain ⟨rfl, rfl⟩ := List.cons.inj hscript
    exact ⟨[], [], piece, rest, rfl, .nil, fun m hm => absurd hm List.not_mem_nil, numbered, fits,
      more⟩

theorem Calm.undisturbed (hc : c.Calm) : c.Undisturbed := ⟨hc.writes, hc.requested⟩

/-- Waiting for an answer that is conveyed brings one that is like it, and leaves the rest of the
script to come. -/
theorem readUpTo_conveyed {n fuel : Nat} {r : Response} {script : List Response} (hr : r.Scripted)
    (hc : c.Calm) (hfuel : c.remaining < fuel)
    (hconveys : Conveys Decoder.limit n (r :: script) c.stream) :
    ∃ r' c', readUpTo n fuel c = (.ok r', c') ∧ r.Alike r' ∧ c'.Calm ∧
      c'.sequence = c.sequence ∧ Conveys Decoder.limit (n + 1) script c'.stream := by
  obtain ⟨pieces, units, piece, rest, hstream, hunits, hbeside, hnumbered, hfits, hmore⟩ :=
    hconveys.exists_next
  obtain ⟨r', hspells, halike, hnumber⟩ := hr.spells hnumbered hfits
  have hfirst : isFor n r' = true := by simp only [isFor, hnumber, BEq.rfl]
  have hbrings : c.Brings (pieces.flatten ++ (piece ++ rest)) [] :=
    ⟨c.arrivals, hc.arrivals, (List.append_nil c.arrivals).symm, hstream⟩
  obtain ⟨c', hread, hserved, hquiet, front, hfront, harrivals, hbytes⟩ :=
    hc.undisturbed.readUpTo_first hunits (fun r hr => isFor_of_beside (hbeside _ hr)) hspells hfirst
      hfuel hbrings
  rw [List.append_nil] at harrivals
  refine ⟨r', c', hread, halike, ⟨harrivals ▸ hfront, hquiet.writes, hquiet.requested,
    hserved.sessionId.trans hc.sessionId, hserved.signer.trans hc.signer⟩, hserved.sequence, ?_⟩
  rwa [stream, harrivals, hbytes]

/-- The connection once a request is sent. -/
def afterRequest (c : Connection) (request : Request) : Connection :=
  { c with
    sequence := c.sequence + 1
    writes := c.writes.tail
    sent := c.sent ++ [.request (stamped (c.sequence + 1) request)] }

theorem Calm.afterRequest (hc : c.Calm) (request : Request) : (c.afterRequest request).Calm :=
  ⟨hc.arrivals, fun w hw => hc.writes w (List.mem_of_mem_tail hw), hc.requested, hc.sessionId,
    hc.signer⟩

/-- A request is sent under the next number, and is otherwise as it was. -/
theorem Calm.sendRequest (hc : c.Calm) (request : Request) :
    c.sendRequest request = (.ok (c.sequence + 1), c.afterRequest request) := by
  have hnext : Calm { c with sequence := c.sequence + 1 } :=
    ⟨hc.arrivals, hc.writes, hc.requested, hc.sessionId, hc.signer⟩
  have hnamed : ∀ r, named { c with sequence := c.sequence + 1 } r = r := by
    intro r
    unfold named
    rw [hnext.sessionId]
  have hsigned : ∀ r, signed { c with sequence := c.sequence + 1 } r =
      (r, { c with sequence := c.sequence + 1 }) := by
    intro r
    unfold signed
    rw [hnext.signer]
    split
    · rename_i heq
      cases heq
    · rfl
  simp only [Connection.sendRequest, hnamed, hsigned, write_of_none hnext.writes]
  rfl

/-- A request is sent and its answer conveyed. -/
theorem exchange_conveyed {r : Response} {script : List Response} (hr : r.Scripted) (hc : c.Calm)
    (hconveys : Conveys Decoder.limit (c.sequence + 1) (r :: script) c.stream) (request : Request) :
    ∃ r' c', exchange c request = (.ok r', c') ∧ r.Alike r' ∧ c'.Calm ∧
      c'.sequence = c.sequence + 1 ∧
      c'.requests = c.requests ++ [stamped (c.sequence + 1) request] ∧
      Conveys Decoder.limit (c.sequence + 1 + 1) script c'.stream := by
  obtain ⟨r', c', hread, halike, hcalm, hsequence, hrest⟩ := readUpTo_conveyed hr
    (hc.afterRequest request) (Nat.lt_succ_self _) hconveys
  have hrequests : c'.requests = (c.afterRequest request).requests := by
    have haside := aside_readUpTo (c.sequence + 1) (c.afterRequest request).remaining.succ
      (c.afterRequest request)
    rw [hread] at haside
    exact haside.requests
  refine ⟨r', c', ?_, halike, hcalm, hsequence, ?_, hrest⟩
  · simp only [exchange, hc.sendRequest]
    exact hread
  · rw [hrequests]
    exact requests_append c [.request (stamped (c.sequence + 1) request)] rfl

/-- Where the first thing to be read is refused, so is the exchange. -/
theorem exchange_of_refused {bytes : Bytes} {d : Decoder} {cause : ParseFault}
    (h : Decoder.decode ⟨bytes⟩ = (.refused cause, d)) (e : Auth.Entropy) (request : Request) :
    ∃ c', exchange (.start [.data bytes] [] e) request = (.error (.fault (.parse cause)), c') := by
  have hcalm : Calm (.start [.data bytes] [] e) :=
    ⟨List.forall_mem_singleton.mpr (.data bytes), fun w hw => absurd hw List.not_mem_nil, rfl, rfl,
      rfl⟩
  obtain ⟨c', hread⟩ := readResponse_of_refused
    (c := (start [.data bytes] [] e).afterRequest request) h rfl rfl rfl 1
  refine ⟨c', ?_⟩
  simp only [exchange, hcalm.sendRequest]
  exact hread

end Connection

end Rtsp
