import Rtsp.Proofs.Decoder.Look
import Rtsp.Proofs.Message.Written

/-!
Bytes that spell a unit: together with whatever follows they are found to be that unit and leave
just what follows, and no part of them is found to be anything. Frames do so because their length
stands in front. A message does so because the first empty line of its head is the one that ends
it, so that nothing in the body can be taken for it, and because the head tells the length of the
body.
-/
namespace Rtsp.Decoder

structure Spells (bytes : Bytes) (m : Message) : Prop where
  begins : ∃ b tail, bytes = b :: tail ∧ isBreak b = false
  found : ∀ rest, decode ⟨bytes ++ rest⟩ = (.message m, ⟨rest⟩)
  awaited : ∀ u v, u ++ v = bytes → v ≠ [] → decode ⟨u⟩ = (.more, ⟨u⟩)

theorem Spells.length_pos {bytes : Bytes} {m : Message} (h : Spells bytes m) :
    0 < bytes.length := by
  obtain ⟨b, tail, rfl, -⟩ := h.begins
  exact Nat.succ_pos _

section EmptyLine

theorem position?_append_of_not_mem {b : UInt8} {u : Bytes} (h : b ∉ u) (p v : Bytes) :
    position? (b :: p) (u ++ v) = (position? (b :: p) v).map (· + u.length) := by
  induction u with
  | nil => simp
  | cons c u ih =>
    obtain ⟨hc, hu⟩ := not_or.mp (mt List.mem_cons.mpr h)
    have hp : ¬ b :: p <+: c :: (u ++ v) := fun hq => hc (List.cons_prefix_cons.mp hq).1
    rw [List.cons_append, position?_cons, if_neg hp, ih hu, Option.map_map]
    rfl

/-- Lines of bytes with their ends. -/
def wire (ls : List Bytes) : Bytes := ls.flatMap (· ++ [0x0D, 0x0A])

/-- Neither empty nor with a line feed in it. -/
def Line (l : Bytes) : Prop := l ≠ [] ∧ 0x0A ∉ l

variable {ls : List Bytes} {l : Bytes}

theorem wire_cons (l : Bytes) (ls : List Bytes) (v : Bytes) :
    wire (l :: ls) ++ v = l ++ 0x0D :: 0x0A :: (wire ls ++ v) := by
  simp [wire]

theorem Line.head?_append (h : Line l) (v : Bytes) : (l ++ v).head? ≠ some 0x0A := by
  obtain ⟨b, tail, rfl⟩ := List.exists_cons_of_ne_nil h.1
  rw [List.cons_append, List.head?_cons, ne_eq, Option.some.injEq]
  exact fun hb => h.2 (hb ▸ List.mem_cons_self)

theorem not_prefix_of_head? {b b' c : UInt8} {p v : Bytes} (h : v.head? ≠ some c) :
    ¬ b :: c :: p <+: b' :: v := by
  intro hq
  obtain ⟨t, rfl⟩ := (List.cons_prefix_cons.mp hq).2
  exact h rfl

/-- A pattern is not found where its second byte is not. -/
theorem position?_append_of_second {b c : UInt8} {u : Bytes} (h : c ∉ u) (p : Bytes) {v : Bytes}
    (hv : v.head? ≠ some c) :
    position? (b :: c :: p) (u ++ v) = (position? (b :: c :: p) v).map (· + u.length) := by
  induction u with
  | nil => simp
  | cons x u ih =>
    have hu : c ∉ u := fun hc => h (List.mem_cons_of_mem x hc)
    have hnext : (u ++ v).head? ≠ some c := by
      cases u with
      | nil => exact hv
      | cons y u =>
        rw [List.cons_append, List.head?_cons, ne_eq, Option.some.injEq]
        exact fun hy => hu (hy ▸ List.mem_cons_self)
    rw [List.cons_append, position?_cons, if_neg (not_prefix_of_head? hnext), ih hu,
      Option.map_map]
    rfl

/-- A line does not begin with a line end, even if it begins with a carriage return. -/
theorem Line.not_begins_end (h : Line l) (b : UInt8) (p v : Bytes) :
    ¬ b :: 0x0A :: p <+: l ++ 0x0D :: v := by
  obtain ⟨x, tail, rfl⟩ := List.exists_cons_of_ne_nil h.1
  rw [List.cons_append]
  apply not_prefix_of_head?
  cases tail with
  | nil => simp
  | cons y tail =>
    rw [List.cons_append, List.head?_cons, ne_eq, Option.some.injEq]
    exact fun hy => h.2 (hy ▸ List.mem_cons_of_mem x List.mem_cons_self)

/-- In a head no line feed follows another directly. -/
theorem position?_bare (ls : List Bytes) (h : ∀ l ∈ ls, Line l) :
    position? [0x0A, 0x0A] (wire ls ++ [0x0D, 0x0A]) = none := by
  induction ls with
  | nil => decide
  | cons l ls ih =>
    have hl := h l List.mem_cons_self
    have hrest := ih fun l' hl' => h l' (List.mem_cons_of_mem l hl')
    have hhead : (wire ls ++ [0x0D, 0x0A]).head? ≠ some 0x0A := by
      cases ls with
      | nil => decide
      | cons l' ls =>
        rw [wire_cons]
        exact (h l' (by simp)).head?_append _
    have hfeed : (0x0A : UInt8) ∉ l ++ [0x0D] := List.not_mem_append hl.2 (by decide)
    rw [wire_cons, List.append_cons, position?_append_of_not_mem hfeed, position?_cons,
      if_neg (not_prefix_of_head? hhead), hrest]
    rfl

/-- The first empty line of a head is its last. -/
theorem position?_empty (hl : Line l) (h : ∀ l ∈ ls, Line l) :
    ∃ k, position? [0x0D, 0x0A, 0x0D, 0x0A] (wire (l :: ls) ++ [0x0D, 0x0A]) = some k ∧
      k + 2 = (wire (l :: ls)).length := by
  induction ls generalizing l with
  | nil =>
    refine ⟨l.length, ?_, by simp [wire]⟩
    rw [wire_cons, position?_append_of_second hl.2 _ (by decide)]
    change Option.map _ (position? _ [0x0D, 0x0A, 0x0D, 0x0A]) = _
    rw [show position? [0x0D, 0x0A, 0x0D, 0x0A] [0x0D, 0x0A, 0x0D, 0x0A] = some 0 by decide]
    simp
  | cons l' ls ih =>
    obtain ⟨k, hk, hlen⟩ := ih (h l' List.mem_cons_self)
      fun l'' hl'' => h l'' (List.mem_cons_of_mem l' hl'')
    have hline := (h l' List.mem_cons_self).not_begins_end 0x0D []
      (0x0A :: (wire ls ++ [0x0D, 0x0A]))
    have hreturn : ¬ [0x0D, 0x0A, 0x0D, 0x0A] <+:
        0x0D :: 0x0A :: (wire (l' :: ls) ++ [0x0D, 0x0A]) := by
      rw [wire_cons, List.cons_prefix_cons, List.cons_prefix_cons]
      exact fun hq => hline hq.2.2
    have hfeed : ¬ [0x0D, 0x0A, 0x0D, 0x0A] <+:
        (0x0A : UInt8) :: (wire (l' :: ls) ++ [0x0D, 0x0A]) :=
      fun hq => absurd (List.cons_prefix_cons.mp hq).1 (by decide)
    refine ⟨k + 1 + 1 + l.length, ?_, ?_⟩
    · rw [wire_cons, position?_append_of_second hl.2 _ (by simp), position?_cons, if_neg hreturn,
        position?_cons, if_neg hfeed, hk]
      rfl
    · simp only [wire, List.flatMap_cons, List.length_append, List.length_cons,
        List.length_nil] at hlen ⊢
      omega

/-- The head of a message ends where it was meant to, whatever follows. -/
theorem headLength?_wire (hl : Line l) (h : ∀ l ∈ ls, Line l) (rest : Bytes) :
    headLength? (wire (l :: ls) ++ [0x0D, 0x0A] ++ rest) =
      some (wire (l :: ls) ++ [0x0D, 0x0A]).length := by
  obtain ⟨k, hk, hlen⟩ := position?_empty hl h
  simp only [headLength?, position?_append hk rest, List.length_append, List.length_cons,
    List.length_nil, Option.some.injEq]
  omega

/-- No head is found in a part of one. -/
theorem headLength?_part (hl : Line l) (h : ∀ l ∈ ls, Line l) {u v : Bytes}
    (huv : u ++ v = wire (l :: ls) ++ [0x0D, 0x0A]) (hv : v ≠ []) : headLength? u = none := by
  have hpos := List.length_pos_iff.mpr hv
  have hsum := congrArg List.length huv
  rw [List.length_append] at hsum
  obtain ⟨k, hk, hlen⟩ := position?_empty hl h
  have hbare := position?_bare (l :: ls) (List.forall_mem_cons.mpr ⟨hl, h⟩)
  rw [← huv] at hk hbare
  have hnone : position? [0x0D, 0x0A, 0x0D, 0x0A] u = none := by
    cases hu : position? [0x0D, 0x0A, 0x0D, 0x0A] u with
    | none => rfl
    | some j =>
      have hle := position?_le hu
      rw [position?_append hu v, Option.some.injEq] at hk
      simp only [List.length_append, List.length_cons, List.length_nil] at hle hsum
      omega
  simp only [headLength?, hnone, position?_eq_none_of_append hbare, Option.map_none]

end EmptyLine

theorem encode_head (h : Header) (start : Text) :
    Text.Utf8.encode (h.head start) =
      wire ((start :: h.map Header.Field.entry).map Text.Utf8.encode) ++ [0x0D, 0x0A] := by
  have hend : Text.Utf8.encode ['\r', '\n'] = [0x0D, 0x0A] := by decide
  simp only [Header.head, Text.Utf8.encode_append, hend, wire, List.flatMap_map]
  congr 1
  rw [Text.Utf8.encode, List.flatMap_assoc]
  congr 1
  funext l
  change Text.Utf8.encode (l ++ ['\r', '\n']) = _
  rw [Text.Utf8.encode_append, hend]

theorem line_encode {t : Text} (hne : t ≠ []) (ht : Text.OneLine t) : Line (Text.Utf8.encode t) :=
  ⟨mt Text.Utf8.encode_eq_nil_iff.mp hne, Text.Utf8.not_mem_encode (c := '\n') (by decide) ht⟩

/-- A head that opens a text, is found nowhere before its end, and announces the body. -/
structure Heads (head body : Bytes) : Prop where
  opens : ∃ b tail, head = b :: tail ∧ isBreak b = false ∧ b ≠ Frame.marker
  part : ∀ u v, u ++ v = head → v ≠ [] → headLength? u = none
  whole : ∀ rest, Announces (head ++ rest) head.length body.length

/-- The head of a text that a decoder takes. -/
structure Headed (head body : Bytes) : Prop extends Heads head body where
  fits : head.length + body.length ≤ limit

section Headed

variable {head body : Bytes}

/-- What begins like the head is looked at as a text. -/
theorem Heads.decode_eq_decodeText (h : Heads head body) {u v rest : Bytes}
    (huv : u ++ v = head ++ rest) (hu : u ≠ []) : decode ⟨u⟩ = decodeText u := by
  obtain ⟨b, tail, hcons, hbreak, hmarker⟩ := h.opens
  obtain ⟨b', u', rfl⟩ := List.exists_cons_of_ne_nil hu
  rw [hcons, List.cons_append, List.cons_append] at huv
  obtain rfl := (List.cons.inj huv).1
  rw [decode_cons hbreak, if_neg hmarker]

/-- In a part of the text there is either a part of the head, in which none is found, or all of
it. -/
theorem Heads.part_or_whole (h : Heads head body) {u v : Bytes} (huv : u ++ v = head ++ body) :
    headLength? u = none ∧ u.length < head.length ∨ Announces u head.length body.length := by
  by_cases hshort : u.length < head.length
  · obtain ⟨w, hw⟩ : u <+: head :=
      List.prefix_of_prefix_length_le ⟨v, huv⟩ (List.prefix_append head body) (by omega)
    have hw' : w ≠ [] := by
      rintro rfl
      simp [← hw] at hshort
    exact .inl ⟨h.part _ _ hw hw', hshort⟩
  · obtain ⟨w, rfl⟩ : head <+: u :=
      List.prefix_of_prefix_length_le (List.prefix_append head body) ⟨v, huv⟩ (by omega)
    exact .inr (h.whole w)

theorem Headed.decode_eq (h : Headed head body) (rest : Bytes) :
    decode ⟨head ++ (body ++ rest)⟩ =
      (.ofParse (messageAt (head ++ (body ++ rest)) head.length body.length), ⟨rest⟩) := by
  have hne : head ++ (body ++ rest) ≠ [] := by
    obtain ⟨b, tail, hcons, -⟩ := h.opens
    simp [hcons]
  have hd : decode ⟨head ++ (body ++ rest)⟩ = decodeText (head ++ (body ++ rest)) :=
    h.decode_eq_decodeText (List.append_nil _) hne
  have hlen : head.length + body.length ≤ (head ++ (body ++ rest)).length := by
    simp only [List.length_append]
    omega
  have hrest : (head ++ (body ++ rest)).drop (head.length + body.length) = rest := by
    rw [← List.append_assoc, ← List.length_append, List.drop_left]
  rw [hd, decodeText_complete (h.whole _) h.fits hlen, hrest]

/-- Up to its end the text is waited for, in its head as in its body. -/
theorem Headed.awaited (h : Headed head body) {u v : Bytes} (huv : u ++ v = head ++ body)
    (hv : v ≠ []) : decode ⟨u⟩ = (.more, ⟨u⟩) := by
  have hfits := h.fits
  have hpos := List.length_pos_iff.mpr hv
  have hsum := congrArg List.length huv
  simp only [List.length_append] at hsum
  by_cases hu : u = []
  · rw [hu]
    exact decode_of_skip_eq_nil rfl
  rw [h.decode_eq_decodeText huv hu]
  rcases h.part_or_whole huv with ⟨hpart, hshort⟩ | hwhole
  · rw [decodeText_of_headless hpart, if_neg (by omega)]
  · exact decodeText_incomplete hwhole hfits (by omega)

theorem Headed.spells (h : Headed head body) {m : Message}
    (hm : ∀ rest, messageAt (head ++ (body ++ rest)) head.length body.length = .ok m) :
    Spells (head ++ body) m := by
  constructor
  · obtain ⟨b, tail, hcons, hbreak, -⟩ := h.opens
    exact ⟨b, tail ++ body, by rw [hcons, List.cons_append], hbreak⟩
  · intro rest
    rw [List.append_assoc, h.decode_eq, hm]
    rfl
  · exact fun u v huv hv => h.awaited huv hv

end Headed

section Text

variable {h : Header} {start : Text} {body : Option Text}

/-- What a start line has to be for its message not to be taken for a frame or a line break. -/
structure Opens (start : Text) : Prop where
  oneLine : Text.OneLine start
  unmarked : ∃ c t, start = c :: t ∧ c ≠ '$' ∧ c ≠ '\r'

theorem Opens.encode_eq_cons (hs : Opens start) (t : Text) :
    ∃ b tail, Text.Utf8.encode (start ++ t) = b :: tail ∧ isBreak b = false ∧
      b ≠ Frame.marker := by
  obtain ⟨c, t', rfl, hmarker, hreturn⟩ := hs.unmarked
  obtain ⟨b, bs, hb⟩ := List.exists_cons_of_ne_nil (Text.Utf8.encodeChar_ne_nil c)
  have hne : ∀ x : Char, x.toNat < 0x80 → c ≠ x → b ≠ x.toNat.toUInt8 := by
    rintro x hx hcx rfl
    have hmem : x.toNat.toUInt8 ∈ Text.Utf8.encode [c] := by
      rw [Text.Utf8.encode_cons, hb]
      exact List.mem_cons_self
    exact Text.Utf8.not_mem_encode hx (fun h => hcx (List.mem_singleton.mp h).symm) hmem
  have hr := hne '\r' (by decide) hreturn
  have hn := hne '\n' (by decide) fun e => hs.oneLine (e ▸ List.mem_cons_self)
  refine ⟨b, bs ++ Text.Utf8.encode (t' ++ t), ?_, ?_, hne '$' (by decide) hmarker⟩
  · rw [List.cons_append, Text.Utf8.encode_cons, hb, List.cons_append]
  · exact Bool.or_eq_false_iff.mpr ⟨beq_eq_false_iff_ne.mpr hr, beq_eq_false_iff_ne.mpr hn⟩

/-- The lines of a head in bytes. -/
theorem exists_lines (hs : Opens start) (hc : ∀ f ∈ h, f.Legible) :
    ∃ l ls, Line l ∧ (∀ l ∈ ls, Line l) ∧
      Text.Utf8.encode (h.head start) = wire (l :: ls) ++ [0x0D, 0x0A] := by
  obtain ⟨c, t, hstart, -⟩ := hs.unmarked
  have hne : start ≠ [] := hstart ▸ List.cons_ne_nil c t
  refine ⟨_, _, line_encode hne hs.oneLine, ?_, encode_head h start⟩
  intro l hl
  obtain ⟨entry, hentry, rfl⟩ := List.mem_map.mp hl
  obtain ⟨f, hf, rfl⟩ := List.mem_map.mp hentry
  exact line_encode f.entry_ne_nil (hc f hf).oneLine_entry

/-- A head announces the bytes of its body, whatever follows. -/
theorem announces_head (hs : Opens start) (hc : ∀ f ∈ h, f.Legible)
    (hn : ∀ f ∈ h, f.isNamed Header.lengthName = false)
    (hsize : Text.Utf8.size (body.getD []) < Text.bound 64) (rest : Bytes) :
    Announces (Text.Utf8.encode ((h.told body).head start) ++ rest)
      (Text.Utf8.size ((h.told body).head start)) (Text.Utf8.size (body.getD [])) := by
  obtain ⟨l, ls, hl, hls, heq⟩ := exists_lines hs (Header.legible_told hc body)
  constructor
  · rw [Text.Utf8.size, heq]
    exact headLength?_wire hl hls rest
  · rw [Text.Utf8.size, List.take_left, Text.Utf8.lossy_encode]
    exact Header.bodyLength_head hs.oneLine hc hn body hsize

theorem messageAt_head (start : Text) (h : Header) (body : Option Text) (rest : Bytes) :
    messageAt (Text.Utf8.encode (h.head start) ++ (Text.Utf8.encode (body.getD []) ++ rest))
      (Text.Utf8.size (h.head start)) (Text.Utf8.size (body.getD [])) =
    parse (h.head start) (body.filter (· != [])) := by
  have hbody : (if Text.Utf8.size (body.getD []) = 0 then none else some (body.getD [])) =
      body.filter (· != []) := by
    cases body with
    | none => rfl
    | some body => by_cases hb : body = [] <;> simp [Text.Utf8.size_eq_zero_iff, Option.filter, hb]
  rw [messageAt, Text.Utf8.size, Text.Utf8.size, List.take_left, List.drop_left, List.take_left,
    Text.Utf8.lossy_encode, Text.Utf8.lossy_encode, ← hbody]
  rfl

theorem heads_head (hs : Opens start) (hc : ∀ f ∈ h, f.Legible)
    (hn : ∀ f ∈ h, f.isNamed Header.lengthName = false)
    (hsize : Text.Utf8.size (body.getD []) < Text.bound 64) :
    Heads (Text.Utf8.encode ((h.told body).head start)) (Text.Utf8.encode (body.getD [])) := by
  constructor
  · rw [Header.head, List.flatMap_cons, List.append_assoc, List.append_assoc]
    exact hs.encode_eq_cons _
  · intro u v huv hv
    obtain ⟨l, ls, hl, hls, heq⟩ := exists_lines hs (Header.legible_told hc body)
    exact headLength?_part hl hls (huv.trans heq) hv
  · exact announces_head hs hc hn hsize

theorem headed_head (hs : Opens start) (hc : ∀ f ∈ h, f.Legible)
    (hn : ∀ f ∈ h, f.isNamed Header.lengthName = false)
    (hfits : Text.Utf8.size ((h.told body).head start ++ body.getD []) ≤ limit) :
    Headed (Text.Utf8.encode ((h.told body).head start)) (Text.Utf8.encode (body.getD [])) := by
  have hbound := limit_lt_bound
  rw [Text.Utf8.size_append] at hfits
  exact ⟨heads_head hs hc hn (by omega), hfits⟩

/-- A message that is read back from its head is spelled by its text. -/
theorem spells_text {m : Message} (hs : Opens start) (hc : ∀ f ∈ h, f.Legible)
    (hn : ∀ f ∈ h, f.isNamed Header.lengthName = false)
    (hfits : Text.Utf8.size ((h.told body).head start ++ body.getD []) ≤ limit)
    (hm : parse ((h.told body).head start) (body.filter (· != [])) = .ok m) :
    Spells (Text.Utf8.encode ((h.told body).head start ++ body.getD [])) m := by
  rw [Text.Utf8.encode_append]
  apply (headed_head hs hc hn hfits).spells
  intro rest
  exact (messageAt_head start _ body rest).trans hm

end Text

theorem decodeFrame_part {channel high low : UInt8} {payload u v : Bytes}
    (hl : payload.length = high.toNat * 256 + low.toNat)
    (huv : u ++ v = channel :: high :: low :: payload) (hv : v ≠ []) :
    decodeFrame u = (.more, ⟨Frame.marker :: u⟩) := by
  rcases decodeFrame_cases u with h | ⟨channel', high', low', payload', rest, rfl, hl', -⟩
  · exact h
  · have hpos := List.length_pos_iff.mpr hv
    simp only [List.cons_append, List.cons.injEq] at huv
    obtain ⟨-, rfl, rfl, rfl⟩ := huv
    simp only [List.length_append] at hl
    omega

/-- A frame is spelled by its bytes. -/
theorem spells_frame {f : Frame} {bytes : Bytes} (hf : f.bytes? = some bytes) :
    Spells bytes (.frame f) := by
  obtain ⟨channel, payload⟩ := f
  unfold Frame.bytes? at hf
  dsimp only at hf
  split at hf
  · rename_i hsize
    obtain rfl := Option.some.inj hf
    have hlen : payload.length =
        (payload.length / 256).toUInt8.toNat * 256 + (payload.length % 256).toUInt8.toNat := by
      simp
      omega
    have hbreak : isBreak Frame.marker = false := by decide
    refine ⟨⟨_, _, rfl, hbreak⟩, ?_, ?_⟩
    · intro rest
      simp only [List.cons_append]
      rw [decode_cons hbreak, if_pos rfl, decodeFrame_complete channel rest hlen]
    · intro u v huv hv
      cases u with
      | nil => exact decode_of_skip_eq_nil rfl
      | cons b u =>
        obtain ⟨rfl, htail⟩ := List.cons.inj huv
        rw [decode_cons hbreak, if_pos rfl]
        exact decodeFrame_part hlen htail hv
  · simp at hf

end Rtsp.Decoder
