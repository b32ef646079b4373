import Mathlib.Data.List.Count
import Mathlib.Data.List.Forall2
import Rtsp.Proofs.Auth.Announced

/-!
What a server finds in a signature. Names and texts are put between quotes as they are, and a reader
takes a quote for the end of a value and a backslash for the sign that the next character is to be
taken as it is. So a text comes back exactly if it has neither, and no blanks at its ends; whatever
else it has may look like a parameter. A server that knows the password then finds the proof that it
computes from what it finds.
-/
namespace Rtsp

namespace Text

/-- Nothing in the text has a meaning of its own between quotes. -/
def Verbatim (t : Text) : Prop := '"' ∉ t ∧ '\\' ∉ t

instance (t : Text) : Decidable (Verbatim t) := inferInstanceAs (Decidable ('"' ∉ t ∧ '\\' ∉ t))

theorem verbatim_of_mem_digits {t : Text} (h : ∀ c ∈ t, c ∈ "0123456789abcdef*".toList) :
    Verbatim t :=
  ⟨fun hc => absurd (h _ hc) (by decide), fun hc => absurd (h _ hc) (by decide)⟩

theorem trim_sublist (t : Text) : List.Sublist (trim t) t := by
  have hend : List.Sublist (trim t) (trimStart t) := by
    have hdrop := (List.dropWhile_sublist isBlank (l := (trimStart t).reverse)).reverse
    rwa [List.reverse_reverse] at hdrop
  exact hend.trans (List.dropWhile_sublist isBlank)

end Text

namespace Auth

open Text (AllBlank Blankless Verbatim)

namespace Parameter

section Quotes

variable {v rest : Text}

theorem escaped_of_verbatim (h : Verbatim v) : Escaped v v := by
  induction v with
  | nil => exact .nil
  | cons c v ih =>
    obtain ⟨hquote, hrest⟩ := not_or.mp (mt List.mem_cons.mpr h.1)
    obtain ⟨hbackslash, hrest'⟩ := not_or.mp (mt List.mem_cons.mpr h.2)
    exact .plain (Ne.symm hquote) (Ne.symm hbackslash) (ih ⟨hrest, hrest'⟩)

/-- Without a backslash a value is read up to the first quote. -/
theorem quoted_fst_of_plain {t : Text} (h : '\\' ∉ t.takeWhile (· != '"')) (done : Text) :
    (quoted done t).1 = done.reverse ++ t.takeWhile (· != '"') := by
  induction t generalizing done with
  | nil => simp [quoted]
  | cons c t ih =>
    by_cases hquote : c = '"'
    · subst hquote
      rw [quoted_end, List.takeWhile_cons_of_neg (by decide), List.append_nil]
    · have htake : (c :: t).takeWhile (· != '"') = c :: t.takeWhile (· != '"') :=
        List.takeWhile_cons_of_pos (bne_iff_ne.mpr hquote)
      rw [htake] at h ⊢
      obtain ⟨hbackslash, hrest⟩ := not_or.mp (mt List.mem_cons.mpr h)
      rw [quoted_plain hquote (Ne.symm hbackslash), ih hrest]
      simp

/-- Two backslashes are read as one, and one backslash as none. If the last one takes the quote that
was to end the value, no more of them are in what is read behind it. -/
theorem count_backslash_quoted_le (hrest : '\\' ∉ rest.takeWhile (· != '"')) (v done : Text) :
    2 * (quoted done (v ++ '"' :: rest)).1.count '\\' ≤ 2 * done.count '\\' + v.count '\\' := by
  -- On the length, as a backslash takes the next character with it.
  induction hlength : v.length using Nat.strongRecOn generalizing v done with
  | ind n ih =>
    cases v with
    | nil =>
      rw [List.nil_append, quoted_end, List.count_reverse, List.count_nil]
      omega
    | cons c v =>
      rw [List.length_cons] at hlength
      by_cases hbackslash : c = '\\'
      · subst hbackslash
        cases v with
        | nil =>
          rw [List.singleton_append, quoted_escape, quoted_fst_of_plain hrest, List.count_append,
            List.count_eq_zero.mpr hrest, List.count_reverse, List.count_cons_of_ne (by decide)]
          omega
        | cons d v =>
          rw [List.length_cons] at hlength
          have hmore := ih v.length (by omega) v (d :: done) rfl
          rw [List.cons_append, List.cons_append, quoted_escape, List.count_cons_self]
          by_cases hd : d = '\\'
          · subst hd
            rw [List.count_cons_self] at hmore ⊢
            omega
          · rw [List.count_cons_of_ne hd] at hmore ⊢
            omega
      · rw [List.count_cons_of_ne hbackslash]
        by_cases hquote : c = '"'
        · subst hquote
          rw [List.cons_append, quoted_end, List.count_reverse]
          omega
        · have hmore := ih v.length (by omega) v (c :: done) rfl
          rw [List.cons_append, quoted_plain hquote hbackslash]
          rwa [List.count_cons_of_ne hbackslash] at hmore

/-- A text comes back from between its quotes exactly if nothing in it has a meaning of its own there
and neither of its ends is blank. -/
theorem trim_quoted_eq_iff (hrest : '\\' ∉ rest.takeWhile (· != '"')) :
    Text.trim (quoted [] (v ++ '"' :: rest)).1 = v ↔ Verbatim v ∧ Text.trim v = v := by
  constructor
  · intro hback
    have hbackslash : '\\' ∉ v := by
      have hread := count_backslash_quoted_le hrest v []
      have htrim := (Text.trim_sublist (quoted [] (v ++ '"' :: rest)).1).count_le '\\'
      rw [hback] at htrim
      rw [List.count_nil] at hread
      exact List.count_eq_zero.mp (by omega)
    have hplain : '\\' ∉ (v ++ '"' :: rest).takeWhile (· != '"') := by
      intro hmem
      rw [List.takeWhile_append] at hmem
      split at hmem
      · rw [List.takeWhile_cons_of_neg (by decide), List.append_nil] at hmem
        exact hbackslash hmem
      · exact hbackslash (List.takeWhile_subset _ hmem)
    have hquote : '"' ∉ v := by
      intro hmem
      rw [← hback] at hmem
      have hread := (Text.trim_sublist _).subset hmem
      rw [quoted_fst_of_plain hplain] at hread
      exact absurd (List.mem_takeWhile_imp hread) (by decide)
    have hverbatim : Verbatim v := ⟨hquote, hbackslash⟩
    refine ⟨hverbatim, ?_⟩
    rwa [quoted_of_escaped (escaped_of_verbatim hverbatim)] at hback
  · rintro ⟨hverbatim, htrim⟩
    rw [quoted_of_escaped (escaped_of_verbatim hverbatim)]
    exact htrim

end Quotes

section Fields

variable {ps qs : List Parameter} {name : String}

theorem find?_nil (name : String) : find? [] name = none := rfl

theorem find?_cons (p : Parameter) (ps : List Parameter) (name : String) :
    find? (p :: ps) name = if p.name = name.toList then some p.value else find? ps name := by
  by_cases h : p.name = name.toList <;> simp [find?, h]

theorem find?_append (ps qs : List Parameter) (name : String) :
    find? (ps ++ qs) name = (find? ps name).or (find? qs name) := by
  rw [find?, List.find?_append, Option.map_or, find?, find?]

/-- A name as a reader gives it, and free of backslashes. -/
structure IsKey (name : String) : Prop where
  isName : IsName name.toList
  lower : Text.lower name.toList = name.toList
  verbatim : Verbatim name.toList

instance (name : String) : Decidable (IsKey name) :=
  decidable_of_iff
    (IsName name.toList ∧ Text.lower name.toList = name.toList ∧ Verbatim name.toList)
    ⟨fun h => ⟨h.1, h.2.1, h.2.2⟩, fun h => ⟨h.isName, h.lower, h.verbatim⟩⟩

/-- Fields with what separates them from those before. -/
def behind (fields : List Text) : Text := fields.flatMap fun field => ',' :: ' ' :: field

theorem intercalate_eq_behind (field : Text) (fields : List Text) :
    [',', ' '].intercalate (field :: fields) = field ++ behind fields := by
  induction fields generalizing field with
  | nil => rw [List.intercalate_singleton]; exact (List.append_nil field).symm
  | cons next fields ih =>
    rw [List.intercalate_cons_cons, ih, List.append_assoc]
    rfl

theorem list_behind_cons (field : Text) (fields : List Text) :
    list (behind (field :: fields)) = list (field ++ behind fields) := by
  have hgap : ∀ c ∈ [',', ' '], isGap c = true := by decide
  exact list_gap_append hgap _

theorem behind_eq_nil_or (fields : List Text) : behind fields = [] ∨ ∃ t, behind fields = ',' :: t := by
  cases fields with
  | nil => exact .inl rfl
  | cons field fields => exact .inr ⟨_, rfl⟩

/-- Fields that are written like parameters are read one after another, whatever follows them. -/
theorem list_behind_append {fields : List Text} (h : List.Forall₂ Written ps fields)
    (others : List Text) :
    list (behind (fields ++ others)) = ps.map trimmed ++ list (behind others) := by
  induction h with
  | nil => rfl
  | @cons p field ps fields written _ ih =>
    have hread := list_written_append (a := []) written (fun c hc => absurd hc List.not_mem_nil)
      (behind_eq_nil_or (fields ++ others))
    rw [List.cons_append, list_behind_cons, ← List.nil_append (behind _), hread, ih]
    rfl

theorem list_quote_append (h : IsKey name) (v rest : Text) :
    list (Signer.quote name v ++ rest) =
      ⟨name.toList, Text.trim (quoted [] (v ++ '"' :: rest)).1⟩ ::
        list (quoted [] (v ++ '"' :: rest)).2 := by
  have hsplit : Signer.quote name v ++ rest =
      name.toList ++ [] ++ '=' :: ([] ++ '"' :: (v ++ '"' :: rest)) := by
    simp [Signer.quote]
  have hnext := next?_equals h.isName.leads (a := []) (fun c hc => absurd hc List.not_mem_nil)
    ([] ++ '"' :: (v ++ '"' :: rest))
  rw [readValue_quoted fun c hc => absurd hc List.not_mem_nil, h.lower] at hnext
  rw [hsplit, list_of_next? hnext h.isName.ne_nil]

/-- Before the next field there is its name up to the first quote. -/
theorem not_mem_takeWhile_behind (h : IsKey name) (v : Text) (fields : List Text) :
    '\\' ∉ (behind (Signer.quote name v :: fields)).takeWhile (· != '"') := by
  have hname : ∀ c ∈ ',' :: ' ' :: (name.toList ++ ['=']), (c != '"') = true := by
    intro c hc
    simp only [List.mem_cons, List.mem_append, List.not_mem_nil, or_false] at hc
    rcases hc with rfl | rfl | hc | rfl
    · decide
    · decide
    · exact bne_iff_ne.mpr fun heq => h.verbatim.1 (heq ▸ hc)
    · decide
  have hsplit : behind (Signer.quote name v :: fields) =
      (',' :: ' ' :: (name.toList ++ ['='])) ++ '"' :: (v ++ '"' :: behind fields) := by
    simp [behind, Signer.quote]
  rw [hsplit, List.takeWhile_append_of_pos hname, List.takeWhile_cons_of_neg (by decide)]
  have hbackslash := h.verbatim.2
  simp only [List.append_nil, List.mem_cons, List.mem_append, List.not_mem_nil, or_false]
  rintro (heq | heq | hmem | heq)
  · cases heq
  · cases heq
  · exact hbackslash hmem
  · cases heq

/-- A field as a name and the text that is put between quotes. -/
def quotes (qs : List (String × Text)) : List Text := qs.map fun q => Signer.quote q.1 q.2

def told (qs : List (String × Text)) : List Parameter := qs.map fun q => ⟨q.1.toList, q.2⟩

theorem find?_told_append {qs : List (String × Text)} (hnodup : (qs.map Prod.fst).Nodup)
    (others : List Parameter) : ∀ q ∈ qs, find? (told qs ++ others) q.1 = some q.2 := by
  induction qs with
  | nil => exact fun q hq => absurd hq List.not_mem_nil
  | cons q qs ih =>
    obtain ⟨hfirst, hrest⟩ := List.nodup_cons.mp hnodup
    intro q' hq'
    change find? (⟨q.1.toList, q.2⟩ :: (told qs ++ others)) q'.1 = some q'.2
    rw [find?_cons]
    rcases List.mem_cons.mp hq' with rfl | hq'
    · exact if_pos rfl
    · rw [if_neg, ih hrest q' hq']
      exact fun heq => hfirst (String.toList_injective heq ▸ List.mem_map_of_mem hq')

theorem list_quotes_append {qs : List (String × Text)} (hkeys : ∀ q ∈ qs, IsKey q.1)
    (hback : ∀ q ∈ qs, Verbatim q.2 ∧ Text.trim q.2 = q.2) (others : List Text) :
    list (behind (quotes qs ++ others)) = told qs ++ list (behind others) := by
  induction qs with
  | nil => rfl
  | cons q qs ih =>
    obtain ⟨hkey, hkeys⟩ := List.forall_mem_cons.mp hkeys
    obtain ⟨⟨hverbatim, htrim⟩, hback⟩ := List.forall_mem_cons.mp hback
    change list (behind (Signer.quote q.1 q.2 :: (quotes qs ++ others))) =
      ⟨q.1.toList, q.2⟩ :: (told qs ++ list (behind others))
    rw [list_behind_cons, list_quote_append hkey,
      quoted_of_escaped (escaped_of_verbatim hverbatim), List.reverse_nil, List.nil_append, htrim,
      ih hkeys hback]

/-- Of fields in quotes each is found as it was told exactly if every text comes back from between
its quotes: the first that does not is found as something else. -/
theorem finds_quotes_iff {qs : List (String × Text)} {others : List Text}
    (hkeys : ∀ q ∈ qs, IsKey q.1) (hnodup : (qs.map Prod.fst).Nodup)
    (hothers : '\\' ∉ (behind others).takeWhile (· != '"')) :
    (∀ q ∈ qs, find? (list (behind (quotes qs ++ others))) q.1 = some q.2) ↔
      ∀ q ∈ qs, Verbatim q.2 ∧ Text.trim q.2 = q.2 := by
  constructor
  · intro hfound
    -- If the first text comes back, reading goes on exactly behind it, and the others are found as
    -- they are found without it.
    induction qs with
    | nil => exact fun q hq => absurd hq List.not_mem_nil
    | cons q qs ih =>
      obtain ⟨hkey, hkeys⟩ := List.forall_mem_cons.mp hkeys
      obtain ⟨hfirst, hrest⟩ := List.nodup_cons.mp hnodup
      have hnext : '\\' ∉ (behind (quotes qs ++ others)).takeWhile (· != '"') := by
        cases qs with
        | nil => exact hothers
        | cons q' qs =>
          exact not_mem_takeWhile_behind (hkeys q' List.mem_cons_self) q'.2 (quotes qs ++ others)
      have hread := list_quote_append hkey q.2 (behind (quotes qs ++ others))
      rw [← list_behind_cons] at hread
      have hback : Verbatim q.2 ∧ Text.trim q.2 = q.2 := by
        have hself := hfound q List.mem_cons_self
        change find? (list (behind (Signer.quote q.1 q.2 :: (quotes qs ++ others)))) q.1 = _ at hself
        rw [hread, find?_cons, if_pos rfl] at hself
        exact (trim_quoted_eq_iff hnext).mp (Option.some.inj hself)
      refine List.forall_mem_cons.mpr ⟨hback, ih hkeys hrest fun q' hq' => ?_⟩
      have hlater := hfound q' (List.mem_cons_of_mem q hq')
      change find? (list (behind (Signer.quote q.1 q.2 :: (quotes qs ++ others)))) q'.1 = _ at hlater
      rw [hread, quoted_of_escaped (escaped_of_verbatim hback.1), find?_cons, if_neg] at hlater
      · exact hlater
      · exact fun heq => hfirst (String.toList_injective heq ▸ List.mem_map_of_mem hq')
  · intro hback q hq
    rw [list_quotes_append hkeys hback]
    exact find?_told_append hnodup _ q hq

end Fields

end Parameter

open Parameter (IsKey IsToken Written find? behind quotes told)

/-- What a server takes for proof that the client knows the password, if `ps` is what it finds in a
signature: the digest of the credentials and the nonce with the request, and with the number of the
use and the client's own nonce where plain authentication is named. -/
def expected? (c : Credentials) (terms : DigestTerms) (method uri : Text) (ps : List Parameter) :
    Option Text :=
  let digest := (terms.algorithm.getD .md5).digest
  let secret := digest (c.username ++ ':' :: terms.realm ++ ':' :: c.secret)
  let request := digest (method ++ ':' :: uri)
  match find? ps "qop" with
  | none => some (digest (secret ++ ':' :: terms.nonce ++ ':' :: request))
  | some qop =>
    if qop = "auth".toList then
      (find? ps "nc").bind fun count =>
        (find? ps "cnonce").map fun cnonce =>
          digest (secret ++ ':' :: terms.nonce ++ ':' :: count ++ ':' :: cnonce ++
            ":auth:".toList ++ request)
    else none

/-- A server that knows the password finds in a signature what it has asked for. -/
structure Accepts (c : Credentials) (terms : DigestTerms) (method uri : Text)
    (ps : List Parameter) : Prop where
  username : find? ps "username" = some c.username
  realm : find? ps "realm" = some terms.realm
  nonce : find? ps "nonce" = some terms.nonce
  address : find? ps "uri" = some uri
  ticket : find? ps "opaque" = terms.ticket
  protection : find? ps "qop" = if terms.counted then some "auth".toList else none
  response : ∃ proof, expected? c terms method uri ps = some proof ∧ find? ps "response" = some proof

namespace Signer

section Fields

variable (c : Credentials) (terms : DigestTerms) (count : Option (Nat × Text)) (method uri : Text)

/-- The fields that tell texts of others. -/
def ownQuotes : List (String × Text) :=
  [("username", c.username), ("realm", terms.realm), ("nonce", terms.nonce), ("uri", uri)]

def ticketQuotes : List (String × Text) := (terms.ticket.map fun t => ("opaque", t)).toList

/-- The fields that the signer makes itself, as a reader gives them. -/
def madeParameters : List Parameter :=
  ⟨"response".toList, proof c terms count method uri⟩ ::
    ((match count with
      | some (n, cnonce) => [⟨"qop".toList, "auth".toList⟩, ⟨"nc".toList, countText n⟩,
          ⟨"cnonce".toList, cnonce⟩]
      | none => []) ++ (terms.algorithm.map fun a => ⟨"algorithm".toList, a.name⟩).toList)

def madeFields : List Text :=
  quote "response" (proof c terms count method uri) ::
    (countFields count ++ (terms.algorithm.map fun a => "algorithm=".toList ++ a.name).toList)

theorem isKey_ownQuotes : ∀ q ∈ ownQuotes c terms uri, IsKey q.1 := by
  simp only [ownQuotes, List.forall_mem_cons]
  decide

theorem isKey_ticketQuotes : ∀ q ∈ ticketQuotes terms, IsKey q.1 := by
  unfold ticketQuotes
  cases terms.ticket with
  | none => exact fun q hq => absurd hq List.not_mem_nil
  | some t => exact List.forall_mem_singleton.mpr (by decide : IsKey "opaque")

theorem nodup_ownQuotes : ((ownQuotes c terms uri).map Prod.fst).Nodup := by
  simp only [ownQuotes, List.map_cons, List.map_nil]
  decide

theorem nodup_ticketQuotes : ((ticketQuotes terms).map Prod.fst).Nodup := by
  unfold ticketQuotes
  cases terms.ticket <;> simp

theorem digestFields_eq : digestFields c terms count method uri =
    quotes (ownQuotes c terms uri) ++
      (madeFields c terms count method uri ++ quotes (ticketQuotes terms)) := by
  unfold digestFields ticketQuotes
  cases terms.ticket <;> simp [quotes, ownQuotes, madeFields]

theorem written_quote {name : String} (hkey : IsKey name) {v : Text} (hv : Verbatim v) :
    Written ⟨name.toList, v⟩ (quote name v) :=
  .of_escaped hkey.lower hkey.isName (Parameter.escaped_of_verbatim hv)

theorem written_token {name : String} (hkey : IsKey name) {v : Text} (hv : IsToken v) :
    Written ⟨name.toList, v⟩ (name.toList ++ '=' :: v) :=
  .of_token hkey.lower hkey.isName hv

theorem mem_digits_of_mem_countText {n : Nat} {x : Char} (h : x ∈ countText n) :
    x ∈ "0123456789abcdef*".toList := by
  rcases List.mem_append.mp h with h | h
  · exact List.eq_of_mem_replicate h ▸ by decide
  · exact Text.mem_of_mem_toDigits (by decide) h

theorem isToken_countText (n : Nat) : IsToken (countText n) where
  ne_nil := countText_ne_nil n
  blankless := blankless_countText n
  comma := fun h => absurd (mem_digits_of_mem_countText h) (by decide)
  quote := fun h => absurd (mem_digits_of_mem_countText h) (by decide)

theorem mem_digits_of_mem_digest {a : Algorithm} {t : Text} {x : Char} (h : x ∈ a.digest t) :
    x ∈ "0123456789abcdef*".toList := by
  cases a <;> exact Text.mem_of_mem_hex h

theorem verbatim_proof : Verbatim (proof c terms count method uri) := by
  refine Text.verbatim_of_mem_digits fun x hx => ?_
  unfold proof at hx
  simp only at hx
  split at hx <;> exact mem_digits_of_mem_digest hx

theorem written_madeFields (hcount : ∀ n cnonce, count = some (n, cnonce) → Verbatim cnonce) :
    List.Forall₂ Written (madeParameters c terms count method uri)
      (madeFields c terms count method uri) := by
  refine .cons (written_quote (by decide) (verbatim_proof c terms count method uri)) ?_
  refine List.rel_append ?_ ?_
  · cases count with
    | none => exact .nil
    | some counted =>
      obtain ⟨n, cnonce⟩ := counted
      refine .cons ?_ (.cons ?_ (.cons (written_quote (by decide) (hcount n cnonce rfl)) .nil))
      · exact written_token (by decide : IsKey "qop") (by decide)
      · exact written_token (by decide : IsKey "nc") (isToken_countText n)
  · cases terms.algorithm with
    | none => exact .nil
    | some a =>
      refine .cons (written_token (by decide : IsKey "algorithm") ?_) .nil
      cases a <;> decide

theorem trimmed_madeParameters (hcount : ∀ n cnonce, count = some (n, cnonce) → Blankless cnonce) :
    (madeParameters c terms count method uri).map Parameter.trimmed =
      madeParameters c terms count method uri := by
  refine Parameter.map_trimmed_eq_self (List.forall_mem_cons.mpr ⟨?_, ?_⟩)
  · exact Text.trim_of_blankless (blankless_proof c terms count method uri)
  refine List.forall_mem_append.mpr ⟨?_, ?_⟩
  · cases count with
    | none => exact fun p hp => absurd hp List.not_mem_nil
    | some counted =>
      obtain ⟨n, cnonce⟩ := counted
      simp only [List.forall_mem_cons]
      exact ⟨by decide, Text.trim_of_blankless (blankless_countText n),
        Text.trim_of_blankless (hcount n cnonce rfl), fun p hp => absurd hp List.not_mem_nil⟩
  · cases terms.algorithm with
    | none => exact fun p hp => absurd hp List.not_mem_nil
    | some a => cases a <;> decide

variable {c terms count method uri}

/-- Where the texts of others come back, all that was written is read. -/
theorem list_digestFields
    (hback : ∀ q ∈ ownQuotes c terms uri, Verbatim q.2 ∧ Text.trim q.2 = q.2)
    (hcount : ∀ n cnonce, count = some (n, cnonce) → Verbatim cnonce ∧ Blankless cnonce) :
    Parameter.list (behind (digestFields c terms count method uri)) =
      told (ownQuotes c terms uri) ++ (madeParameters c terms count method uri ++
        Parameter.list (behind (quotes (ticketQuotes terms)))) := by
  have hwritten := written_madeFields c terms count method uri fun n cnonce h => (hcount n cnonce h).1
  have htrimmed := trimmed_madeParameters c terms count method uri
    fun n cnonce h => (hcount n cnonce h).2
  rw [digestFields_eq, Parameter.list_quotes_append (isKey_ownQuotes c terms uri) hback,
    Parameter.list_behind_append hwritten, htrimmed]

theorem find?_ticket_of_quotes (others : List Parameter) :
    find? (told (ownQuotes c terms uri) ++ (madeParameters c terms count method uri ++ others))
      "opaque" = find? others "opaque" := by
  have hown : find? (told (ownQuotes c terms uri)) "opaque" = none := by
    simp [told, ownQuotes, Parameter.find?_cons, Parameter.find?_nil]
  have hmade : find? (madeParameters c terms count method uri) "opaque" = none := by
    unfold madeParameters
    cases count <;> cases terms.algorithm <;> simp [Parameter.find?_cons, Parameter.find?_nil]
  rw [Parameter.find?_append, hown, Option.none_or, Parameter.find?_append, hmade, Option.none_or]

theorem find?_made_of_quotes {others : List Parameter} {name : String}
    (hname : name ∈ ["qop", "nc", "cnonce"]) (hothers : find? others name = none) :
    find? (told (ownQuotes c terms uri) ++ (madeParameters c terms count method uri ++ others))
      name = find? (madeParameters c terms count method uri) name := by
  have hown : find? (told (ownQuotes c terms uri)) name = none := by
    simp only [List.mem_cons, List.not_mem_nil, or_false] at hname
    rcases hname with rfl | rfl | rfl <;>
      simp [told, ownQuotes, Parameter.find?_cons, Parameter.find?_nil]
  rw [Parameter.find?_append, hown, Option.none_or, Parameter.find?_append, hothers,
    Option.or_none]

theorem find?_qop_made : find? (madeParameters c terms count method uri) "qop" =
    count.map fun _ => "auth".toList := by
  unfold madeParameters
  cases count <;> cases terms.algorithm <;> simp [Parameter.find?_cons, Parameter.find?_nil]

/-- The proof that is told is the one that is expected of who finds the rest. -/
theorem expected?_digestFields {others : List Parameter}
    (hothers : ∀ name ∈ ["qop", "nc", "cnonce"], find? others name = none) :
    expected? c terms method uri
      (told (ownQuotes c terms uri) ++ (madeParameters c terms count method uri ++ others)) =
      some (proof c terms count method uri) := by
  have hfind : ∀ name ∈ ["qop", "nc", "cnonce"],
      find? (told (ownQuotes c terms uri) ++ (madeParameters c terms count method uri ++ others))
        name = find? (madeParameters c terms count method uri) name :=
    fun name hname => find?_made_of_quotes hname (hothers name hname)
  have hqop := hfind "qop" (by decide)
  have hnc := hfind "nc" (by decide)
  have hcnonce := hfind "cnonce" (by decide)
  simp only [expected?, hqop, hnc, hcnonce, find?_qop_made]
  cases count with
  | none => simp [proof, join]
  | some counted =>
    obtain ⟨n, cnonce⟩ := counted
    simp [madeParameters, Parameter.find?_cons, proof, join]

/-- A signature is accepted exactly if every text of others comes back from between its quotes. -/
theorem accepts_digestFields_iff (hcounted : count.isSome = terms.counted)
    (hcount : ∀ n cnonce, count = some (n, cnonce) → Verbatim cnonce ∧ Blankless cnonce) :
    Accepts c terms method uri
        (Parameter.list (behind (digestFields c terms count method uri))) ↔
      (∀ q ∈ ownQuotes c terms uri, Verbatim q.2 ∧ Text.trim q.2 = q.2) ∧
        ∀ q ∈ ticketQuotes terms, Verbatim q.2 ∧ Text.trim q.2 = q.2 := by
  have hmade : '\\' ∉ (behind (madeFields c terms count method uri ++
      quotes (ticketQuotes terms))).takeWhile (· != '"') :=
    Parameter.not_mem_takeWhile_behind (by decide) _ _
  have hown := Parameter.finds_quotes_iff (isKey_ownQuotes c terms uri)
    (nodup_ownQuotes c terms uri) hmade
  have hend : '\\' ∉ (behind []).takeWhile (· != '"') := List.not_mem_nil
  have hticket := Parameter.finds_quotes_iff (isKey_ticketQuotes terms) (nodup_ticketQuotes terms)
    hend
  rw [← digestFields_eq] at hown
  rw [List.append_nil] at hticket
  constructor
  · intro h
    have hback := hown.mp (by
      simp only [ownQuotes, List.forall_mem_cons]
      exact ⟨h.username, h.realm, h.nonce, h.address, fun q hq => absurd hq List.not_mem_nil⟩)
    refine ⟨hback, hticket.mp fun q hq => ?_⟩
    obtain ⟨t, ht, rfl⟩ := Option.map_eq_some_iff.mp (Option.mem_toList.mp hq)
    have hfound := h.ticket
    rw [list_digestFields hback hcount, find?_ticket_of_quotes, ht] at hfound
    exact hfound
  · rintro ⟨hback, hbackTicket⟩
    have hown := hown.mpr hback
    have hread := @list_digestFields c terms count method uri hback hcount
    have htold : Parameter.list (behind (quotes (ticketQuotes terms))) = told (ticketQuotes terms) := by
      have hlist := Parameter.list_quotes_append (isKey_ticketQuotes terms) hbackTicket []
      rwa [List.append_nil, show Parameter.list (behind []) = [] from rfl, List.append_nil] at hlist
    simp only [ownQuotes, List.forall_mem_cons] at hown
    obtain ⟨husername, hrealm, hnonce, haddress, -⟩ := hown
    have hticketNames : ∀ name ∈ ["qop", "nc", "cnonce"],
        find? (told (ticketQuotes terms)) name = none := by
      intro name hname
      unfold ticketQuotes
      cases terms.ticket with
      | none => rfl
      | some t =>
        simp only [List.mem_cons, List.not_mem_nil, or_false] at hname
        rcases hname with rfl | rfl | rfl <;> simp [told, Parameter.find?_cons, Parameter.find?_nil]
    refine ⟨husername, hrealm, hnonce, haddress, ?_, ?_, proof c terms count method uri, ?_, ?_⟩
    · rw [hread, find?_ticket_of_quotes, htold, ticketQuotes]
      cases terms.ticket with
      | none => rfl
      | some t => simp [told, Parameter.find?_cons]
    · rw [hread, htold, find?_made_of_quotes (by decide) (hticketNames "qop" (by decide)),
        find?_qop_made, ← hcounted]
      cases count <;> rfl
    · rw [hread, htold]
      exact expected?_digestFields hticketNames
    · rw [hread]
      simp [told, ownQuotes, madeParameters, Parameter.find?_cons]

theorem verbatim_draw (e : Entropy) : Verbatim e.draw.1 := by
  refine Text.verbatim_of_mem_digits fun x hx => ?_
  rcases List.mem_append.mp hx with hx | hx
  · exact List.eq_of_mem_replicate hx ▸ by decide
  · exact Text.mem_of_mem_toDigits (by decide) hx

end Fields

/-- The texts that come from elsewhere and are put between quotes. -/
def foreign (c : Credentials) (terms : DigestTerms) (uri : Text) : List Text :=
  [c.username, terms.realm, terms.nonce, uri] ++ terms.ticket.toList

/-- The texts of a challenge that was read, and an address, have no blanks at their ends, so that
only the name of the user may have some. -/
theorem quotes_back_iff {c : Credentials} {terms : DigestTerms} {uri : Text}
    (hrealm : Text.trim terms.realm = terms.realm) (hnonce : Text.trim terms.nonce = terms.nonce)
    (hticket : ∀ t, terms.ticket = some t → Text.trim t = t) (huri : Text.trim uri = uri) :
    ((∀ q ∈ ownQuotes c terms uri, Verbatim q.2 ∧ Text.trim q.2 = q.2) ∧
        ∀ q ∈ ticketQuotes terms, Verbatim q.2 ∧ Text.trim q.2 = q.2) ↔
      (∀ t ∈ foreign c terms uri, Verbatim t) ∧ Text.trim c.username = c.username := by
  constructor
  · rintro ⟨hown, hticketBack⟩
    simp only [ownQuotes, List.forall_mem_cons] at hown
    obtain ⟨husername, hrealmBack, hnonceBack, haddress, -⟩ := hown
    refine ⟨List.forall_mem_append.mpr ⟨?_, fun t ht => ?_⟩, husername.2⟩
    · simp only [List.forall_mem_cons]
      exact ⟨husername.1, hrealmBack.1, hnonceBack.1, haddress.1,
        fun t ht => absurd ht List.not_mem_nil⟩
    · have hmem : ("opaque", t) ∈ ticketQuotes terms :=
        Option.mem_toList.mpr (Option.map_eq_some_iff.mpr ⟨t, Option.mem_toList.mp ht, rfl⟩)
      exact (hticketBack _ hmem).1
  · rintro ⟨hverbatim, husername⟩
    obtain ⟨hown, hverbatimTicket⟩ := List.forall_mem_append.mp hverbatim
    simp only [List.forall_mem_cons] at hown
    obtain ⟨husername', hrealm', hnonce', haddress', -⟩ := hown
    constructor
    · simp only [ownQuotes, List.forall_mem_cons]
      exact ⟨⟨husername', husername⟩, ⟨hrealm', hrealm⟩, ⟨hnonce', hnonce⟩, ⟨haddress', huri⟩,
        fun q hq => absurd hq List.not_mem_nil⟩
    · intro q hq
      obtain ⟨t, ht, rfl⟩ := Option.map_eq_some_iff.mp (Option.mem_toList.mp hq)
      exact ⟨hverbatimTicket t (Option.mem_toList.mpr ht), hticket t ht⟩

/-- A server that has asked for a digest and knows the password finds in a signature what it has
asked for and the proof that it computes, exactly if nothing in the foreign texts has a meaning of
its own between quotes and the name of the user has no blanks at its ends. -/
theorem sign_accepted_iff {challenge : Text} {terms : DigestTerms}
    (hparse : Challenge.parse? challenge = some (.digest terms)) (c : Credentials) (uses : Nat)
    (e : Entropy) (method : Text) {uri : Text} (huri : Blankless uri) :
    ∃ params, ((⟨c, .digest terms, uses⟩ : Signer).sign e method uri).1 =
        "Digest ".toList ++ params ∧
      (Accepts c terms method uri (Parameter.list params) ↔
        (∀ t ∈ foreign c terms uri, Verbatim t) ∧ Text.trim c.username = c.username) := by
  let count := if terms.counted then some (uses + 1, e.draw.1) else none
  have hcount : ∀ n cnonce, count = some (n, cnonce) → Verbatim cnonce ∧ Blankless cnonce := by
    intro n cnonce h
    obtain ⟨-, hsome⟩ := Option.ite_none_right_eq_some.mp h
    obtain ⟨-, rfl⟩ := Prod.mk.inj (Option.some.inj hsome)
    exact ⟨verbatim_draw e, blankless_draw e⟩
  refine ⟨[',', ' '].intercalate (digestFields c terms count method uri), ?_, ?_⟩
  · change (signWith ⟨c, .digest terms, uses⟩ e.draw.1 method uri).1 = _
    simp only [signWith, count]
    cases terms.counted <;> rfl
  have hread : Parameter.list ([',', ' '].intercalate (digestFields c terms count method uri)) =
      Parameter.list (behind (digestFields c terms count method uri)) := by
    rw [digestFields_eq]
    exact (Parameter.intercalate_eq_behind _ _ ▸ Parameter.list_behind_cons _ _).symm
  obtain ⟨rest, -, hrealm, hnonce, hticket⟩ := Challenge.found_of_parse? hparse
  have hrealm := (Parameter.find?_list hrealm).2
  have hnonce := (Parameter.find?_list hnonce).2
  have hticket : ∀ t, terms.ticket = some t → Text.trim t = t :=
    fun t ht => (Parameter.find?_list (hticket.trans ht)).2
  have hcounted : count.isSome = terms.counted := by
    simp only [count]
    cases terms.counted <;> rfl
  rw [hread, accepts_digestFields_iff hcounted hcount]
  exact quotes_back_iff hrealm hnonce hticket (Text.trim_of_blankless huri)

/-- Texts that look like fields of their own. -/
theorem sign_accepted_iff_disguised :
    let challenge := "Digest realm=\"a, nonce=b\", nonce=\"7=,\", opaque=\"\", qop=\"auth\"".toList
    let terms : DigestTerms :=
      ⟨"a, nonce=b".toList, "7=,".toList, some [], none, true, false⟩
    let c : Credentials := ⟨"us, realm=er".toList, some "pass".toList⟩
    let uri := "rtsp://cam/live".toList
    Challenge.parse? challenge = some (.digest terms) ∧ Blankless uri ∧
      ∃ params, ((⟨c, .digest terms, 0⟩ : Signer).sign (.counting 1) "DESCRIBE".toList uri).1 =
          "Digest ".toList ++ params ∧
        Accepts c terms "DESCRIBE".toList uri (Parameter.list params) := by
  intro challenge terms c uri
  have hparse : Challenge.parse? challenge = some (.digest terms) := by decide +kernel
  have huri : Blankless uri := by decide
  obtain ⟨params, hvalue, haccepts⟩ :=
    sign_accepted_iff hparse c 0 (.counting 1) "DESCRIBE".toList huri
  exact ⟨hparse, huri, params, hvalue, haccepts.mpr (by decide)⟩

/-- A quote in the name of the realm, which the server has written with a backslash before it, is
sent back without one, and ends the name. -/
theorem signature_cut_short :
    let challenge := "Digest realm=\"a\\\"b\", nonce=\"7\"".toList
    let terms : DigestTerms := ⟨"a\"b".toList, "7".toList, none, none, false, false⟩
    let c : Credentials := ⟨"user".toList, some "pass".toList⟩
    let uri := "rtsp://cam/live".toList
    Challenge.parse? challenge = some (.digest terms) ∧ Blankless uri ∧
      ∃ params, ((⟨c, .digest terms, 0⟩ : Signer).sign (.counting 1) "DESCRIBE".toList uri).1 =
          "Digest ".toList ++ params ∧
        find? (Parameter.list params) "realm" = some "a".toList ∧
        ¬ Accepts c terms "DESCRIBE".toList uri (Parameter.list params) := by
  intro challenge terms c uri
  have hfound : find? (Parameter.list ([',', ' '].intercalate
      (digestFields c terms none "DESCRIBE".toList uri))) "realm" = some "a".toList := by
    decide +kernel
  refine ⟨by decide +kernel, by decide, _, rfl, hfound, fun haccepts => ?_⟩
  exact absurd (Option.some.inj (hfound.symm.trans haccepts.realm)) (by decide)

end Signer

end Auth

end Rtsp
