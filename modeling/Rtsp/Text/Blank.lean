import Rtsp.Text.Basic

/-!
Blanks are the characters with Unicode's property White_Space: they end a word, and they count
for nothing at the two ends of a header value.
-/
namespace Rtsp.Text

/-- The members of White_Space, in code point order. -/
def blanks : List Nat :=
  [0x09, 0x0A, 0x0B, 0x0C, 0x0D, 0x20, 0x85, 0xA0, 0x1680,
   0x2000, 0x2001, 0x2002, 0x2003, 0x2004, 0x2005, 0x2006, 0x2007, 0x2008, 0x2009, 0x200A,
   0x2028, 0x2029, 0x202F, 0x205F, 0x3000]

def isBlank (c : Char) : Bool := blanks.contains c.toNat

def trimStart (t : Text) : Text := t.dropWhile isBlank

def trimEnd (t : Text) : Text := (t.reverse.dropWhile isBlank).reverse

def trim (t : Text) : Text := trimEnd (trimStart t)

/-- The words between runs of blanks. -/
def words (t : Text) : List Text := (t.splitOnP isBlank).filter (· != [])

theorem trimStart_eq_self {t : Text} (h : ∀ c ∈ t.head?, isBlank c = false) :
    trimStart t = t := by
  cases t with
  | nil => rfl
  | cons c t => simp [trimStart, h c rfl]

theorem trimEnd_eq_self {t : Text} (h : ∀ c ∈ t.getLast?, isBlank c = false) :
    trimEnd t = t := by
  have hr : trimStart t.reverse = t.reverse :=
    trimStart_eq_self fun c hc => h c (by simpa using hc)
  rw [trimEnd, show t.reverse.dropWhile isBlank = trimStart t.reverse from rfl, hr,
    List.reverse_reverse]

/-- A text that neither begins nor ends with a blank is its own trim. -/
theorem trim_eq_self {t : Text} (hs : ∀ c ∈ t.head?, isBlank c = false)
    (he : ∀ c ∈ t.getLast?, isBlank c = false) : trim t = t := by
  rw [trim, trimStart_eq_self hs, trimEnd_eq_self he]

theorem words_eq_singleton {t : Text} (hne : t ≠ []) (h : ∀ c ∈ t, isBlank c = false) :
    words t = [t] := by
  simp [words, List.splitOnP_eq_singleton h, hne]

end Rtsp.Text
