import Rtsp.Message

/-!
Taking the control stream apart. Bytes are kept until they make a whole unit; line breaks between
units are dropped. The head of a message ends at the first empty line that is written with
carriage returns, wherever it stands, and only without one at the first that is written without.
A message that is longer than the limit is refused before its body has come.
-/
namespace Rtsp

/-- The limit for head and body together, and for a head that does not end. -/
def Decoder.limit : Nat := 1024 * 1024

structure Decoder where
  pending : Bytes
  deriving DecidableEq, Repr

namespace Decoder

def empty : Decoder := ⟨[]⟩

def push (d : Decoder) (bytes : Bytes) : Decoder := ⟨d.pending ++ bytes⟩

/-- What one look at the pending bytes brings. A length whose sum with the head's is beyond
`2 ^ 64` is an overflow. -/
inductive Outcome
  | message (m : Message)
  | more
  | refused (cause : ParseFault)
  | overflow
  deriving DecidableEq, Repr

/-- There are at least `n` bytes; no more than those are looked at. -/
def holds (n : Nat) (bytes : Bytes) : Bool := n ≤ (bytes.take n).length

theorem holds_iff {n : Nat} {bytes : Bytes} : holds n bytes = true ↔ n ≤ bytes.length := by
  unfold holds
  rw [decide_eq_true_eq, List.length_take]
  omega

def isBreak (b : UInt8) : Bool := b == 0x0D || b == 0x0A

/-- Where `pattern` begins in the bytes that follow `index` others. -/
def positionFrom? (pattern : Bytes) (index : Nat) : Bytes → Option Nat
  | [] => none
  | b :: rest =>
    if pattern.isPrefixOf (b :: rest) then some index else positionFrom? pattern (index + 1) rest

def position? (pattern bytes : Bytes) : Option Nat := positionFrom? pattern 0 bytes

/-- How long a head is, its empty line included. -/
def headLength? (bytes : Bytes) : Option Nat :=
  match position? [0x0D, 0x0A, 0x0D, 0x0A] bytes with
  | some n => some (n + 4)
  | none => (position? [0x0A, 0x0A] bytes).map (· + 2)

/-- The value of the first of some lines that tells the length of the body. -/
def lengthField? : List Text → Option Text
  | [] => none
  | line :: rest =>
    match Text.cut? ':' line with
    | some (name, value) =>
      if Text.sameName (Text.trim name) "Content-Length".toList then some value
      else lengthField? rest
    | none => lengthField? rest

/-- How long the body is that a head announces. -/
def bodyLength (head : Text) : Except ParseFault Nat :=
  match lengthField? (Text.lines head).tail with
  | none => .ok 0
  | some value =>
    match Text.natural? 64 (Text.trim value) with
    | some n => .ok n
    | none => .error .contentLength

def parse (head : Text) (body : Option Text) : Except ParseFault Message :=
  if "RTSP/".toList.isPrefixOf head then
    (Response.parse head).map fun r => .response { r with body := body }
  else (Request.parse head).map fun r => .request { r with body := body }

def Outcome.ofParse : Except ParseFault Message → Outcome
  | .ok m => .message m
  | .error cause => .refused cause

/-- A request or a response at the beginning of the bytes. -/
def decodeText (bytes : Bytes) : Outcome × Decoder :=
  match headLength? bytes with
  | none => (if holds (limit + 1) bytes then .refused .tooBig else .more, ⟨bytes⟩)
  | some headLength =>
    let head := Text.Utf8.lossy (bytes.take headLength)
    match bodyLength head with
    | .error cause => (.refused cause, ⟨bytes⟩)
    | .ok bodyLength =>
      let total := headLength + bodyLength
      if Text.bound 64 ≤ total then (.overflow, ⟨bytes⟩)
      else if limit < total then (.refused .tooBig, ⟨bytes⟩)
      else if holds total bytes = false then (.more, ⟨bytes⟩)
      else
        let body := if bodyLength = 0 then none
          else some (Text.Utf8.lossy ((bytes.drop headLength).take bodyLength))
        (.ofParse (parse head body), ⟨bytes.drop total⟩)

/-- A frame whose marker stands before the bytes. -/
def decodeFrame (bytes : Bytes) : Outcome × Decoder :=
  match bytes with
  | channel :: high :: low :: rest =>
    let length := high.toNat * 256 + low.toNat
    if holds length rest = false then (.more, ⟨Frame.marker :: bytes⟩)
    else (.message (.frame ⟨channel, rest.take length⟩), ⟨rest.drop length⟩)
  | _ => (.more, ⟨Frame.marker :: bytes⟩)

/-- The next unit, and what is left. -/
def decode (d : Decoder) : Outcome × Decoder :=
  match d.pending.dropWhile isBreak with
  | [] => (.more, ⟨[]⟩)
  | b :: rest => if b = Frame.marker then decodeFrame rest else decodeText (b :: rest)

/-- Unit after unit until no whole one is left or one is refused; at most `fuel` of them. -/
def drainUpTo : Nat → Decoder → List Outcome × Decoder
  | 0, d => ([], d)
  | fuel + 1, d =>
    match d.decode with
    | (.message m, rest) =>
      let (more, last) := drainUpTo fuel rest
      (.message m :: more, last)
    | (outcome, rest) => ([outcome], rest)

/-- Every unit takes at least one byte, so that the pending bytes bound their number. -/
def drain (d : Decoder) : List Outcome × Decoder := drainUpTo (d.pending.length + 1) d

end Decoder

end Rtsp
