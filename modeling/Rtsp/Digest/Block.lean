import Rtsp.Text.Basic

/-!
Both digests read a message in blocks of sixteen words of four bytes. The message is filled up to
whole blocks by a one bit, zeros, and its own length in bits. They differ in the order of the
bytes of a word.
-/
namespace Rtsp.Digest

/-- How the four bytes of a word are ordered. -/
inductive Endian
  | big
  | little
  deriving DecidableEq, Repr

def Endian.arrange (e : Endian) (bytes : Bytes) : Bytes :=
  match e with
  | .big => bytes
  | .little => bytes.reverse

/-- `width` bytes, the highest first. -/
def bigEndian : Nat → Nat → Bytes
  | 0, _ => []
  | width + 1, n => bigEndian width (n / 256) ++ [n.toUInt8]

def Endian.bytes (e : Endian) (width n : Nat) : Bytes := e.arrange (bigEndian width n)

def Endian.word (e : Endian) (bytes : Bytes) : UInt32 :=
  (e.arrange bytes).foldl (fun sum b => sum * 256 + b.toUInt32) 0

def pad (e : Endian) (message : Bytes) : Bytes :=
  message ++ 0x80 :: (List.replicate ((119 - message.length % 64) % 64) 0 ++
    e.bytes 8 (8 * message.length))

/-- The first `count` pieces of `size` elements. -/
def pieces {α : Type} (size : Nat) : Nat → List α → List (List α)
  | 0, _ => []
  | count + 1, xs => xs.take size :: pieces size count (xs.drop size)

def blocks (e : Endian) (message : Bytes) : List (List UInt32) :=
  let padded := pad e message
  (pieces 64 (padded.length / 64) padded).map fun block => (pieces 4 16 block).map e.word

theorem length_bigEndian (width n : Nat) : (bigEndian width n).length = width := by
  induction width generalizing n with
  | zero => rfl
  | succ width ih => simp [bigEndian, ih]

theorem length_bytes (e : Endian) (width n : Nat) : (e.bytes width n).length = width := by
  cases e <;> simp [Endian.bytes, Endian.arrange, length_bigEndian]

def rotateLeft (x : UInt32) (n : UInt32) : UInt32 := (x <<< n) ||| (x >>> (32 - n))

def rotateRight (x : UInt32) (n : UInt32) : UInt32 := (x >>> n) ||| (x <<< (32 - n))

end Rtsp.Digest
