import Rtsp.Digest.Block

/-!
MD5: four words of state, changed sixty-four times for each block of the message, in four passes
over the sixteen words of the block.
-/
namespace Rtsp.Digest.Md5

/-- The integer parts of `2 ^ 32` times the sine of 1, 2, ..., 64, without sign. -/
def constants : List UInt32 :=
  [0xd76aa478, 0xe8c7b756, 0x242070db, 0xc1bdceee, 0xf57c0faf, 0x4787c62a,
   0xa8304613, 0xfd469501, 0x698098d8, 0x8b44f7af, 0xffff5bb1, 0x895cd7be,
   0x6b901122, 0xfd987193, 0xa679438e, 0x49b40821, 0xf61e2562, 0xc040b340,
   0x265e5a51, 0xe9b6c7aa, 0xd62f105d, 0x02441453, 0xd8a1e681, 0xe7d3fbc8,
   0x21e1cde6, 0xc33707d6, 0xf4d50d87, 0x455a14ed, 0xa9e3e905, 0xfcefa3f8,
   0x676f02d9, 0x8d2a4c8a, 0xfffa3942, 0x8771f681, 0x6d9d6122, 0xfde5380c,
   0xa4beea44, 0x4bdecfa9, 0xf6bb4b60, 0xbebfbc70, 0x289b7ec6, 0xeaa127fa,
   0xd4ef3085, 0x04881d05, 0xd9d4d039, 0xe6db99e5, 0x1fa27cf8, 0xc4ac5665,
   0xf4292244, 0x432aff97, 0xab9423a7, 0xfc93a039, 0x655b59c3, 0x8f0ccc92,
   0xffeff47d, 0x85845dd1, 0x6fa87e4f, 0xfe2ce6e0, 0xa3014314, 0x4e0811a1,
   0xf7537e82, 0xbd3af235, 0x2ad7d2bb, 0xeb86d391]

structure State where
  a : UInt32
  b : UInt32
  c : UInt32
  d : UInt32
  deriving DecidableEq, Repr

def initial : State := ⟨0x67452301, 0xefcdab89, 0x98badcfe, 0x10325476⟩

/-- How far each pass turns the sum, step by step in groups of four. -/
def turns : Nat → List UInt32
  | 0 => [7, 12, 17, 22]
  | 1 => [5, 9, 14, 20]
  | 2 => [4, 11, 16, 23]
  | _ => [6, 10, 15, 21]

def choose (pass : Nat) (b c d : UInt32) : UInt32 :=
  match pass with
  | 0 => (b &&& c) ||| (~~~b &&& d)
  | 1 => (d &&& b) ||| (~~~d &&& c)
  | 2 => b ^^^ c ^^^ d
  | _ => c ^^^ (b ||| ~~~d)

/-- The word of the block that a step reads. -/
def position (pass step : Nat) : Nat :=
  match pass with
  | 0 => step
  | 1 => (5 * step + 1) % 16
  | 2 => (3 * step + 5) % 16
  | _ => 7 * step % 16

def round (block : List UInt32) (s : State) (kn : UInt32 × Nat) : State :=
  let pass := kn.2 / 16
  let sum := s.a + choose pass s.b s.c s.d + kn.1 + block.getD (position pass (kn.2 % 16)) 0
  ⟨s.d, s.b + rotateLeft sum ((turns pass).getD (kn.2 % 4) 0), s.b, s.c⟩

def State.add (s t : State) : State := ⟨s.a + t.a, s.b + t.b, s.c + t.c, s.d + t.d⟩

def compress (s : State) (block : List UInt32) : State :=
  s.add ((constants.zip (List.range 64)).foldl (round block) s)

def State.bytes (s : State) : Bytes :=
  [s.a, s.b, s.c, s.d].flatMap fun w => Endian.little.bytes 4 w.toNat

def digest (message : Bytes) : Bytes := ((blocks .little message).foldl compress initial).bytes

end Rtsp.Digest.Md5
