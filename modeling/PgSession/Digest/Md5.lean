import PgSession.Text.Hex

/-! The MD5 digest of a list of bytes. Messages are padded to whole blocks of 64 bytes, and each
block is folded into four words by 64 steps. -/

namespace PgSession.Digest

structure Md5 where
  a : UInt32
  b : UInt32
  c : UInt32
  d : UInt32
deriving DecidableEq, Repr

namespace Md5

def initial : Md5 := ⟨0x67452301, 0xEFCDAB89, 0x98BADCFE, 0x10325476⟩

/-- The constant of each step: the integer part of 2 ^ 32 times the absolute sine of its number,
counted from one. -/
def sines : List UInt32 :=
  [0xd76aa478, 0xe8c7b756, 0x242070db, 0xc1bdceee, 0xf57c0faf, 0x4787c62a, 0xa8304613, 0xfd469501,
    0x698098d8, 0x8b44f7af, 0xffff5bb1, 0x895cd7be, 0x6b901122, 0xfd987193, 0xa679438e, 0x49b40821,
    0xf61e2562, 0xc040b340, 0x265e5a51, 0xe9b6c7aa, 0xd62f105d, 0x02441453, 0xd8a1e681, 0xe7d3fbc8,
    0x21e1cde6, 0xc33707d6, 0xf4d50d87, 0x455a14ed, 0xa9e3e905, 0xfcefa3f8, 0x676f02d9, 0x8d2a4c8a,
    0xfffa3942, 0x8771f681, 0x6d9d6122, 0xfde5380c, 0xa4beea44, 0x4bdecfa9, 0xf6bb4b60, 0xbebfbc70,
    0x289b7ec6, 0xeaa127fa, 0xd4ef3085, 0x04881d05, 0xd9d4d039, 0xe6db99e5, 0x1fa27cf8, 0xc4ac5665,
    0xf4292244, 0x432aff97, 0xab9423a7, 0xfc93a039, 0x655b59c3, 0x8f0ccc92, 0xffeff47d, 0x85845dd1,
    0x6fa87e4f, 0xfe2ce6e0, 0xa3014314, 0x4e0811a1, 0xf7537e82, 0xbd3af235, 0x2ad7d2bb, 0xeb86d391]

def shift (step : Nat) : UInt32 :=
  ([[7, 12, 17, 22], [5, 9, 14, 20], [4, 11, 16, 23], [6, 10, 15, 21]].getD (step / 16) []).getD
    (step % 4) 0

def mix (step : Nat) (b c d : UInt32) : UInt32 :=
  match step / 16 with
  | 0 => (b &&& c) ||| (~~~b &&& d)
  | 1 => (d &&& b) ||| (~~~d &&& c)
  | 2 => b ^^^ c ^^^ d
  | _ => c ^^^ (b ||| ~~~d)

/-- Which word of the block a step reads. -/
def wordIndex (step : Nat) : Nat :=
  match step / 16 with
  | 0 => step
  | 1 => (5 * step + 1) % 16
  | 2 => (3 * step + 5) % 16
  | _ => 7 * step % 16

def rotate (word count : UInt32) : UInt32 := (word <<< count) ||| (word >>> (32 - count))

def step (words : List UInt32) (state : Md5) (index : Nat) : Md5 :=
  let sum := state.a + mix index state.b state.c state.d + sines.getD index 0 +
    words.getD (wordIndex index) 0
  ⟨state.d, state.b + rotate sum (shift index), state.b, state.c⟩

/-- Four bytes at a time, the lowest first. -/
def littleWords : List UInt8 → List UInt32
  | first :: second :: third :: fourth :: rest =>
    UInt32.ofNat (first.toNat + 256 * (second.toNat + 256 * (third.toNat + 256 * fourth.toNat)))
      :: littleWords rest
  | _ => []

def compress (state : Md5) (block : List UInt8) : Md5 :=
  let mixed := (List.range 64).foldl (step (littleWords block)) state
  ⟨state.a + mixed.a, state.b + mixed.b, state.c + mixed.c, state.d + mixed.d⟩

def littleEndian : (count value : Nat) → List UInt8
  | 0, _ => []
  | count + 1, value => UInt8.ofNat value :: littleEndian count (value / 256)

/-- A one bit, zeros up to eight bytes short of a whole block, then the length in bits. -/
def pad (message : List UInt8) : List UInt8 :=
  message ++ 0x80 :: List.replicate ((119 - message.length % 64) % 64) 0 ++
    littleEndian 8 (8 * message.length)

def absorb : (blocks : Nat) → Md5 → List UInt8 → Md5
  | 0, state, _ => state
  | blocks + 1, state, message => absorb blocks (compress state (message.take 64)) (message.drop 64)

def bytes (state : Md5) : List UInt8 :=
  [state.a, state.b, state.c, state.d].flatMap fun word => littleEndian 4 word.toNat

end Md5

def md5 (message : List UInt8) : List UInt8 :=
  let padded := Md5.pad message
  (Md5.absorb (padded.length / 64) Md5.initial padded).bytes

end PgSession.Digest
