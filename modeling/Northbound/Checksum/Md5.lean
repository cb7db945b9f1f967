import Northbound.Bytes

/-!
# MD5 digests

The message digest MD5. A message is padded to whole blocks of 64 bytes with a one bit,
zeros and its length in bits; every block is mixed into four words of state.
-/

namespace Northbound.Checksum.Md5

/-- The four words of state. -/
structure State where
  a : UInt32
  b : UInt32
  c : UInt32
  d : UInt32
deriving DecidableEq, Repr

/-- The state before the first block. -/
def State.start : State := ⟨0x67452301, 0xefcdab89, 0x98badcfe, 0x10325476⟩

/-- The integer parts of `2 ^ 32 * |sin (i + 1)|`. -/
def sines : Array UInt32 := #[
  0xd76aa478, 0xe8c7b756, 0x242070db, 0xc1bdceee, 0xf57c0faf, 0x4787c62a,
  0xa8304613, 0xfd469501, 0x698098d8, 0x8b44f7af, 0xffff5bb1, 0x895cd7be,
  0x6b901122, 0xfd987193, 0xa679438e, 0x49b40821, 0xf61e2562, 0xc040b340,
  0x265e5a51, 0xe9b6c7aa, 0xd62f105d, 0x02441453, 0xd8a1e681, 0xe7d3fbc8,
  0x21e1cde6, 0xc33707d6, 0xf4d50d87, 0x455a14ed, 0xa9e3e905, 0xfcefa3f8,
  0x676f02d9, 0x8d2a4c8a, 0xfffa3942, 0x8771f681, 0x6d9d6122, 0xfde5380c,
  0xa4beea44, 0x4bdecfa9, 0xf6bb4b60, 0xbebfbc70, 0x289b7ec6, 0xeaa127fa,
  0xd4ef3085, 0x04881d05, 0xd9d4d039, 0xe6db99e5, 0x1fa27cf8, 0xc4ac5665,
  0xf4292244, 0x432aff97, 0xab9423a7, 0xfc93a039, 0x655b59c3, 0x8f0ccc92,
  0xffeff47d, 0x85845dd1, 0x6fa87e4f, 0xfe2ce6e0, 0xa3014314, 0x4e0811a1,
  0xf7537e82, 0xbd3af235, 0x2ad7d2bb, 0xeb86d391]

/-- How far each step of a round turns its word to the left, by round and step. -/
def turns : Array (Array UInt32) :=
  #[#[7, 12, 17, 22], #[5, 9, 14, 20], #[4, 11, 16, 23], #[6, 10, 15, 21]]

/-- A word turned to the left. -/
def rotateLeft (x n : UInt32) : UInt32 := (x <<< n) ||| (x >>> (32 - n))

/-- The words of a block, each from four bytes, the least significant first. -/
def words : Bytes → List UInt32
  | a :: b :: c :: d :: rest =>
    (a.toUInt32 ||| (b.toUInt32 <<< 8) ||| (c.toUInt32 <<< 16) ||| (d.toUInt32 <<< 24)) ::
      words rest
  | _ => []

/-- The mixing function of a step and the word of the block that the step takes. -/
def mix (s : State) (i : Nat) : UInt32 × Nat :=
  match i / 16 with
  | 0 => ((s.b &&& s.c) ||| (~~~s.b &&& s.d), i)
  | 1 => ((s.d &&& s.b) ||| (~~~s.d &&& s.c), (5 * i + 1) % 16)
  | 2 => (s.b ^^^ s.c ^^^ s.d, (3 * i + 5) % 16)
  | _ => (s.c ^^^ (s.b ||| ~~~s.d), (7 * i) % 16)

/-- One of the 64 steps over a block. -/
def step (block : Array UInt32) (s : State) (i : Nat) : State :=
  let (f, g) := mix s i
  let sum := f + s.a + sines.getD i 0 + block.getD g 0
  let turn := (turns.getD (i / 16) #[]).getD (i % 4) 0
  ⟨s.d, s.b + rotateLeft sum turn, s.b, s.c⟩

/-- Mixes a block into the state. -/
def absorb (s : State) (block : Bytes) : State :=
  let t := (List.range 64).foldl (step (words block).toArray) s
  ⟨s.a + t.a, s.b + t.b, s.c + t.c, s.d + t.d⟩

/-- The padding after a message of `n` bytes. -/
def padding (n : Nat) : Bytes :=
  0x80 :: Bytes.zeros ((119 - n % 64) % 64) ++ Bytes.ofNatLE 8 (8 * n)

/-- Mixes the first `n` blocks of a byte string into the state. -/
def absorbBlocks : Nat → State → Bytes → State
  | 0, s, _ => s
  | n + 1, s, bs => absorbBlocks n (absorb s (bs.take 64)) (bs.drop 64)

/-- The sixteen bytes of a digest. -/
def State.bytes (s : State) : Bytes :=
  [s.a, s.b, s.c, s.d].flatMap fun w => Bytes.ofNatLE 4 w.toNat

/-- The digest of a message. -/
def digest (message : Bytes) : Bytes :=
  let padded := message ++ padding message.length
  (absorbBlocks (padded.length / 64) .start padded).bytes

/-- The digest of a message in hexadecimal. -/
def hex (message : Bytes) : String := (digest message).toHex

end Northbound.Checksum.Md5
