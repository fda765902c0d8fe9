import DialectBridge.Text.Utf8
import DialectBridge.Text.Hexadecimal

/-!
# The 128-bit message digest

The message is padded to whole blocks of sixteen little-endian words, and each block
is mixed into a state of four words by sixty-four rounds. The digest is written in
lower-case hexadecimal.
-/

namespace DialectBridge.Digest

/-- The four words of state. -/
structure State where
  a : UInt32
  b : UInt32
  c : UInt32
  d : UInt32

/-- The state before the first block. -/
def initial : State := ⟨0x67452301, 0xefcdab89, 0x98badcfe, 0x10325476⟩

/-- The additive constants of the rounds. -/
def constants : List UInt32 :=
  [0xd76aa478, 0xe8c7b756, 0x242070db, 0xc1bdceee, 0xf57c0faf, 0x4787c62a,
   0xa8304613, 0xfd469501, 0x698098d8, 0x8b44f7af, 0xffff5bb1, 0x895cd7be,
   0x6b901122, 0xfd987193, 0xa679438e, 0x49b40821, 0xf61e2562, 0xc040b340,
   0x265e5a51, 0xe9b6c7aa, 0xd62f105d, 0x02441453, 0xd8a1e681, 0xe7d3fbc8,
   0x21e1cde6, 0xc33707d6, 0xf4d50d87, 0x455a14ed, 0xa9e3e905, 0xfcefa3f8,
   0x676f02d9, 0x8d2a4c8a, 0xfffa3942, 0x8771f681, 0x6d9d6122, 0xfde5380c,
   0xa4beea44, 0x4bdecfa9, 0xf6bb4b60, 0xbebfbc70, 0x289b7ec6, 0xeaa127fa,
   0xd4ef3085, 0x04881d05, 0xd9d4d039, 0xe6db99e5, 0x1fa27cf8, 0xc4ac5665,
   0xf4292244, 0x432aff97, 0xab9423a7, 0xfc93a039, 0x655b59c3, 0x8f0ccc92,
   0xffeff47d, 0x85845dd1, 0x6fa87e4f, 0xfe2ce6e0, 0xa3014314, 0x4e0811a1,
   0xf7537e82, 0xbd3af235, 0x2ad7d2bb, 0xeb86d391]

/-- The rotations of a round: each quarter of the rounds cycles through four. -/
def rotation (round : Nat) : UInt32 :=
  let cycle : List UInt32 := match round / 16 with
    | 0 => [7, 12, 17, 22]
    | 1 => [5, 9, 14, 20]
    | 2 => [4, 11, 16, 23]
    | _ => [6, 10, 15, 21]
  cycle.getD (round % 4) 0

/-- The word of the block that a round adds. -/
def wordIndex (round : Nat) : Nat :=
  match round / 16 with
  | 0 => round
  | 1 => (5 * round + 1) % 16
  | 2 => (3 * round + 5) % 16
  | _ => 7 * round % 16

/-- The mixing function of a round. -/
def mix (round : Nat) (state : State) : UInt32 :=
  match round / 16 with
  | 0 => (state.b &&& state.c) ||| (state.b.complement &&& state.d)
  | 1 => (state.d &&& state.b) ||| (state.d.complement &&& state.c)
  | 2 => state.b ^^^ state.c ^^^ state.d
  | _ => state.c ^^^ (state.b ||| state.d.complement)

/-- Rotation to the left. -/
def rotate (word amount : UInt32) : UInt32 := (word <<< amount) ||| (word >>> (32 - amount))

/-- One round. -/
def step (block : List UInt32) (state : State) (round : Nat × UInt32) : State :=
  let (index, constant) := round
  let sum := state.a + mix index state + constant + block.getD (wordIndex index) 0
  ⟨state.d, state.b + rotate sum (rotation index), state.b, state.c⟩

/-- Mixes one block of sixteen words into the state. -/
def absorb (state : State) (block : List UInt32) : State :=
  let mixed := (constants.mapIdx fun index constant => (index, constant)).foldl (step block) state
  ⟨state.a + mixed.a, state.b + mixed.b, state.c + mixed.c, state.d + mixed.d⟩

/-- The octets of a number, least significant first. -/
def littleEndian (count n : Nat) : List UInt8 :=
  (List.range count).map fun index => UInt8.ofNat (n / Nat.pow 256 index % 256)

/-- A marker octet, zeros up to eight octets short of a block, and the length of the
message in bits. -/
def padding (length : Nat) : List UInt8 :=
  0x80 :: List.replicate ((119 - length % 64) % 64) 0 ++ littleEndian 8 (8 * length)

/-- Groups octets in fours to words. -/
def toWords : List UInt8 → List UInt32
  | a :: b :: c :: d :: rest =>
    (a.toUInt32 ||| (b.toUInt32 <<< 8) ||| (c.toUInt32 <<< 16) ||| (d.toUInt32 <<< 24)) ::
      toWords rest
  | _ => []

/-- Absorbs the words sixteen at a time. -/
def absorbAll : (blocks : Nat) → State → List UInt32 → State
  | 0, state, _ => state
  | blocks + 1, state, words => absorbAll blocks (absorb state (words.take 16)) (words.drop 16)

/-- The digest of a message, sixteen octets. -/
def digest (message : List UInt8) : List UInt8 :=
  let words := toWords (message ++ padding message.length)
  let state := absorbAll (words.length / 16) initial words
  [state.a, state.b, state.c, state.d].flatMap fun word => littleEndian 4 word.toNat

/-- The digest in hexadecimal. -/
def hexDigest (message : List UInt8) : String :=
  String.ofList ((digest message).flatMap fun octet => Text.hexDigits 2 octet.toNat)

end DialectBridge.Digest
