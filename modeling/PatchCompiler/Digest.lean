import PatchCompiler.Text.Basic

/-!
# Digests

The 128-bit digest of a text that gives project files their identifiers. A message is padded to
whole blocks of 64 bytes, and each block takes 64 rounds.
-/

namespace PatchCompiler.Digest

/-- The four words of the running digest. -/
structure State where
  a : UInt32
  b : UInt32
  c : UInt32
  d : UInt32
  deriving DecidableEq, Repr

def State.start : State := ⟨0x67452301, 0xefcdab89, 0x98badcfe, 0x10325476⟩

def State.add (s t : State) : State := ⟨s.a + t.a, s.b + t.b, s.c + t.c, s.d + t.d⟩

def constants : List UInt32 :=
  [
    0xd76aa478, 0xe8c7b756, 0x242070db, 0xc1bdceee, 0xf57c0faf, 0x4787c62a, 0xa8304613, 0xfd469501,
    0x698098d8, 0x8b44f7af, 0xffff5bb1, 0x895cd7be, 0x6b901122, 0xfd987193, 0xa679438e, 0x49b40821,
    0xf61e2562, 0xc040b340, 0x265e5a51, 0xe9b6c7aa, 0xd62f105d, 0x02441453, 0xd8a1e681, 0xe7d3fbc8,
    0x21e1cde6, 0xc33707d6, 0xf4d50d87, 0x455a14ed, 0xa9e3e905, 0xfcefa3f8, 0x676f02d9, 0x8d2a4c8a,
    0xfffa3942, 0x8771f681, 0x6d9d6122, 0xfde5380c, 0xa4beea44, 0x4bdecfa9, 0xf6bb4b60, 0xbebfbc70,
    0x289b7ec6, 0xeaa127fa, 0xd4ef3085, 0x04881d05, 0xd9d4d039, 0xe6db99e5, 0x1fa27cf8, 0xc4ac5665,
    0xf4292244, 0x432aff97, 0xab9423a7, 0xfc93a039, 0x655b59c3, 0x8f0ccc92, 0xffeff47d, 0x85845dd1,
    0x6fa87e4f, 0xfe2ce6e0, 0xa3014314, 0x4e0811a1, 0xf7537e82, 0xbd3af235, 0x2ad7d2bb, 0xeb86d391]

/-- How far each round rotates: four amounts by turns in every sixteen rounds. -/
def rotation (round : Nat) : UInt32 :=
  let amounts : List UInt32 :=
    match round / 16 with
    | 0 => [7, 12, 17, 22]
    | 1 => [5, 9, 14, 20]
    | 2 => [4, 11, 16, 23]
    | _ => [6, 10, 15, 21]
  (amounts[round % 4]?).getD 0

def rotate (x n : UInt32) : UInt32 :=
  (x <<< n) ||| (x >>> (32 - n))

def mixed (state : State) (round : Nat) : UInt32 × Nat :=
  let ⟨_, b, c, d⟩ := state
  match round / 16 with
  | 0 => ((b &&& c) ||| (~~~b &&& d), round)
  | 1 => ((d &&& b) ||| (~~~d &&& c), (5 * round + 1) % 16)
  | 2 => (b ^^^ c ^^^ d, (3 * round + 5) % 16)
  | _ => (c ^^^ (b ||| ~~~d), (7 * round) % 16)

def step (block : List UInt32) (state : State) (round : Nat) : State :=
  let (f, place) := mixed state round
  let sum := f + state.a + (constants[round]?).getD 0 + (block[place]?).getD 0
  ⟨state.d, state.b + rotate sum (rotation round), state.b, state.c⟩

def compress (state : State) (block : List UInt32) : State :=
  state.add ((List.range 64).foldl (step block) state)

def littleBytes (count n : Nat) : List Nat :=
  match count with
  | 0 => []
  | count + 1 => n % 256 :: littleBytes count (n / 256)

/-- A message ends with one set bit, enough zeros and its length in bits, and then fills whole
blocks. -/
def padded (message : List Nat) : List Nat :=
  let zeros := (119 - message.length % 64) % 64
  message ++ [0x80] ++ List.replicate zeros 0 ++ littleBytes 8 (8 * message.length)

def words : List Nat → List UInt32
  | a :: b :: c :: d :: rest =>
    UInt32.ofNat (a + 256 * (b + 256 * (c + 256 * d))) :: words rest
  | _ => []

def absorb : Nat → State → List UInt32 → State
  | 0, state, _ => state
  | count + 1, state, words => absorb count (compress state (words.take 16)) (words.drop 16)

def bytesOf (s : String) : List Nat :=
  s.toUTF8.toList.map UInt8.toNat

def ofText (s : String) : String :=
  let words := words (padded (bytesOf s))
  let state := absorb (words.length / 16) .start words
  let bytes := [state.a, state.b, state.c, state.d].flatMap fun w => littleBytes 4 w.toNat
  String.join (bytes.map fun byte => Text.hexadecimal (byte / 16) ++ Text.hexadecimal (byte % 16))

def short (count : Nat) (s : String) : String :=
  String.ofList ((ofText s).toList.take count)

def number (s : String) : Nat :=
  let digit := fun (c : Char) => if c.isDigit then c.toNat - '0'.toNat else c.toNat - 'A'.toNat + 10
  ((short 4 s).toList.foldl (fun n c => 16 * n + digit c) 0) % Nat.pow 2 15

def buildId (s : String) : String := short 24 (s ++ "_build")

def fileId (s : String) : String := short 24 (s ++ "_fileref")

def copyId (s : String) : String := short 24 (s ++ "_copy")

end PatchCompiler.Digest
