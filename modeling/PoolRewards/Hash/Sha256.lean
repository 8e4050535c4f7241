/-
SHA-256.

A message is padded to blocks of 64 bytes.  A block is read as 16 words of 32 bits, most
significant byte first, which are extended to 64; each of them turns the eight working
words once, and the result is added to the words the block started from.
-/
import PoolRewards.Octets

namespace PoolRewards.Sha256

/-- The eight chaining words. -/
structure Chain where
  a : UInt32
  b : UInt32
  c : UInt32
  d : UInt32
  e : UInt32
  f : UInt32
  g : UInt32
  h : UInt32
  deriving DecidableEq, Repr

/-- The words before the first block. -/
def Chain.initial : Chain :=
  ⟨0x6a09e667, 0xbb67ae85, 0x3c6ef372, 0xa54ff53a, 0x510e527f, 0x9b05688c, 0x1f83d9ab, 0x5be0cd19⟩

/-- The sum of two chains, word by word. -/
def Chain.add (s t : Chain) : Chain :=
  ⟨s.a + t.a, s.b + t.b, s.c + t.c, s.d + t.d, s.e + t.e, s.f + t.f, s.g + t.g, s.h + t.h⟩

/-- The words of a chain in order. -/
def Chain.toList (s : Chain) : List UInt32 := [s.a, s.b, s.c, s.d, s.e, s.f, s.g, s.h]

/-- One constant for each of the 64 turns. -/
def turnConstants : List UInt32 :=
  [0x428a2f98, 0x71374491, 0xb5c0fbcf, 0xe9b5dba5, 0x3956c25b, 0x59f111f1, 0x923f82a4, 0xab1c5ed5,
   0xd807aa98, 0x12835b01, 0x243185be, 0x550c7dc3, 0x72be5d74, 0x80deb1fe, 0x9bdc06a7, 0xc19bf174,
   0xe49b69c1, 0xefbe4786, 0x0fc19dc6, 0x240ca1cc, 0x2de92c6f, 0x4a7484aa, 0x5cb0a9dc, 0x76f988da,
   0x983e5152, 0xa831c66d, 0xb00327c8, 0xbf597fc7, 0xc6e00bf3, 0xd5a79147, 0x06ca6351, 0x14292967,
   0x27b70a85, 0x2e1b2138, 0x4d2c6dfc, 0x53380d13, 0x650a7354, 0x766a0abb, 0x81c2c92e, 0x92722c85,
   0xa2bfe8a1, 0xa81a664b, 0xc24b8b70, 0xc76c51a3, 0xd192e819, 0xd6990624, 0xf40e3585, 0x106aa070,
   0x19a4c116, 0x1e376c08, 0x2748774c, 0x34b0bcb5, 0x391c0cb3, 0x4ed8aa4a, 0x5b9cca4f, 0x682e6ff3,
   0x748f82ee, 0x78a5636f, 0x84c87814, 0x8cc70208, 0x90befffa, 0xa4506ceb, 0xbef9a3f7, 0xc67178f2]

/-- A word turned right by `n` bits. -/
def turn (w : UInt32) (n : UInt32) : UInt32 := w >>> n ||| w <<< (32 - n)

/-- One turn of the working words. -/
def step (s : Chain) (constantAndWord : UInt32 × UInt32) : Chain :=
  let mixE := turn s.e 6 ^^^ turn s.e 11 ^^^ turn s.e 25
  let choice := (s.e &&& s.f) ^^^ (~~~ s.e &&& s.g)
  let first := s.h + mixE + choice + constantAndWord.1 + constantAndWord.2
  let mixA := turn s.a 2 ^^^ turn s.a 13 ^^^ turn s.a 22
  let majority := (s.a &&& s.b) ^^^ (s.a &&& s.c) ^^^ (s.b &&& s.c)
  ⟨first + (mixA + majority), s.a, s.b, s.c, s.d + first, s.e, s.f, s.g⟩

/-- A word from four bytes, most significant first. -/
def wordOfBytes (bytes : List UInt8) : UInt32 := bytes.foldl (fun w byte => w <<< 8 ||| byte.toUInt32) 0

/-- The bytes of a word, most significant first. -/
def bytesOfWord (w : UInt32) : List UInt8 :=
  [(w >>> 24).toUInt8, (w >>> 16).toUInt8, (w >>> 8).toUInt8, w.toUInt8]

/-- The next word of the extension of a block. -/
def nextWord (words : Array UInt32) : UInt32 :=
  let ago (n : Nat) : UInt32 := words.getD (words.size - n) 0
  let low := turn (ago 15) 7 ^^^ turn (ago 15) 18 ^^^ ago 15 >>> 3
  let high := turn (ago 2) 17 ^^^ turn (ago 2) 19 ^^^ ago 2 >>> 10
  ago 16 + low + ago 7 + high

/-- Extend an array of words by `count` more. -/
def extend : (count : Nat) → Array UInt32 → Array UInt32
  | 0, words => words
  | count + 1, words => extend count (words.push (nextWord words))

/-- The 64 words of a block. -/
def blockWords (block : List UInt8) : List UInt32 :=
  let first := (List.range 16).map fun i => wordOfBytes ((block.drop (4 * i)).take 4)
  (extend 48 first.toArray).toList

/-- Take in one block. -/
def absorb (s : Chain) (block : List UInt8) : Chain :=
  s.add ((turnConstants.zip (blockWords block)).foldl step s)

/-- Take in as many whole blocks as `count` says. -/
def absorbBlocks (s : Chain) : (count : Nat) → List UInt8 → Chain
  | 0, _ => s
  | count + 1, bytes => absorbBlocks (absorb s (bytes.take 64)) count (bytes.drop 64)

/-- A message filled up to whole blocks, its length in bits at the end. -/
def pad (message : List UInt8) : List UInt8 :=
  let zeros := (119 - message.length % 64) % 64
  message ++ 0x80 :: List.replicate zeros 0 ++ bytesOfNat 8 (8 * message.length)

/-- The SHA-256 hash of a message. -/
def hash (message : List UInt8) : Digest :=
  let padded := pad message
  Octets.ofBytes ((absorbBlocks .initial (padded.length / 64) padded).toList.flatMap bytesOfWord)

end PoolRewards.Sha256
