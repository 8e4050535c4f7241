/-
Keccak-256.

The state is 25 lanes of 64 bits, lane `x + 5 * y` standing in column `x` and row `y`.
A message is padded to blocks of 136 bytes; each block is added to the first 17 lanes,
and the state is permuted after each block.  The hash is the first four lanes, low byte
first.
-/
import PoolRewards.Octets

namespace PoolRewards.Keccak

/-- The state: 25 lanes. -/
abbrev Lanes := Vector UInt64 25

/-- The lane in column `x` and row `y`, both counted modulo 5. -/
def Lanes.at (lanes : Lanes) (x y : Nat) : UInt64 := lanes.get (Fin.ofNat 25 (x % 5 + 5 * (y % 5)))

/-- A lane turned left by `n` bits. -/
def turn (lane : UInt64) (n : Nat) : UInt64 :=
  if n = 0 then lane else lane <<< UInt64.ofNat n ||| lane >>> UInt64.ofNat (64 - n)

/-- By how much each lane is turned. -/
def turns : Vector Nat 25 :=
  #v[0, 1, 62, 28, 27, 36, 44, 6, 55, 20, 3, 10, 43, 25, 39, 41, 45, 15, 21, 8, 18, 2, 61, 56, 14]

/-- What each round adds to the first lane. -/
def roundConstants : List UInt64 :=
  [0x0000000000000001, 0x0000000000008082, 0x800000000000808A, 0x8000000080008000,
   0x000000000000808B, 0x0000000080000001, 0x8000000080008081, 0x8000000000008009,
   0x000000000000008A, 0x0000000000000088, 0x0000000080008009, 0x000000008000000A,
   0x000000008000808B, 0x800000000000008B, 0x8000000000008089, 0x8000000000008003,
   0x8000000000008002, 0x8000000000000080, 0x000000000000800A, 0x800000008000000A,
   0x8000000080008081, 0x8000000000008080, 0x0000000080000001, 0x8000000080008008]

/-- The sum of a column. -/
def Lanes.column (a : Lanes) (x : Nat) : UInt64 :=
  a.at x 0 ^^^ a.at x 1 ^^^ a.at x 2 ^^^ a.at x 3 ^^^ a.at x 4

/-- Each lane takes in the columns on both of its sides. -/
def mixColumns (a : Lanes) : Lanes :=
  Vector.ofFn fun i =>
    let x := i.val % 5
    a.get i ^^^ (a.column (x + 4) ^^^ turn (a.column (x + 1)) 1)

/-- Each lane is turned and moved to its new place. -/
def turnAndMove (a : Lanes) : Lanes :=
  Vector.ofFn fun i =>
    let x := i.val % 5 + 3 * (i.val / 5)
    let y := i.val % 5
    turn (a.at x y) (turns.get (Fin.ofNat 25 (x % 5 + 5 * y)))

/-- Each lane takes in its two neighbours in the row. -/
def mixRows (a : Lanes) : Lanes :=
  Vector.ofFn fun i =>
    let x := i.val % 5
    let y := i.val / 5
    a.at x y ^^^ (~~~ a.at (x + 1) y &&& a.at (x + 2) y)

/-- One round of the permutation. -/
def round (a : Lanes) (constant : UInt64) : Lanes :=
  let b := mixRows (turnAndMove (mixColumns a))
  b.set 0 (b.get 0 ^^^ constant)

/-- The permutation: 24 rounds. -/
def permute (a : Lanes) : Lanes := roundConstants.foldl round a

/-- The bytes of a block. -/
def blockSize : Nat := 136

/-- A message filled up to whole blocks. -/
def pad (message : List UInt8) : List UInt8 :=
  let room := blockSize - message.length % blockSize
  if room = 1 then message ++ [0x81] else message ++ 0x01 :: List.replicate (room - 2) 0 ++ [0x80]

/-- A lane from its bytes, low byte first. -/
def laneOfBytes (bytes : List UInt8) : UInt64 := bytes.foldr (fun byte lane => lane <<< 8 ||| byte.toUInt64) 0

/-- The bytes of a lane, low byte first. -/
def bytesOfLane (lane : UInt64) : List UInt8 :=
  (List.range 8).map fun i => (lane >>> UInt64.ofNat (8 * i)).toUInt8

/-- Add a block to the state and permute it. -/
def absorb (a : Lanes) (block : List UInt8) : Lanes :=
  permute <| Vector.ofFn fun i =>
    a.get i ^^^ laneOfBytes ((block.drop (8 * i.val)).take 8)

/-- Add as many whole blocks as `count` says. -/
def absorbBlocks (a : Lanes) : (count : Nat) → List UInt8 → Lanes
  | 0, _ => a
  | count + 1, bytes => absorbBlocks (absorb a (bytes.take blockSize)) count (bytes.drop blockSize)

/-- The Keccak-256 hash of a message. -/
def hash (message : List UInt8) : Digest :=
  let padded := pad message
  let a := absorbBlocks (Vector.replicate 25 0) (padded.length / blockSize) padded
  Octets.ofBytes ((List.range 4).flatMap fun x => bytesOfLane (a.at x 0))

end PoolRewards.Keccak
