/-
What the beacon chain says about its slots: blocks, committees and attestations.
-/
import PoolRewards.Hex

namespace PoolRewards

/-- A beacon block, bound to an execution block; block zero stands for none. -/
structure BeaconBlock where
  slot : UInt64
  executionBlock : UInt64
  deriving DecidableEq, Repr

/-- A committee of a slot: validators by their position in it. -/
structure Committee where
  slot : UInt64
  index : UInt64
  validators : List UInt64
  deriving DecidableEq, Repr

/-- The committee positions that took part in an attestation, eight to a byte, lowest bit first. -/
structure AttestedBits where
  bytes : List UInt8
  deriving DecidableEq, Repr

namespace AttestedBits

/-- Read bits from hexadecimal digits behind any number of `0x`. -/
def ofText (text : String) : Except Hex.TextFault AttestedBits :=
  AttestedBits.mk <$> Hex.decode (Hex.dropMarks text.toUTF8.toList)

/-- Whether the validator at a position took part. -/
def has (bits : AttestedBits) (position : Nat) : Bool :=
  match bits.bytes[position / 8]? with
  | some byte => byte.toNat.testBit (position % 8)
  | none => false

end AttestedBits

/-- Votes of one committee that a block includes.  The slot is the one voted for. -/
structure Attestation where
  slot : UInt64
  committee : UInt64
  bits : AttestedBits
  deriving DecidableEq, Repr

end PoolRewards
