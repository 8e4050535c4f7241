/-
The checksummed text of an address.

The forty digits of an address are written in upper case where the corresponding digit
of the hash of the lower-case text is eight or more.
-/
import PoolRewards.Hash.Keccak

namespace PoolRewards.Address

/-- Whether digit `i` of a hash is eight or more, which its highest bit tells. -/
def isHighDigit (hash : Digest) (i : Nat) : Bool := hash.getLsbD (4 * (63 - i) + 3)

/-- The text of an address with its checksum in the case of the letters. -/
def checksummed (address : Address) : String :=
  let digits := Hex.encode address.toBytes
  let hash := Keccak.hash digits.toUTF8.toList
  let cased := digits.toList.zipIdx.map fun (c, i) => if isHighDigit hash i then c.toUpper else c
  "0x" ++ String.ofList cased

end PoolRewards.Address
