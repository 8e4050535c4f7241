/-
Values of a fixed number of bytes: addresses, public keys and hashes.

Such a value is kept as the number that its bytes spell, the first byte being the most
significant one.  So the order of the numbers is the order of the byte strings.
-/
import PoolRewards.Hex

namespace PoolRewards

/-- The number that bytes spell, most significant byte first. -/
def natOfBytes (bytes : List UInt8) : Nat := bytes.foldl (fun n byte => n * 256 + byte.toNat) 0

/-- The last `count` bytes of a number, most significant byte first. -/
def bytesOfNat : (count : Nat) → Nat → List UInt8
  | 0, _ => []
  | count + 1, n => bytesOfNat count (n / 256) ++ [UInt8.ofNat n]

/-- A value of `count` bytes. -/
abbrev Octets (count : Nat) := BitVec (8 * count)

namespace Octets

variable {count : Nat}

/-- The bytes of a value, most significant first. -/
def toBytes (value : Octets count) : List UInt8 := bytesOfNat count value.toNat

/-- The value that bytes spell, whatever their number. -/
def ofBytes (bytes : List UInt8) : Octets count := BitVec.ofNat _ (natOfBytes bytes)

/-- The value that exactly `count` bytes spell. -/
def ofBytes? (bytes : List UInt8) : Option (Octets count) :=
  if bytes.length = count then some (ofBytes bytes) else none

/-- Lower-case digits behind `0x`. -/
def toText (value : Octets count) : String := "0x" ++ Hex.encode value.toBytes

/-- Read `count` bytes of hexadecimal digits; one `0x` in front of them is optional. -/
def ofText (text : String) : Except Hex.TextFault (Octets count) :=
  ofBytes <$> Hex.decodeExactly count (Hex.dropMark text.toUTF8.toList)

end Octets

/-- An account or a contract. -/
abbrev Address := Octets 20

/-- The public key of a validator. -/
abbrev PublicKey := Octets 48

/-- A hash of 32 bytes. -/
abbrev Digest := Octets 32

/-!
### Order

Maps and sets by address or key rest on these instances, which have names of their own so
that every map carries the same ones.
-/

instance Octets.transOrd {count : Nat} : Std.TransOrd (Octets count) := inferInstance

instance Octets.lawfulEqOrd {count : Nat} : Std.LawfulEqOrd (Octets count) := inferInstance

instance Address.transOrd : Std.TransOrd Address := Octets.transOrd

instance Address.lawfulEqOrd : Std.LawfulEqOrd Address := Octets.lawfulEqOrd

instance PublicKey.transOrd : Std.TransOrd PublicKey := Octets.transOrd

instance PublicKey.lawfulEqOrd : Std.LawfulEqOrd PublicKey := Octets.lawfulEqOrd

/-! ### Bytes of a number -/

theorem length_bytesOfNat (count n : Nat) : (bytesOfNat count n).length = count := by
  induction count generalizing n with
  | zero => rfl
  | succ count ih => simp [bytesOfNat, ih]

theorem natOfBytes_append (xs : List UInt8) (byte : UInt8) :
    natOfBytes (xs ++ [byte]) = natOfBytes xs * 256 + byte.toNat := by
  simp [natOfBytes]

theorem natOfBytes_bytesOfNat (count n : Nat) :
    natOfBytes (bytesOfNat count n) = n % Nat.pow 256 count := by
  induction count generalizing n with
  | zero => exact (Nat.mod_one n).symm
  | succ count ih =>
    have split : n % Nat.pow 256 (count + 1) = n % 256 + 256 * (n / 256 % Nat.pow 256 count) := by
      show n % (Nat.pow 256 count * 256) = _
      rw [Nat.mul_comm]
      exact Nat.mod_mul
    rw [bytesOfNat, natOfBytes_append, ih, UInt8.toNat_ofNat', split]
    omega

theorem Octets.length_toBytes {count : Nat} (value : Octets count) :
    value.toBytes.length = count :=
  length_bytesOfNat _ _

/-- A value is told apart from every other by its bytes. -/
theorem Octets.ofBytes_toBytes {count : Nat} (value : Octets count) :
    ofBytes value.toBytes = value := by
  apply BitVec.eq_of_toNat_eq
  have h : value.toNat < Nat.pow 256 count := by
    have := value.isLt
    rwa [Nat.pow_mul] at this
  simp only [ofBytes, toBytes, natOfBytes_bytesOfNat, BitVec.toNat_ofNat, Nat.mod_eq_of_lt h]
  exact Nat.mod_eq_of_lt value.isLt

end PoolRewards
