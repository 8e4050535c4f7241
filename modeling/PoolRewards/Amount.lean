/-
Amounts of tokens and ether, and every other 256-bit quantity: stakes, weights,
fractions and scores.

Sums, differences and products of amounts wrap at 2^256.  Only a division by zero has
no result.  An amount is written as a decimal text; it is read from a decimal text or
from hexadecimal, octal or binary digits behind the usual mark.
-/
import PoolRewards.Word

namespace PoolRewards

/-- A 256-bit quantity. -/
abbrev Amount := BitVec 256

namespace Amount

/-- The number of amounts, 2^256. -/
def size : Nat := 115792089237316195423570985008687907853269984665640564039457584007913129639936

/-- One ether in wei, and the unit of every fraction and score. -/
def oneEther : Amount := 1000000000000000000

/-- The whole deposit behind one validator, 32 ether. -/
def validatorDeposit : Amount := 32000000000000000000

/-- A word as an amount. -/
def ofWord (w : UInt64) : Amount := BitVec.ofNat 256 w.toNat

/-- The quotient, rounded down, if the divisor is not zero. -/
def div (a b : Amount) : Except Fault Amount :=
  if b = 0 then .error .divideByZero else .ok (a / b)

/-- The larger amount less the smaller one. -/
def distance (a b : Amount) : Amount := if a ≤ b then b - a else a - b

/-- The sum of a list of amounts. -/
def sum (amounts : List Amount) : Amount := amounts.foldl (· + ·) 0

/-- Decimal digits, without leading zeros. -/
def toText (a : Amount) : String := toString a.toNat

/-! ### Reading -/

/-- Why a text is no amount. -/
inductive TextFault where
  | digit (byte : UInt8)
  | tooLarge
  deriving DecidableEq, Repr

/-- The wording of a text fault.  A byte stands for the character of its number. -/
def TextFault.message : TextFault → String
  | .digit byte => "invalid digit: " ++ String.singleton (Char.ofNat byte.toNat)
  | .tooLarge => "the value is too large to fit the target type"

/-- The value of a digit in the given base, letters in either case. -/
def digitValue? (base : Nat) (byte : UInt8) : Option Nat :=
  let n := byte.toNat
  let value :=
    if 48 ≤ n ∧ n ≤ 57 then n - 48
    else if 97 ≤ n ∧ n ≤ 122 then n - 87
    else if 65 ≤ n ∧ n ≤ 90 then n - 55
    else base
  if value < base then some value else none

/-- The underscore may stand anywhere among the digits and means nothing. -/
def isSpacer (byte : UInt8) : Bool := byte = 95

/-- How many decimal digits are taken together. -/
def groupLength : Nat := 19

/-- The amount that whole groups and one more of `count` digits make up. -/
def addGroup (groups group count : Nat) : Except TextFault Nat :=
  let n := groups * Nat.pow 10 count + group
  if n < size then .ok n else .error .tooLarge

/--
Decimal digits from the left, in groups: `groups` is the worth of the groups before, and
`group` that of the `count` digits of the present one.  Whether the amount is too large
shows where a group ends, so that a fault inside the group is met before.
-/
def readDecimal (groups group count : Nat) : List UInt8 → Except TextFault Nat
  | [] => addGroup groups group count
  | byte :: rest =>
    if isSpacer byte then readDecimal groups group count rest
    else match digitValue? 10 byte with
      | none => .error (.digit byte)
      | some d =>
        if count + 1 < groupLength then readDecimal groups (group * 10 + d) (count + 1) rest
        else do
          let groups ← addGroup groups (group * 10 + d) groupLength
          readDecimal groups 0 0 rest

/-- Digits from the right: `place` is the worth of the next digit, `acc` that of those read. -/
def readFromRight (base place acc : Nat) : List UInt8 → Except TextFault Nat
  | [] => .ok acc
  | byte :: rest =>
    if isSpacer byte then readFromRight base place acc rest
    else match digitValue? base byte with
      | none => .error (.digit byte)
      | some d =>
        if acc + d * place < size then readFromRight base (place * base) (acc + d * place) rest
        else .error .tooLarge

/-- The base that the mark at the front of a text names, and the digits behind the mark. -/
def splitMark : List UInt8 → Nat × List UInt8
  | 48 :: 120 :: rest => (16, rest)
  | 48 :: 88 :: rest => (16, rest)
  | 48 :: 111 :: rest => (8, rest)
  | 48 :: 79 :: rest => (8, rest)
  | 48 :: 98 :: rest => (2, rest)
  | 48 :: 66 :: rest => (2, rest)
  | bytes => (10, bytes)

/--
Read an amount.  A decimal text is read from the left and the other notations from the
right, and the first fault met is the one reported.  No digits at all are zero.
-/
def ofText (text : String) : Except TextFault Amount :=
  let (base, digits) := splitMark text.toUTF8.toList
  (BitVec.ofNat 256 ·) <$>
    if base = 10 then readDecimal 0 0 0 digits else readFromRight base 1 0 digits.reverse

end Amount

end PoolRewards
