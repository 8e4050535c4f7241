/-
Hexadecimal text.

Bytes are written as two lower-case digits each and read in either case.  Two readers
share the digits and differ in what they demand: `decode` takes any even number of
digits, `decodeExactly` a given number of bytes.  A fault names the first byte that is
no digit and its position.
-/
namespace PoolRewards.Hex

/-- The digits of one byte. -/
def byteDigits (byte : UInt8) : List Char :=
  [Nat.digitChar (byte.toNat / 16), Nat.digitChar (byte.toNat % 16)]

/-- Two lower-case digits a byte. -/
def encode (bytes : List UInt8) : String := String.ofList (bytes.flatMap byteDigits)

/-- Why a text does not stand for bytes. -/
inductive TextFault where
  | oddLength
  | wrongLength
  | character (byte : UInt8) (position : Nat)
  deriving DecidableEq, Repr

/-- The value of one digit. -/
def digitValue? (byte : UInt8) : Option UInt8 :=
  if 48 ≤ byte ∧ byte ≤ 57 then some (byte - 48)
  else if 97 ≤ byte ∧ byte ≤ 102 then some (byte - 87)
  else if 65 ≤ byte ∧ byte ≤ 70 then some (byte - 55)
  else none

/-- Pairs of digits from `position` on. -/
def decodePairs (position : Nat) : List UInt8 → Except TextFault (List UInt8)
  | [] => .ok []
  | [_] => .error .oddLength
  | high :: low :: rest =>
    match digitValue? high, digitValue? low with
    | none, _ => .error (.character high position)
    | some _, none => .error (.character low (position + 1))
    | some h, some l => ((16 * h + l) :: ·) <$> decodePairs (position + 2) rest

/-- The bytes that an even number of digits stands for. -/
def decode (digits : List UInt8) : Except TextFault (List UInt8) :=
  if digits.length % 2 = 1 then .error .oddLength else decodePairs 0 digits

/-- The bytes that `2 * count` digits stand for.  An odd number is reported before a wrong one. -/
def decodeExactly (count : Nat) (digits : List UInt8) : Except TextFault (List UInt8) :=
  if digits.length % 2 = 1 then .error .oddLength
  else if digits.length ≠ 2 * count then .error .wrongLength
  else decodePairs 0 digits

/-- A text without one `0x` at its front, in either case. -/
def dropMark : List UInt8 → List UInt8
  | 48 :: 120 :: rest => rest
  | 48 :: 88 :: rest => rest
  | bytes => bytes

/-- A text without every `0x` at its front, in lower case. -/
def dropMarks : List UInt8 → List UInt8
  | 48 :: 120 :: rest => dropMarks rest
  | bytes => bytes

/-- How a byte that is no digit is shown: as the character of its number, escaped if it does not print. -/
def shown (byte : UInt8) : String :=
  if byte = 0 then "\\0"
  else if byte = 9 then "\\t"
  else if byte = 10 then "\\n"
  else if byte = 13 then "\\r"
  else if byte = 39 then "\\'"
  else if byte = 92 then "\\\\"
  else if byte < 32 ∨ (127 ≤ byte ∧ byte ≤ 160) ∨ byte = 173 then
    "\\u\x7b" ++ String.ofList (Nat.toDigits 16 byte.toNat) ++ "\x7d"
  else String.singleton (Char.ofNat byte.toNat)

/-- The wording for values of a fixed size. -/
def TextFault.message : TextFault → String
  | .oddLength => "odd number of digits"
  | .wrongLength => "invalid string length"
  | .character byte position => s!"invalid character '{shown byte}' at position {position}"

/-- The wording for bits of any number. -/
def TextFault.bitsMessage : TextFault → String
  | .oddLength => "Odd number of digits"
  | .wrongLength => "Invalid string length"
  | .character byte position => s!"Invalid character '{shown byte}' at position {position}"

end PoolRewards.Hex
