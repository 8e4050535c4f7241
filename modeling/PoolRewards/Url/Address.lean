/-
Addresses of hosts.

A short address is a number of 32 bits.  Its text has up to four parts, and the last one
fills up what is left.  A long address has eight pieces of 16 bits, of which one run of
zeros may be left out, and the last two may be written as a short address.
-/
namespace PoolRewards.Url

/-! ### Numbers -/

/-- The value of a digit. -/
def digitIn? (base : Nat) (c : Char) : Option Nat :=
  let value := if c.isDigit then some (c.toNat - 48)
    else if 'a' ≤ c && c ≤ 'f' then some (c.toNat - 87)
    else if 'A' ≤ c && c ≤ 'F' then some (c.toNat - 55)
    else none
  value.filter (· < base)

/-- The number that digits spell.  No digits spell zero. -/
def numberIn? (base : Nat) (digits : List Char) : Option Nat :=
  digits.foldlM (fun n c => (n * base + ·) <$> digitIn? base c) 0

/-! ### Short addresses -/

/-- The number that a part spells: hexadecimal behind `0x`, octal behind `0`, decimal else. -/
def partNumber? : List Char → Option Nat
  | [] => none
  | '0' :: 'x' :: digits => numberIn? 16 digits
  | '0' :: 'X' :: digits => numberIn? 16 digits
  | '0' :: c :: digits => numberIn? 8 (c :: digits)
  | digits => numberIn? 10 digits

/-- The address that numbers spell.  The last one fills up all places that are left. -/
def shortOf : (places : Nat) → List Nat → Option UInt32
  | _, [] => none
  | 0, _ => none
  | places + 1, [last] => if last < 1 <<< (8 * (places + 1)) then some (.ofNat last) else none
  | places + 1, part :: rest => do
    if part < 256 then return (.ofNat (part <<< (8 * places))) + (← shortOf places rest) else none

/-- The parts of a host name.  A dot at its end does not count. -/
def nameParts (name : String) : List (List Char) :=
  let parts := (name.splitOn ".").map String.toList
  if parts.getLast? = some [] then parts.dropLast else parts

/-- Whether a host name is meant as a short address: its last part is a number. -/
def endsInNumber (name : String) : Bool :=
  match (nameParts name).getLast? with
  | some part => (!part.isEmpty && part.all Char.isDigit) || (partNumber? part).isSome
  | none => false

/-- The short address that a host name spells. -/
def readShort? (name : String) : Option UInt32 := do
  shortOf 4 (← (nameParts name).mapM partNumber?)

/-- The text of a short address. -/
def shortText (address : UInt32) : String :=
  ".".intercalate ([3, 2, 1, 0].map fun i => toString ((address.toNat >>> (8 * i)) % 256))

/-! ### Long addresses -/

/-- The pieces of a short address in four decimal parts, which have no zeros in front. -/
def shortPieces? (text : String) : Option (List UInt16) := do
  let numbers ← (text.splitOn ".").mapM fun part =>
    let digits := part.toList
    let isPlain := digits ≠ [] && (digits.length = 1 || digits.head? ≠ some '0')
    (numberIn? 10 digits).filter fun n => isPlain && n < 256
  match numbers with
  | [a, b, c, d] => some [.ofNat (a * 256 + b), .ofNat (c * 256 + d)]
  | _ => none

/-- A piece of one to four hexadecimal digits. -/
def piece? (text : String) : Option UInt16 :=
  let digits := text.toList
  if digits ≠ [] && digits.length ≤ 4 then (numberIn? 16 digits).map .ofNat else none

/-- Pieces with colons between them.  The last one may be a short address. -/
def pieces? (isLast : Bool) : List String → Option (List UInt16)
  | [] => some []
  | [text] => if isLast && text.contains '.' then shortPieces? text else (piece? text).map ([·])
  | text :: rest => do return (← piece? text) :: (← pieces? isLast rest)

/-- The pieces of part of an address, which may be empty. -/
def run? (isLast : Bool) (text : String) : Option (List UInt16) :=
  if text.isEmpty then some [] else pieces? isLast (text.splitOn ":")

/-- How many pieces a long address has. -/
def pieceCount : Nat := 8

/-- The pieces of a long address.  Two colons stand for one or more zeros. -/
def readLong? (text : String) : Option (List UInt16) := do
  match text.splitOn "::" with
  | [all] =>
    let pieces ← run? true all
    if pieces.length = pieceCount then return pieces else none
  | [front, back] =>
    let front ← run? false front
    let back ← run? true back
    let zeros := pieceCount - front.length - back.length
    if 0 < zeros then return front ++ List.replicate zeros 0 ++ back else none
  | _ => none

/-- How many zeros there are in front of pieces. -/
def zerosInFront (pieces : List UInt16) : Nat := (pieces.takeWhile (· = 0)).length

/-- The longest run of zeros in some pieces. -/
def longestRun : List UInt16 → Nat
  | [] => 0
  | piece :: rest => max (zerosInFront (piece :: rest)) (longestRun rest)

/-- Pieces in small digits with colons between them. -/
def piecesText (pieces : List UInt16) : String :=
  ":".intercalate (pieces.map fun piece => String.ofList (Nat.toDigits 16 piece.toNat))

/-- Pieces up to the first run of so many zeros, and what is behind it. -/
def splitAtRun (length : Nat) : List UInt16 → List UInt16 × List UInt16
  | [] => ([], [])
  | piece :: rest =>
    if zerosInFront (piece :: rest) = length then ([], (piece :: rest).drop length)
    else
      let (front, back) := splitAtRun length rest
      (piece :: front, back)

/-- The text of a long address.  The first of its longest runs of two or more zeros is left out. -/
def longText (pieces : List UInt16) : String :=
  let length := longestRun pieces
  if length < 2 then piecesText pieces
  else
    let (front, back) := splitAtRun length pieces
    piecesText front ++ "::" ++ piecesText back

end PoolRewards.Url
