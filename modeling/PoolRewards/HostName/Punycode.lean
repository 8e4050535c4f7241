/-
Any text in small letters, digits and hyphens.

The ASCII characters of the text come first.  Behind a hyphen follow numbers that tell where
the others are put in: they are taken in the order of their codes, and each number counts
the places that are passed over since the last one, all codes and all places in between.  A
number has digits of base 36 and ends at the first digit below a threshold, which adapts to
the size of the numbers so far.
-/
namespace PoolRewards.Punycode

/-- How many digits there are. -/
def base : Nat := 36

/-- The code that numbers count from. -/
def firstCode : Nat := 128

/-- The bias before the first number. -/
def firstBias : Nat := 72

/-- The hyphen behind the ASCII characters. -/
def delimiter : Char := '-'

/-- The digit of a value: first the letters, then the figures. -/
def digit (value : Nat) : Char := .ofNat (if value < 26 then 97 + value else 22 + value)

/-- The value of a digit. -/
def digitValue? (c : Char) : Option Nat :=
  if c.isLower then some (c.toNat - 97)
  else if c.isUpper then some (c.toNat - 65)
  else if c.isDigit then some (c.toNat - 22)
  else none

/-- The threshold of a digit, the first of which has the position `base`, the next twice that. -/
def threshold (bias position : Nat) : Nat :=
  if position ≤ bias then 1 else if bias + 26 ≤ position then 26 else position - bias

theorem threshold_pos (bias position : Nat) : 0 < threshold bias position := by
  unfold threshold
  split
  · omega
  · split <;> omega

/-- The bias that suits numbers of a size. -/
def biasOf (bias size : Nat) : Nat :=
  if size ≤ 455 then bias + base * size / (size + 38) else biasOf (bias + base) (size / 35)
termination_by size
decreasing_by omega

/-- The bias after a number, with so many characters in the text. -/
def adapt (number characters : Nat) (isFirst : Bool) : Nat :=
  let size := if isFirst then number / 700 else number / 2
  biasOf 0 (size + size / characters)

/-! ### Writing -/

/-- The digits of a number. -/
def writeNumber (bias position number : Nat) : List Char :=
  let bound := threshold bias position
  if number < bound then [digit number]
  else digit (bound + (number - bound) % (base - bound)) ::
    writeNumber bias (position + base) ((number - bound) / (base - bound))
termination_by number
decreasing_by
  have := threshold_pos bias position
  have := Nat.div_le_self (number - threshold bias position) (base - threshold bias position)
  omega

/-- How far a text is written. -/
structure Writer where
  written : List Char
  /-- What the next number has counted. -/
  number : Nat
  bias : Nat
  /-- How many characters are in their places. -/
  placed : Nat

/-- Pass one place of the text, or write the number at a character of the code. -/
def Writer.pass (basicCount code : Nat) (writer : Writer) (c : Char) : Writer :=
  if c.toNat < code then { writer with number := writer.number + 1 }
  else if c.toNat = code then {
    written := writer.written ++ writeNumber writer.bias base writer.number
    number := 0
    bias := adapt writer.number (writer.placed + 1) (writer.placed = basicCount)
    placed := writer.placed + 1 }
  else writer

/-- Put in all characters of each code. -/
def Writer.placeAll (basicCount : Nat) (text : List Char) (writer : Writer) (first : Nat) : List Nat → Writer
  | [] => writer
  | code :: rest =>
    let passed := { writer with number := writer.number + (code - first) * (writer.placed + 1) }
    let after := text.foldl (pass basicCount code) passed
    placeAll basicCount text { after with number := after.number + 1 } (code + 1) rest

/-- The codes beyond ASCII in a text, ascending. -/
def highCodes (text : List Char) : List Nat :=
  ((text.map Char.toNat).filter (firstCode ≤ ·)).eraseDups.mergeSort

/-- A text in small letters, digits and hyphens. -/
def encode (text : List Char) : List Char :=
  let basic := text.filter (·.toNat < firstCode)
  let front := if basic.isEmpty then [] else basic ++ [delimiter]
  (Writer.placeAll basic.length text ⟨front, 0, firstBias, basic.length⟩ firstCode (highCodes text)).written

/-! ### Reading -/

/-- How far a text is read. -/
structure Reader where
  text : List Char
  /-- The code and the place that are reached. -/
  code : Nat
  place : Nat
  bias : Nat
  /-- The position of the next digit, what it counts, and the number before it. -/
  position : Nat
  weight : Nat
  number : Nat

/-- Read a digit, and put in a character if it ends a number. -/
def Reader.step (reader : Reader) (c : Char) : Option Reader := do
  let value ← digitValue? c
  let number := reader.number + value * reader.weight
  let bound := threshold reader.bias reader.position
  if bound ≤ value then
    return { reader with
      position := reader.position + base, weight := reader.weight * (base - bound), number }
  else
    let length := reader.text.length + 1
    let reached := reader.place + number
    let code := reader.code + reached / length
    if code.isValidChar then
      return {
        text := reader.text.insertIdx (reached % length) (.ofNat code)
        code
        place := reached % length + 1
        bias := adapt number length (reader.place = 0)
        position := base
        weight := 1
        number := 0 }
    else none

/-- What stands before the last hyphen, and what behind it.  A hyphen in front is none. -/
def splitDelimiter (digits : List Char) : List Char × List Char :=
  let behind := (digits.reverse.takeWhile (· ≠ delimiter)).reverse
  if behind.length + 1 < digits.length then (digits.take (digits.length - behind.length - 1), behind)
  else ([], digits)

/-- The text that small letters, digits and hyphens stand for.  No number may be cut short. -/
def decode (digits : List Char) : Option (List Char) := do
  let (basic, numbers) := splitDelimiter digits
  let reader ← numbers.foldlM Reader.step ⟨basic, firstCode, 0, firstBias, base, 1, 0⟩
  if reader.position = base then return reader.text else none

end PoolRewards.Punycode
