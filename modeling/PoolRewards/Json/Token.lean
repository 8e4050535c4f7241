/-
The tokens of a JSON text, read byte by byte.

The reader is a machine: a state and one step for each byte, so that reading a text is a
fold over its bytes.  A token that goes wrong is `spoiled`, and the machine goes on behind
the byte at which the fault shows; where nothing can be read any more, the token is `bad`
and the machine stops for good.

A text whose escapes or bytes do not spell characters is a token of its own kind.
-/
import PoolRewards.Json.Basic

namespace PoolRewards.Json

/-- A token. -/
inductive Token where
  | openArray
  | closeArray
  | openObject
  | closeObject
  | comma
  | colon
  | null
  | bool (b : Bool)
  | number (n : Number)
  | text (s : String)
  | garbled (spent : Bool)
  | spoiled
  | bad
  deriving DecidableEq, Repr

/-! ### Numbers -/

/-- The least number that rounds beyond every double-precision value. -/
def beyondRange : Nat := 1 <<< 1024 - 1 <<< 970

/-- A number rounded to 53 binary digits, from halfway to the even neighbour. -/
def roundBinary (n : Nat) : Nat :=
  let excess := n.log2 - 52
  let quotient := n >>> excess
  let rest := n - quotient <<< excess
  let half := 1 <<< excess / 2
  (if half < rest || (rest = half && 0 < excess && quotient % 2 = 1) then quotient + 1 else quotient) <<< excess

/--
Whether `digits * 10 ^ exponent` is beyond every double-precision value, where each factor
is rounded before they are multiplied.
-/
def isBeyond (digits : Nat) (exponent : Int) : Bool :=
  if digits = 0 || exponent < 0 then false
  else if 308 < exponent then true
  else beyondRange ≤ roundBinary digits * roundBinary (Nat.pow 10 exponent.toNat)

/-- The number that a sign and the digits of a word stand for.  There is no negative zero among the whole numbers. -/
def Number.ofDigits (negative : Bool) (digits : Nat) : Number :=
  if negative then
    if 1 ≤ digits ∧ digits ≤ 1 <<< 63 then .negative digits else .fraction
  else .natural (UInt64.ofNat digits)

/-- The number that digits and a power of ten stand for. -/
def Number.ofScaled (digits : Nat) (exponent : Int) : Number :=
  if isBeyond digits exponent then .beyond true else .fraction

/-- One digit more, as long as the digits make up a word. -/
def addDigit? (digits d : Nat) : Option Nat :=
  if digits * 10 + d < UInt64.size then some (digits * 10 + d) else none

/-! ### Texts -/

/-- How far the escapes of a text spell characters. -/
inductive Spelling.Sense where
  /-- All of them do. -/
  | clear
  /-- The last one is the first half of a character, and the second half is due. -/
  | half (unit : Nat)
  /-- One of them does not. -/
  | lost
  deriving DecidableEq, Repr

/-- The characters of a text so far. -/
structure Spelling where
  /-- The bytes so far, the last one first. -/
  bytes : List UInt8
  sense : Spelling.Sense
  deriving DecidableEq, Repr

namespace Spelling

/-- No characters. -/
def empty : Spelling := ⟨[], .clear⟩

/-- Add a byte that is no escape of a number.  It cannot complete half a character. -/
def add (s : Spelling) (byte : UInt8) : Spelling :=
  match s.sense with
  | .clear => { s with bytes := byte :: s.bytes }
  | _ => { s with sense := .lost }

/-- Add the character of a code. -/
def addCode (s : Spelling) (code : Nat) : Spelling :=
  ⟨(String.singleton (Char.ofNat code)).toUTF8.toList.reverse ++ s.bytes, .clear⟩

/-- Add the escape of a number. -/
def addUnit (s : Spelling) (unit : Nat) : Spelling :=
  let second : Bool := 0xDC00 ≤ unit && unit ≤ 0xDFFF
  match s.sense with
  | .clear =>
    if second then { s with sense := .lost }
    else if 0xD800 ≤ unit && unit ≤ 0xDBFF then { s with sense := .half unit }
    else s.addCode unit
  | .half first =>
    if second then s.addCode (0x10000 + (first - 0xD800) * 0x400 + (unit - 0xDC00))
    else { s with sense := .lost }
  | .lost => s

/-- The token of a text at its closing quote. -/
def finish (s : Spelling) : Token :=
  match s.sense with
  | .clear =>
    match String.fromUTF8? s.bytes.reverse.toByteArray with
    | some characters => .text characters
    | none => .garbled true
  | .half _ => .garbled true
  | .lost => .garbled false

end Spelling

/-! ### The machine -/

/--
Where the machine stands in a number.  The digits of a number are counted as long as they
make up a word, and the exponent makes up for those that are not.
-/
inductive NumberState where
  /-- Behind the sign: a digit is due. -/
  | sign
  /-- Behind a zero in front: no digit may follow. -/
  | zero
  /-- Among the whole digits, some of which may be left out. -/
  | whole (digits leftOut : Nat)
  /-- Behind the point: a digit is due. -/
  | point (digits : Nat) (exponent : Int)
  /-- Among the digits behind the point, all further ones of which may be left out. -/
  | places (digits : Nat) (exponent : Int) (full : Bool)
  /-- Behind the mark of the exponent: a sign or a digit is due. -/
  | mark (digits : Nat) (exponent : Int)
  /-- Behind the sign of the exponent: a digit is due. -/
  | markSign (digits : Nat) (exponent : Int) (negative : Bool)
  /-- Among the digits of the exponent. -/
  | power (digits : Nat) (exponent : Int) (negative : Bool) (value : Nat)
  /-- Among the digits of an exponent that is out of bounds. -/
  | runaway (n : Number)
  deriving DecidableEq, Repr

/-- Where the machine stands. -/
inductive Reader where
  /-- Between tokens. -/
  | between
  /-- In a word, of which the given bytes are still due. -/
  | word (due : List UInt8) (token : Token)
  /-- In a number. -/
  | number (negative : Bool) (state : NumberState)
  /-- In a text. -/
  | text (s : Spelling)
  /-- Behind a backslash. -/
  | escape (s : Spelling)
  /-- In the escape of a number, with `left` bytes due; `none` once one of them is no digit. -/
  | unit (s : Spelling) (left : Nat) (value : Option Nat)
  /-- Behind a bad token. -/
  | stopped
  deriving DecidableEq, Repr

/-- A decimal digit. -/
def digit? (byte : UInt8) : Option Nat :=
  if 48 ≤ byte ∧ byte ≤ 57 then some (byte.toNat - 48) else none

/-- A digit of an escape. -/
def hexDigit? (byte : UInt8) : Option Nat :=
  if 48 ≤ byte ∧ byte ≤ 57 then some (byte.toNat - 48)
  else if 97 ≤ byte ∧ byte ≤ 102 then some (byte.toNat - 87)
  else if 65 ≤ byte ∧ byte ≤ 70 then some (byte.toNat - 55)
  else none

/-- What the byte behind a backslash spells, other than the escape of a number. -/
def escaped? (byte : UInt8) : Option UInt8 :=
  if byte = 34 ∨ byte = 92 ∨ byte = 47 then some byte
  else if byte = 98 then some 8
  else if byte = 102 then some 12
  else if byte = 110 then some 10
  else if byte = 114 then some 13
  else if byte = 116 then some 9
  else none

/-- What a byte does to a number. -/
inductive NumberStep where
  /-- The byte belongs to the number. -/
  | more (state : NumberState)
  /-- The number ends before the byte. -/
  | ends (n : Number)
  /-- The byte must not follow.  It may be taken for a part of the number all the same. -/
  | spoils (taken : Bool)

/-- The largest exponent that is counted. -/
def largestPower : Nat := 2147483647

/-- The exponent with one digit more. -/
def powerStep (digits : Nat) (exponent : Int) (down : Bool) (value : Nat) : NumberState :=
  if value ≤ largestPower then .power digits exponent down value
  else .runaway (if digits = 0 || down then .fraction else .beyond true)

/-- One byte more of a number. -/
def NumberState.step (negative : Bool) (byte : UInt8) : NumberState → NumberStep
  | .sign =>
    match digit? byte with
    | some 0 => .more .zero
    | some d => .more (.whole d 0)
    | none => .spoils true
  | .zero =>
    if (digit? byte).isSome then .spoils false
    else if byte = 46 then .more (.point 0 0)
    else if byte = 101 ∨ byte = 69 then .more (.mark 0 0)
    else .ends (.ofDigits negative 0)
  | .whole digits leftOut =>
    match digit? byte with
    | some d =>
      match if leftOut = 0 then addDigit? digits d else none with
      | some digits => .more (.whole digits 0)
      | none => .more (.whole digits (leftOut + 1))
    | none =>
      if byte = 46 then .more (.point digits leftOut)
      else if byte = 101 ∨ byte = 69 then .more (.mark digits leftOut)
      else if leftOut = 0 then .ends (.ofDigits negative digits)
      else .ends (.ofScaled digits leftOut)
  | .point digits exponent =>
    match digit? byte with
    | some d =>
      match addDigit? digits d with
      | some digits => .more (.places digits (exponent - 1) false)
      | none => .more (.places digits exponent true)
    | none => .spoils false
  | .places digits exponent full =>
    match digit? byte with
    | some d =>
      match if full then none else addDigit? digits d with
      | some digits => .more (.places digits (exponent - 1) false)
      | none => .more (.places digits exponent true)
    | none =>
      if byte = 101 ∨ byte = 69 then .more (.mark digits exponent)
      else .ends (.ofScaled digits exponent)
  | .mark digits exponent =>
    if byte = 43 then .more (.markSign digits exponent false)
    else if byte = 45 then .more (.markSign digits exponent true)
    else match digit? byte with
      | some d => .more (.power digits exponent false d)
      | none => .spoils true
  | .markSign digits exponent down =>
    match digit? byte with
    | some d => .more (.power digits exponent down d)
    | none => .spoils true
  | .power digits exponent down value =>
    match digit? byte with
    | some d => .more (powerStep digits exponent down (value * 10 + d))
    | none => .ends (.ofScaled digits (exponent + if down then -(value : Int) else value))
  | .runaway n =>
    match digit? byte, n with
    | some _, .beyond _ => .more (.runaway (.beyond false))
    | some _, n => .more (.runaway n)
    | none, n => .ends n

/-- The number that a text ends in, if it may end there. -/
def NumberState.finish (negative : Bool) (state : NumberState) : Option Number :=
  match state.step negative 0 with
  | .ends n => some n
  | _ => none

/-- The first byte of a token, or a blank. -/
def start (byte : UInt8) : Reader × List Token :=
  if byte = 32 ∨ byte = 9 ∨ byte = 10 ∨ byte = 13 then (.between, [])
  else if byte = 91 then (.between, [.openArray])
  else if byte = 93 then (.between, [.closeArray])
  else if byte = 123 then (.between, [.openObject])
  else if byte = 125 then (.between, [.closeObject])
  else if byte = 44 then (.between, [.comma])
  else if byte = 58 then (.between, [.colon])
  else if byte = 34 then (.text .empty, [])
  else if byte = 110 then (.word [117, 108, 108] .null, [])
  else if byte = 116 then (.word [114, 117, 101] (.bool true), [])
  else if byte = 102 then (.word [97, 108, 115, 101] (.bool false), [])
  else if byte = 45 then (.number true .sign, [])
  else match digit? byte with
    | some 0 => (.number false .zero, [])
    | some d => (.number false (.whole d 0), [])
    | none => (.stopped, [.bad])

/-- What is left of a text whose next byte must not follow: nothing can be read behind it once its sense is lost. -/
def Spelling.spoil (s : Spelling) : Reader × List Token :=
  if s.sense = .lost then (.stopped, [.bad]) else (.between, [.spoiled])

/-- One byte. -/
def Reader.step (byte : UInt8) : Reader → Reader × List Token
  | .between => start byte
  | .word [] token => (.stopped, [token, .bad])
  | .word [due] token => if byte = due then (.between, [token]) else (.between, [.spoiled])
  | .word (due :: more) token => if byte = due then (.word more token, []) else (.between, [.spoiled])
  | .number negative state =>
    match state.step negative byte with
    | .more state => (.number negative state, [])
    | .ends n => ((start byte).1, .number n :: (start byte).2)
    | .spoils true => (.between, [.spoiled])
    | .spoils false => ((start byte).1, .spoiled :: (start byte).2)
  | .text s =>
    if byte = 34 then (.between, [s.finish])
    else if byte = 92 then (.escape s, [])
    else if byte < 32 then s.spoil
    else (.text (s.add byte), [])
  | .escape s =>
    if byte = 117 then (.unit s 4 (some 0), [])
    else match escaped? byte with
      | some b => (.text (s.add b), [])
      | none => s.spoil
  | .unit s left value =>
    let value := do return (← value) * 16 + (← hexDigit? byte)
    if 1 < left then (.unit s (left - 1) value, [])
    else match value with
      | some n => (.text (s.addUnit n), [])
      | none => s.spoil
  | .stopped => (.stopped, [])

/-- The tokens that the end of the text completes. -/
def Reader.finish : Reader → List Token
  | .between => []
  | .number negative state =>
    match state.finish negative with
    | some n => [.number n]
    | none => [.bad]
  | .stopped => []
  | _ => [.bad]

/-- The tokens of a text from a state of the machine on. -/
def tokensFrom (reader : Reader) : List UInt8 → List Token
  | [] => reader.finish
  | byte :: rest => (reader.step byte).2 ++ tokensFrom (reader.step byte).1 rest

/-- The tokens of a text. -/
def tokens (bytes : List UInt8) : List Token := tokensFrom .between bytes

end PoolRewards.Json
