/-
Binary layouts.

A layout says how values of a type are laid out as bytes and how they are read back from
the front of a buffer.  Words and lengths are varints: seven bits a byte, the lowest first,
with the high bit set on every byte but the last.  Texts and byte strings stand behind their
length, lists behind the number of their items, and the parts of a pair one after the other.

Layouts are built from layouts, so that what holds of the parts, that a value is read back
and that a buffer which breaks off is refused, carries over to the whole.
-/
import PoolRewards.Amount
import PoolRewards.Octets

namespace PoolRewards

namespace Layout

/-- Why a buffer does not hold the value asked for. -/
inductive Fault where
  | endOfBuffer
  | longVarint
  | badText
  /-- A text or a byte string that is not of the form asked for. -/
  | badContent
  deriving DecidableEq, Repr

/-- The wording of a fault. -/
def Fault.message : Fault → String
  | .endOfBuffer => "Hit the end of buffer, expected more data"
  | .longVarint => "Found a varint that didn't terminate. Is the usize too big for this platform?"
  | .badText => "Tried to parse invalid utf-8"
  | .badContent => "Serde Deserialization Error"

/-- A reader from the front of a buffer. -/
abbrev Reader (α : Type) := StateT (List UInt8) (Except Fault) α

namespace Reader

/-- One byte. -/
def byte : Reader UInt8
  | [] => .error .endOfBuffer
  | byte :: rest => .ok (byte, rest)

/-- The next `count` bytes. -/
def bytes (count : Nat) : Reader (List UInt8) := fun buffer =>
  if count ≤ buffer.length then .ok (buffer.take count, buffer.drop count) else .error .endOfBuffer

/-- As many values as asked for. -/
def times {α : Type} (read : Reader α) : Nat → Reader (List α)
  | 0 => return []
  | count + 1 => do return (← read) :: (← times read count)

end Reader

/-! ### Varints -/

/-- The most bytes that the varint of a word has. -/
def varintBytes : Nat := 10

/-- The varint of a number. -/
def varint (n : Nat) : List UInt8 :=
  if n < 128 then [UInt8.ofNat n] else UInt8.ofNat (n % 128 + 128) :: varint (n / 128)

/--
A varint of at most `due` bytes.  The last byte that may stand there holds the highest bit
of a word and nothing else.
-/
def readVarint : (due : Nat) → Reader Nat
  | 0 => throw .longVarint
  | due + 1 => do
    let byte ← Reader.byte
    if byte < 128 then
      if due = 0 && 1 < byte then throw .longVarint else return byte.toNat
    else return byte.toNat - 128 + 128 * (← readVarint due)

end Layout

/-- How values of a type are written and read. -/
structure Layout (α : Type) where
  write : α → List UInt8
  read : Layout.Reader α

namespace Layout

variable {α β : Type}

/-- A word. -/
def word : Layout UInt64 where
  write n := varint n.toNat
  read := UInt64.ofNat <$> readVarint varintBytes

/-- Bytes behind their number. -/
def bytes : Layout (List UInt8) where
  write bs := varint bs.length ++ bs
  read := do Reader.bytes (← readVarint varintBytes)

/-- A layout for what another layout's values stand for. -/
def refine (layout : Layout α) (encode : β → α) (decode : α → Except Fault β) : Layout β where
  write b := layout.write (encode b)
  read := do liftM (decode (← layout.read))

/-- A layout for values that are another layout's values in other words. -/
def relabel (layout : Layout α) (encode : β → α) (decode : α → β) : Layout β :=
  layout.refine encode fun a => .ok (decode a)

/-- A text. -/
def text : Layout String :=
  bytes.refine (fun s => s.toUTF8.toList) fun bs =>
    match String.fromUTF8? ⟨bs.toArray⟩ with
    | some s => .ok s
    | none => .error .badText

/-- An amount, as its text. -/
def amount : Layout Amount :=
  text.refine Amount.toText fun s => (Amount.ofText s).mapError fun _ => .badContent

/-- A value of `count` bytes. -/
def octets (count : Nat) : Layout (Octets count) :=
  bytes.refine Octets.toBytes fun bs =>
    match Octets.ofBytes? bs with
    | some value => .ok value
    | none => .error .badContent

/-- A list behind the number of its items. -/
def list (layout : Layout α) : Layout (List α) where
  write xs := varint xs.length ++ xs.flatMap layout.write
  read := do Reader.times layout.read (← readVarint varintBytes)

/-- Two values, one after the other. -/
def pair (first : Layout α) (second : Layout β) : Layout (α × β) where
  write p := first.write p.1 ++ second.write p.2
  read := do return (← first.read, ← second.read)

end Layout

end PoolRewards
