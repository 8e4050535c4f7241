/-
Reading typed values from JSON.

A structure is read from an object, whose members may come in any order and among others,
or from an array that holds its fields in order.  Of several faults the one that comes
first in the text is reported; only then come fields that are missing, in the order of
their declaration.

A value is read either straight off its text, where the text may go wrong behind the part
that is read, or out of a document that has been read as a whole before (`settled`).  The
two differ in what they say of items behind the last field.
-/
import PoolRewards.Json.Parser
import PoolRewards.Amount
import PoolRewards.Octets
import PoolRewards.Text.Debug
import Std.Data.ExtTreeMap

namespace PoolRewards.Json

/-- Why a text does not hold the value asked for. -/
inductive Fault where
  /-- The text is no JSON. -/
  | malformed
  | missingField (name : String)
  | duplicateField (name : String)
  | unknownVariant (name : String) (known : List String)
  | invalidType (found expected : String)
  | invalidValue (found expected : String)
  | invalidLength (length : Nat) (expected : String)
  /-- The value has the right type and cannot be converted. -/
  | custom (message : String)
  deriving DecidableEq, Repr

/-- A name in back quotes. -/
def backquoted (name : String) : String := "`" ++ name ++ "`"

/-- The wording of a fault. -/
def Fault.message : Fault → String
  | .malformed => "malformed JSON"
  | .missingField name => "missing field " ++ backquoted name
  | .duplicateField name => "duplicate field " ++ backquoted name
  | .unknownVariant name known =>
    "unknown variant " ++ backquoted name ++ ", expected one of " ++
      ", ".intercalate (known.map backquoted)
  | .invalidType found expected => s!"invalid type: {found}, expected {expected}"
  | .invalidValue found expected => s!"invalid value: {found}, expected {expected}"
  | .invalidLength length expected => s!"invalid length {length}, expected {expected}"
  | .custom message => message

/-- Where a value is read from. -/
inductive Source where
  | text
  | settled
  deriving DecidableEq, Repr

/-- A reader of values of a type. -/
abbrev Decoder (α : Type) := Source → Json → Except Fault α

namespace Decoder

/-! ### Values without fields -/

/-- How a whole number is named in a fault. -/
def integerName (n : Int) : String := "integer " ++ backquoted (toString n)

/-- The fault of a value that has the wrong type. -/
def mismatch (expected : String) : Json → Fault
  | .null => .invalidType "null" expected
  | .bool b => .invalidType ("boolean " ++ backquoted (if b then "true" else "false")) expected
  | .number (.natural n) => .invalidType (integerName n.toNat) expected
  | .number (.negative n) => .invalidType (integerName (-(n : Int))) expected
  | .number .fraction => .invalidType "floating point" expected
  | .number (.beyond _) => .malformed
  | .text s => .invalidType ("string " ++ Text.debug s) expected
  | .garbled _ => .malformed
  | .array _ _ => .invalidType "sequence" expected
  | .object _ _ => .invalidType "map" expected
  | .spoiled => .malformed
  | .torn => .malformed

/-- A word. -/
def word : Decoder UInt64
  | _, .number (.natural n) => .ok n
  | _, .number (.negative n) => .error (.invalidValue (integerName (-(n : Int))) "u64")
  | _, json => .error (mismatch "u64" json)

/-- A byte. -/
def byte : Decoder UInt8
  | _, .number (.natural n) =>
    if n < 256 then .ok n.toUInt8 else .error (.invalidValue (integerName n.toNat) "u8")
  | _, .number (.negative n) => .error (.invalidValue (integerName (-(n : Int))) "u8")
  | _, json => .error (mismatch "u8" json)

/-- A text. -/
def string : Decoder String
  | _, .text s => .ok s
  | _, json => .error (mismatch "a string" json)

/-- A truth value. -/
def bool : Decoder Bool
  | _, .bool b => .ok b
  | _, json => .error (mismatch "a boolean" json)

/-- An amount, written as a text. -/
def amount : Decoder Amount := fun source json => do
  match Amount.ofText (← string source json) with
  | .ok a => .ok a
  | .error fault => .error (.custom fault.message)

/-- A word, written as a text. -/
def quotedWord : Decoder UInt64 := fun source json => do
  let s ← string source json
  (Word.ofText s).mapError fun fault => .custom fault.message

/-- Every item, in order. -/
def items {α : Type} (decode : Decoder α) (source : Source) (closed : Bool) : List Json → Except Fault (List α)
  | [] => if closed then .ok [] else .error .malformed
  | item :: rest => do return (← decode source item) :: (← items decode source closed rest)

/-- A list. -/
def list {α : Type} (decode : Decoder α) : Decoder (List α)
  | source, .array js closed => items decode source closed js
  | _, json => .error (mismatch "a sequence" json)

/-- A value that may be missing or `null`. -/
def option {α : Type} (decode : Decoder α) : Decoder (Option α)
  | _, .null => .ok none
  | source, json => some <$> decode source json

/-! ### Bytes -/

/-- What is asked for where `count` bytes are. -/
def octetsName (count : Nat) : String :=
  s!"{count} bytes, represented as a hex string of length {2 * count}, an array of u8, or raw bytes"

/-- A text of `count` bytes. -/
def octetsOfText {count : Nat} (s : String) : Except Fault (Octets count) :=
  match Octets.ofText s with
  | .ok value => .ok value
  | .error fault => .error (.custom fault.message)

/-- Whether a reader that wants a byte and refuses a value stands at the end of the value. -/
def isPassed : Json → Bool
  | .number (.beyond spent) => spent
  | .garbled spent => spent
  | .array _ _ => false
  | .object _ _ => false
  | .torn => false
  | _ => true

/--
What follows the last byte of an array.  One byte more is one too many.  A single value
that is no byte passes unnoticed, be it spoiled, and what stands behind it does not.
-/
def surplusItems (count : Nat) (source : Source) (closed : Bool) : List Json → Except Fault Unit
  | [] => if closed then .ok () else .error .malformed
  | item :: rest =>
    match byte source item with
    | .ok _ => .error (.invalidLength (count + 1) s!"exactly {count} bytes")
    | .error _ =>
      match source with
      | .text => if isPassed item && rest.isEmpty && closed then .ok () else .error .malformed
      | .settled =>
        if rest.isEmpty then .ok ()
        else .error (.invalidLength (count + 1 + rest.length) "fewer elements in array")

/-- Bytes of an array, from byte `index` of `count` on. -/
def byteItems (count : Nat) (source : Source) (closed : Bool) :
    (due : Nat) → List Json → Except Fault (List UInt8)
  | 0, rest => do surplusItems count source closed rest; return []
  | due + 1, [] =>
    if closed then .error (.invalidLength (count - (due + 1)) s!"exactly {count} bytes")
    else .error .malformed
  | due + 1, item :: rest => do
    return (← byte source item) :: (← byteItems count source closed due rest)

/-- A value of `count` bytes: hexadecimal digits or an array of bytes. -/
def octets (count : Nat) : Decoder (Octets count)
  | _, .text s => octetsOfText s
  | source, .array js closed => Octets.ofBytes <$> byteItems count source closed count js
  | _, json => .error (mismatch (octetsName count) json)

/-! ### Names of variants -/

/-- The value that a name stands for. -/
def variantNamed {α : Type} (variants : List (String × α)) (name : String) : Except Fault α :=
  match variants.find? (·.1 == name) with
  | some (_, value) => .ok value
  | none => .error (.unknownVariant name (variants.map (·.1)))

/-- One of several named values: its name, or an object whose only member has that name and is `null`. -/
def variant {α : Type} (variants : List (String × α)) : Decoder α
  | _, .text name => variantNamed variants name
  | _, .object ((some name, content) :: rest) closed => do
    let value ← variantNamed variants name
    match content with
    | .null => if rest.isEmpty && closed then .ok value else .error .malformed
    | content => .error (mismatch "unit" content)
  | _, _ => .error .malformed

/-! ### Maps -/

/-- Every member, in order. -/
def entries {κ α : Type} (decodeKey : String → Except Fault κ) (decode : Decoder α)
    (source : Source) (closed : Bool) : List (Option String × Json) → Except Fault (List (κ × α))
  | [] => if closed then .ok [] else .error .malformed
  | (none, _) :: _ => .error .malformed
  | (some name, value) :: rest => do
    let key ← decodeKey name
    let value ← decode source value
    return (key, value) :: (← entries decodeKey decode source closed rest)

/-- The members of an object as pairs of a key and a value, in the order of the text. -/
def pairs {κ α : Type} (decodeKey : String → Except Fault κ) (decode : Decoder α) : Decoder (List (κ × α))
  | source, .object members closed => entries decodeKey decode source closed members
  | _, json => .error (mismatch "a map" json)

/-- A map from values of `count` bytes.  Of members with one key the last counts. -/
def keyed {count : Nat} {α : Type} (decode : Decoder α) : Decoder (Std.ExtTreeMap (Octets count) α) :=
  fun source json =>
    (fun entries => entries.foldl (fun found (key, value) => found.insert key value) ∅) <$>
      pairs octetsOfText decode source json

end Decoder

/-! ### Structures -/

/-- A member of an object, with its position among the members. -/
abbrev Lookup := String → Option (Nat × Json)

/-- A fault, with the position of the member that it arises at. -/
abbrev PlacedFault := Nat × Fault

/-- The fields of a structure in order, and how to build it from them. -/
structure Record (α : Type) where
  /-- The names of the fields. -/
  names : List String
  /-- From the members of an object; missing fields are placed at `last`. -/
  ofMembers : (source : Source) → (last : Nat) → Lookup → Except PlacedFault α
  /-- From items, the next one being item `index`, for a structure described by `expected`. -/
  ofItems : (source : Source) → (expected : String) → (closed : Bool) → (index : Nat) → List Json →
    Except Fault (α × Nat × List Json)

namespace Record

variable {α β : Type}

/-- No fields. -/
def unit (a : α) : Record α := ⟨[], fun _ _ _ => .ok a, fun _ _ _ index js => .ok (a, index, js)⟩

/-- Of two faults, the one placed first. -/
def firstFault (f g : PlacedFault) : PlacedFault := if f.1 ≤ g.1 then f else g

/-- The fields of two parts, one behind the other. -/
def followedBy (first : Record (α → β)) (second : Record α) : Record β where
  names := first.names ++ second.names
  ofMembers source last lookup :=
    match first.ofMembers source last lookup, second.ofMembers source last lookup with
    | .ok f, .ok a => .ok (f a)
    | .ok _, .error g => .error g
    | .error f, .ok _ => .error f
    | .error f, .error g => .error (firstFault f g)
  ofItems source expected closed index js := do
    let (f, index, js) ← first.ofItems source expected closed index js
    let (a, index, js) ← second.ofItems source expected closed index js
    return (f a, index, js)

/-- One more field, which `absent` stands in for where it is missing. -/
def fieldOr (rest : Record (α → β)) (name : String) (decode : Decoder α) (absent : Option α) : Record β :=
  rest.followedBy {
    names := [name]
    ofMembers source last lookup :=
      match lookup name with
      | some (place, json) =>
        match decode source json with
        | .ok a => .ok a
        | .error fault => .error (place, fault)
      | none =>
        match absent with
        | some a => .ok a
        | none => .error (last, .missingField name)
    ofItems source expected closed index js :=
      match js with
      | item :: js => do return (← decode source item, index + 1, js)
      | [] =>
        if closed then
          match absent with
          | some a => .ok (a, index, [])
          | none => .error (.invalidLength index expected)
        else .error .malformed }

/-- One more field, which must be there. -/
def field (rest : Record (α → β)) (name : String) (decode : Decoder α) : Record β :=
  rest.fieldOr name decode none

/-- The first member of the given name. -/
def lookupIn (members : List (Option String × Json)) : Lookup := fun name =>
  (members.zipIdx.find? fun entry => entry.1.1 == some name).map fun entry => (entry.2, entry.1.2)

/--
The first fault that the members of an object have whatever their fields say: a name that
cannot be made out, a field that comes again, a torn value where no field is, a torn end.
-/
def memberFault (names : List String) (closed : Bool) :
    (place : Nat) → (seen : List String) → List (Option String × Json) → Option PlacedFault
  | place, _, [] => if closed then none else some (place, .malformed)
  | place, _, (none, _) :: _ => some (place, .malformed)
  | place, seen, (some name, value) :: rest =>
    if names.contains name then
      if seen.contains name then some (place, .duplicateField name)
      else memberFault names closed (place + 1) (name :: seen) rest
    else if value.isWhole then memberFault names closed (place + 1) seen rest
    else some (place, .malformed)

/-- From an object. -/
def ofObject (record : Record α) (source : Source) (members : List (Option String × Json))
    (closed : Bool) : Except Fault α :=
  match memberFault record.names closed 0 [] members,
      record.ofMembers source (members.length + 1) (lookupIn members) with
  | none, .ok a => .ok a
  | none, .error g => .error g.2
  | some f, .ok _ => .error f.2
  | some f, .error g => .error (firstFault f g).2

/-- From an array that holds the fields in order and nothing else. -/
def ofArray (record : Record α) (name : String) (source : Source) (js : List Json) (closed : Bool) :
    Except Fault α := do
  let count := record.names.length
  let expected := s!"struct {name} with {count} element" ++ (if count = 1 then "" else "s")
  let (a, _, rest) ← record.ofItems source expected closed 0 js
  if rest.isEmpty && closed then .ok a
  else match source with
    | .text => .error .malformed
    | .settled => .error (.invalidLength js.length "fewer elements in array")

/-- The reader of a structure. -/
def decoder (record : Record α) (name : String) : Decoder α
  | source, .object members closed => record.ofObject source members closed
  | source, .array js closed => record.ofArray name source js closed
  | _, json => .error (Decoder.mismatch ("struct " ++ name) json)

end Record

/-! ### Whole texts -/

/-- Read a value straight off a text.  Nothing but blanks may stand behind it. -/
def decodeBytes {α : Type} (decode : Decoder α) (bytes : List UInt8) : Except Fault α := do
  let document := Document.ofBytes bytes
  let value ← decode .text document.value
  if document.surplus then .error .malformed else .ok value

end PoolRewards.Json
