/-
JSON values as they stand in a text.

A text that breaks off or goes wrong still has a beginning that can be read, and a reader
that meets a fault of its own in that beginning reports it first.  So a value may be torn:
`torn` stands where a value should have begun and none did, and an array or an object that
is not closed is one whose text goes wrong behind its last member.  A value may also be
`spoiled`: its own text goes wrong, but a reader that does not mind can go on behind it.

A text or a member name may be well formed and still not spell characters: such a text is
`garbled`, and such a name is `none`.  A reader that tries to make out a garbled text, or a
number beyond range, gives up somewhere in it; the value is `spent` if that is its end.
-/
namespace PoolRewards

/-- A number, as far as any reader here tells numbers apart. -/
inductive Json.Number where
  /-- A whole number that is a word. -/
  | natural (n : UInt64)
  /-- The negative of a whole number, from -1 down to -2^63. -/
  | negative (n : Nat)
  /-- Any other number that a double-precision value can stand for. -/
  | fraction
  /-- A number beyond every double-precision value. -/
  | beyond (spent : Bool)
  deriving DecidableEq, Repr

/-- A JSON value, whole or torn. -/
inductive Json where
  | null
  | bool (b : Bool)
  | number (n : Json.Number)
  | text (s : String)
  | garbled (spent : Bool)
  | array (items : List Json) (closed : Bool)
  | object (members : List (Option String × Json)) (closed : Bool)
  | spoiled
  | torn
  deriving Repr, Inhabited

namespace Json

/-- A text. -/
def ofString (s : String) : Json := .text s

/-- A word as a number. -/
def ofWord (n : UInt64) : Json := .number (.natural n)

/-- A closed array. -/
def ofList (items : List Json) : Json := .array items true

/-- A closed object. -/
def ofMembers (members : List (String × Json)) : Json :=
  .object (members.map fun (name, value) => (some name, value)) true

/-! ### Wholeness -/

mutual

/-- Whether nothing in a value is spoiled or torn. -/
def isWhole : Json → Bool
  | .array items closed => closed && areWhole items
  | .object members closed => closed && haveWhole members
  | .spoiled => false
  | .torn => false
  | _ => true

/-- Whether every item of an array is whole. -/
def areWhole : List Json → Bool
  | [] => true
  | item :: items => item.isWhole && areWhole items

/-- Whether every member of an object is whole. -/
def haveWhole : List (Option String × Json) → Bool
  | [] => true
  | (_, value) :: members => value.isWhole && haveWhole members

end

/-! ### Lookups -/

/-- The first member of an object with the given name. -/
def get? (name : String) : Json → Option Json
  | .object members _ => (members.find? fun member => member.1 == some name).map (·.2)
  | _ => none

end Json

end PoolRewards
