/-
Documents that are read as a whole before anything is made of them.

Such a document has to be sound through and through and may nest only so deep; the first
fault in the text is reported.  Once it is read, the order of the members of an object is
forgotten: they are sorted by name, and of members with one name the last counts.

A document may stand inside another one as a text: an object that begins with the member
for embedded texts, and has no other, stands for the document in that text.
-/
import PoolRewards.Json.Decoder

namespace PoolRewards.Json

/-- How deep arrays and objects may nest. -/
def deepest : Nat := 127

/-- The name of the member that holds an embedded document. -/
def embeddedName : String := "$serde_json::private::RawValue"

/-- The value of the first member, if it is the one for embedded documents. -/
def embedded? : List (Option String × Json) → Option Json
  | (some name, value) :: _ => if name = embeddedName then some value else none
  | _ => none

/-- Members sorted by name, each name once. -/
def insertMember (name : String) (value : Json) :
    List (Option String × Json) → List (Option String × Json)
  | [] => [(some name, value)]
  | (other, old) :: rest =>
    let otherName := other.getD ""
    if name < otherName then (some name, value) :: (other, old) :: rest
    else if name = otherName then (some name, value) :: rest
    else (other, old) :: insertMember name value rest

/-- The members of an object, sorted by name, the last of a name kept. -/
def sortMembers (members : List (Option String × Json)) : List (Option String × Json) :=
  members.foldl (fun sorted (name, value) => insertMember (name.getD "") value sorted) []

mutual

/-- A sound value that nests at most `room` deep, with the members of all its objects sorted. -/
def settle (embedded : String → Except Fault Json) (room : Nat) : Json → Except Fault Json
  | .array items closed => do
    if room = 0 then throw .malformed
    let items ← settleItems embedded (room - 1) items
    if closed then return .array items true else throw .malformed
  | .object members closed => do
    if room = 0 then throw .malformed
    match embedded? members with
    | some (.text s) =>
      let content ← embedded s
      if members.length = 1 && closed then return content else throw .malformed
    | some value => throw (Decoder.mismatch "raw value" value)
    | none =>
      let members ← settleMembers embedded (room - 1) members
      if closed then return .object (sortMembers members) true else throw .malformed
  | .number (.beyond _) => .error .malformed
  | .garbled _ => .error .malformed
  | .spoiled => .error .malformed
  | .torn => .error .malformed
  | value => .ok value

/-- Sound items. -/
def settleItems (embedded : String → Except Fault Json) (room : Nat) : List Json → Except Fault (List Json)
  | [] => .ok []
  | item :: items => do
    let item ← settle embedded room item
    return item :: (← settleItems embedded room items)

/-- Sound members, whose names can be made out. -/
def settleMembers (embedded : String → Except Fault Json) (room : Nat) :
    List (Option String × Json) → Except Fault (List (Option String × Json))
  | [] => .ok []
  | (name, value) :: members => do
    if name.isNone then throw .malformed
    let value ← settle embedded room value
    return (name, value) :: (← settleMembers embedded room members)

end

/-- The settled value of a text, in which documents are embedded less than `fuel` deep. -/
def settledWithin : (fuel : Nat) → List UInt8 → Except Fault Json
  | 0, _ => .error .malformed
  | fuel + 1, bytes => do
    let document := Document.ofBytes bytes
    let value ← settle (fun s => settledWithin fuel s.toUTF8.toList) deepest document.value
    if document.surplus then throw .malformed
    return value

/-- The settled value of a text.  An embedded document is shorter than the one around it. -/
def settledOfBytes (bytes : List UInt8) : Except Fault Json := settledWithin (bytes.length + 1) bytes

end PoolRewards.Json
