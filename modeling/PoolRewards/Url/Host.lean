/-
Reading hosts.

The web's own schemes name a host by an address or by a name that is read in any script.
Other schemes take it as it is, apart from addresses in brackets.
-/
import PoolRewards.HostName.Ascii
import PoolRewards.Url.Basic
import PoolRewards.Url.Percent

namespace PoolRewards.Url

/-- The address in brackets. -/
def readBrackets (cs : List Char) : Except Fault Host :=
  match cs.getLast?, readLong? (String.ofList cs.dropLast) with
  | some ']', some pieces => .ok (.long pieces)
  | _, _ => .error .invalidLongAddress

/-- The host of one of the web's own schemes. -/
def readWebHost (cs : List Char) : Except Fault Host :=
  match cs with
  | '[' :: rest => readBrackets rest
  | _ => do
    let bytes := percentDecode (String.ofList cs).toUTF8.toList
    let some text := String.fromUTF8? ⟨bytes.toArray⟩ | throw .invalidName
    let some ascii := HostName.toAscii? text.toList | throw .invalidName
    let name := String.ofList ascii
    if name.isEmpty then throw .emptyHost
    else if endsInNumber name then
      match readShort? name with
      | some address => return .short address
      | none => throw .invalidShortAddress
    else return .name name

/-- Whether a host that is taken as it is cannot have a character. -/
def isForbidden (c : Char) : Bool := c = '\x00' || "\t\n\x0d #/:<>?@[\\]^|".contains c

/-- The host of another scheme. -/
def readOtherHost (cs : List Char) : Except Fault Host :=
  match cs with
  | '[' :: rest => readBrackets rest
  | _ => if cs.any isForbidden then .error .invalidHostCharacter else .ok (.name (percentEncode isControl cs))

end PoolRewards.Url
