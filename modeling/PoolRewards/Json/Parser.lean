/-
From tokens to a value.

The parser is a machine over tokens.  It keeps the arrays and objects that are open, the
innermost first, with what has been read of each.  Where a token cannot follow, whatever
is open is closed off as torn.
-/
import PoolRewards.Json.Token

namespace PoolRewards.Json

/-- An open array or object, with what stands before the value being read, last first. -/
inductive Frame where
  | items (before : List Json)
  | members (before : List (Option String × Json)) (name : Option String)
  deriving Repr

/-- What the machine waits for. -/
inductive Parser where
  /-- A value. -/
  | valueDue (frames : List Frame)
  /-- The first item of an array, or its end. -/
  | firstItemDue (frames : List Frame)
  /-- The first member name of an object, or its end. -/
  | firstNameDue (frames : List Frame)
  /-- A member name behind a comma. -/
  | nameDue (before : List (Option String × Json)) (frames : List Frame)
  /-- The colon behind a member name. -/
  | colonDue (before : List (Option String × Json)) (name : Option String) (frames : List Frame)
  /-- A comma or an end, behind a value. -/
  | after (value : Json) (frames : List Frame)
  /-- Nothing: the text goes on behind its value. -/
  | surplus (value : Json)
  /-- Nothing: the text has gone wrong. -/
  | torn (value : Json)
  deriving Repr

/-- Put a torn value into the frames around it. -/
def enclose (value : Json) : List Frame → Json
  | [] => value
  | .items before :: frames => enclose (.array (value :: before).reverse false) frames
  | .members before name :: frames => enclose (.object ((name, value) :: before).reverse false) frames

/-- What has been read, the rest being lost. -/
def Parser.abandon : Parser → Json
  | .valueDue frames => enclose .torn frames
  | .firstItemDue frames => enclose (.array [] false) frames
  | .firstNameDue frames => enclose (.object [] false) frames
  | .nameDue before frames => enclose (.object before.reverse false) frames
  | .colonDue before name frames => enclose (.object ((name, .torn) :: before).reverse false) frames
  | .after value frames => enclose value frames
  | .surplus value => value
  | .torn value => value

/-- Begin a value. -/
def begin (frames : List Frame) : Token → Parser
  | .null => .after .null frames
  | .bool b => .after (.bool b) frames
  | .number n => .after (.number n) frames
  | .text s => .after (.text s) frames
  | .garbled spent => .after (.garbled spent) frames
  | .spoiled => .after .spoiled frames
  | .openArray => .firstItemDue frames
  | .openObject => .firstNameDue frames
  | _ => .torn (Parser.valueDue frames).abandon

/-- One token.  An array that ends behind a comma has a spoiled item there. -/
def Parser.step : Parser → Token → Parser
  | .valueDue (.items before :: frames), .closeArray =>
    .after (.array (.spoiled :: before).reverse true) frames
  | .valueDue frames, token => begin frames token
  | .firstItemDue frames, .closeArray => .after (.array [] true) frames
  | .firstItemDue frames, token =>
    match begin (.items [] :: frames) token with
    | .torn _ => .torn (Parser.firstItemDue frames).abandon
    | next => next
  | .firstNameDue frames, .closeObject => .after (.object [] true) frames
  | .firstNameDue frames, .text name => .colonDue [] (some name) frames
  | .firstNameDue frames, .garbled _ => .colonDue [] none frames
  | .nameDue before frames, .text name => .colonDue before (some name) frames
  | .nameDue before frames, .garbled _ => .colonDue before none frames
  | .colonDue before name frames, .colon => .valueDue (.members before name :: frames)
  | .after value (.items before :: frames), .comma => .valueDue (.items (value :: before) :: frames)
  | .after value (.items before :: frames), .closeArray =>
    .after (.array (value :: before).reverse true) frames
  | .after value (.members before name :: frames), .comma => .nameDue ((name, value) :: before) frames
  | .after value (.members before name :: frames), .closeObject =>
    .after (.object ((name, value) :: before).reverse true) frames
  | .after value [], _ => .surplus value
  | .surplus value, _ => .surplus value
  | .torn value, _ => .torn value
  | parser, _ => .torn parser.abandon

/-- A text read as JSON: its value, and whether more than blanks stands behind it. -/
structure Document where
  value : Json
  surplus : Bool
  deriving Repr

/-- What the machine holds at the end of the text. -/
def Parser.finish : Parser → Document
  | .surplus value => ⟨value, true⟩
  | parser => ⟨parser.abandon, false⟩

/-- Read a text. -/
def Document.ofBytes (bytes : List UInt8) : Document :=
  ((tokens bytes).foldl Parser.step (.valueDue [])).finish

end PoolRewards.Json
