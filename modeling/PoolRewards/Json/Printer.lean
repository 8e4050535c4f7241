/-
Writing JSON.

The pretty form indents by two blanks and puts every item and member on a line of its own;
an empty array or object stays on one line.  The compact form has no blanks.  In a text
only the quote, the backslash and the control characters below the blank are escaped.

A value that is garbled, spoiled or torn has no text of its own and is written as `null`;
nothing that this library builds is.
-/
import PoolRewards.Json.Basic

namespace PoolRewards.Json

/-- A character inside a text. -/
def escapeChar (c : Char) : List Char :=
  if c = '"' then ['\\', '"']
  else if c = '\\' then ['\\', '\\']
  else if c.toNat = 8 then ['\\', 'b']
  else if c.toNat = 9 then ['\\', 't']
  else if c.toNat = 10 then ['\\', 'n']
  else if c.toNat = 12 then ['\\', 'f']
  else if c.toNat = 13 then ['\\', 'r']
  else if c.toNat < 32 then
    ['\\', 'u', '0', '0', Nat.digitChar (c.toNat / 16), Nat.digitChar (c.toNat % 16)]
  else [c]

/-- A text in quotes. -/
def quote (s : String) : String := "\"" ++ String.ofList (s.toList.flatMap escapeChar) ++ "\""

/-- The text of a value that holds no others. -/
def scalarText : Json → String
  | .bool true => "true"
  | .bool false => "false"
  | .number (.natural n) => toString n.toNat
  | .number (.negative n) => "-" ++ toString n
  | .text s => quote s
  | _ => "null"

/-- Blanks at the front of a line. -/
def indentation (width : Nat) : String := String.ofList (List.replicate width ' ')

mutual

/-- A value on lines of its own, the inner ones indented by `indent` and more. -/
def prettyFrom (indent : Nat) : Json → String
  | .array [] _ => "[]"
  | .array items _ =>
    "[\n" ++ prettyItems (indent + 2) items ++ "\n" ++ indentation indent ++ "]"
  | .object [] _ => "\x7b\x7d"
  | .object members _ =>
    "\x7b\n" ++ prettyMembers (indent + 2) members ++ "\n" ++ indentation indent ++ "\x7d"
  | value => scalarText value

/-- Items, a line each. -/
def prettyItems (indent : Nat) : List Json → String
  | [] => ""
  | item :: rest =>
    indentation indent ++ prettyFrom indent item ++
      (if rest.isEmpty then "" else ",\n") ++ prettyItems indent rest

/-- Members, a line each. -/
def prettyMembers (indent : Nat) : List (Option String × Json) → String
  | [] => ""
  | (name, value) :: rest =>
    indentation indent ++ quote (name.getD "") ++ ": " ++ prettyFrom indent value ++
      (if rest.isEmpty then "" else ",\n") ++ prettyMembers indent rest

end

/-- The pretty form. -/
def pretty (value : Json) : String := prettyFrom 0 value

mutual

/-- The compact form. -/
def compact : Json → String
  | .array items _ => "[" ++ compactItems items ++ "]"
  | .object members _ => "\x7b" ++ compactMembers members ++ "\x7d"
  | value => scalarText value

/-- Items behind commas. -/
def compactItems : List Json → String
  | [] => ""
  | item :: rest => compact item ++ (if rest.isEmpty then "" else ",") ++ compactItems rest

/-- Members behind commas. -/
def compactMembers : List (Option String × Json) → String
  | [] => ""
  | (name, value) :: rest =>
    quote (name.getD "") ++ ":" ++ compact value ++
      (if rest.isEmpty then "" else ",") ++ compactMembers rest

end

end PoolRewards.Json
