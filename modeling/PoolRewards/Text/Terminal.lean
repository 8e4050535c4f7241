/-
Control sequences, by which a text tells a terminal how to show it.

A sequence starts at an escape.  What follows says where it ends: a control sequence has
parameters and ends at a letter, a title ends at a bell, and a device string and the like
have a body that ends at a terminator.  A terminal that only prints leaves all of it out.
-/
namespace PoolRewards.Terminal

/-- Where a character stands. -/
inductive Place where
  | plain
  | escape
  | escapeMiddle
  | control
  | device
  | deviceParameters
  | deviceMiddle
  | body
  | title
  deriving DecidableEq, Repr

/-- A text in bold letters. -/
def bold (text : String) : String := "\x1b[1m" ++ text ++ "\x1b[0m"

/-- Whether a character only moves the place at which the next one is printed. -/
def isLayout (c : Char) : Bool := c = '\t' || c = '\n' || c = '\x0c' || c = '\x0d'

/-- Whether a character ends a body.  The terminator may be any of its bytes. -/
def endsBody (c : Char) : Bool := c.toString.toUTF8.toList.contains 0x9c

/-- Where the next character stands after one that can be printed and has one byte. -/
def Place.afterLetter (place : Place) (c : Char) : Place :=
  match place with
  | .plain => .plain
  | .escape =>
    if c < '0' then .escapeMiddle
    else if c = '[' then .control
    else if c = ']' then .title
    else if c = 'P' then .device
    else if c = 'X' || c = '^' || c = '_' then .body
    else .plain
  | .escapeMiddle => if c < '0' then .escapeMiddle else .plain
  | .control => if c < '@' then .control else .plain
  | .device => if c < '0' then .deviceMiddle else if c < '@' then .deviceParameters else .body
  | .deviceParameters => if c < '0' then .deviceMiddle else if c < '<' then .deviceParameters else .body
  | .deviceMiddle => if c < '0' then .deviceMiddle else .body
  | .body => .body
  | .title => .title

/-- Where the next character stands.  An escape starts a new sequence anywhere, and two
characters end any. -/
def Place.after (place : Place) (c : Char) : Place :=
  if c = '\x1b' then .escape
  else if c = '\x18' || c = '\x1a' then .plain
  else if c < ' ' then if c = '\x07' && place = .title then .plain else place
  else if c < '\x7f' then place.afterLetter c
  else if place = .body && endsBody c then .plain
  else place

/-- Whether a character is printed.  Layout is, also inside a sequence that has no body. -/
def Place.prints (place : Place) (c : Char) : Bool :=
  match place with
  | .plain => isLayout c || (' ' ≤ c && c ≠ '\x7f')
  | .escape | .escapeMiddle | .control => isLayout c
  | _ => false

/-- A terminal that only prints. -/
structure Reader where
  /-- Where the next character stands, if the last one was not printed. -/
  place : Place
  /-- Whether the last character was printed.  The next one then stands in plain text. -/
  isPrinting : Bool

/-- The effect of a character, and whether it is printed. -/
def Reader.step (reader : Reader) (c : Char) : Reader × Bool :=
  if (if reader.isPrinting then Place.plain else reader.place).prints c then
    (⟨if c ≤ '\x7f' then reader.place else .plain, true⟩, true)
  else (⟨reader.place.after c, false⟩, false)

/-- What is printed. -/
def printed (reader : Reader) : List Char → List Char
  | [] => []
  | c :: rest =>
    let (reader, isPrinted) := reader.step c
    if isPrinted then c :: printed reader rest else printed reader rest

/-- A text without its control sequences. -/
def withoutControls (text : String) : String := .ofList (printed ⟨.plain, false⟩ text.toList)

end PoolRewards.Terminal
