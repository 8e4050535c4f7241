/-
Host names in ASCII.

A host name is a list of labels with dots between them.  It is read character by character
and put into its composed form.  A label beyond ASCII is written as `xn--` and what stands
for it in small letters, digits and hyphens, and one that is already written so must be
written as it would be here.  Labels that can be misread are refused: those that begin with
a mark, those that hide a joiner where nothing is joined, and those that are read from both
directions at once.
-/
import PoolRewards.HostName.Mapping
import PoolRewards.HostName.Punycode
import PoolRewards.Text.Composition
import PoolRewards.Text.Direction
import PoolRewards.Text.Joining

namespace PoolRewards.HostName

open Text (isMark isTransparent joinsAfter joinsBefore combiningClass vowelKiller composed direction)

/-- A label as it is read, and as it is written in ASCII. -/
structure Label where
  text : List Char
  ascii : List Char
  deriving DecidableEq, Repr

/-! ### What a label may hold -/

/-- Whether a character is an ASCII one. -/
def isAscii (c : Char) : Bool := c.toNat < 128

/-- Whether a joiner may stand between what is before it, the nearest character first, and what
is behind it. -/
def fits (c : Char) (before behind : List Char) : Bool :=
  (before.head?.any fun last => combiningClass last = vowelKiller) ||
    (c = nonJoiner && ((before.dropWhile isTransparent).head?.any joinsAfter)
      && ((behind.dropWhile isTransparent).head?.any joinsBefore))

/-- Whether each joiner behind some characters stands where it may. -/
def joinersFit (before : List Char) : List Char → Bool
  | [] => true
  | c :: rest => ((c ≠ joiner && c ≠ nonJoiner) || fits c before rest) && joinersFit (c :: before) rest

/-- Whether the text of a label is one that can be read. -/
def isReadable (text : List Char) : Bool := !(text.head?.any isMark) && joinersFit [] text

/-! ### Directions -/

/-- Whether a label has something that is read from the right. -/
def isTwoWay (label : Label) : Bool :=
  label.text.any fun c => direction c = .right || direction c = .arabicNumber

/-- Whether a label is read in one direction.  Its first character says which, its last one
but for marks agrees, and nothing between them goes the other way. -/
def hasDirection (label : Label) : Bool :=
  let directions := label.text.map direction
  let last := (directions.reverse.dropWhile (· = .mark)).head?
  match directions.head? with
  | none => true
  | some .right =>
    directions.all (· ≠ .left) && (last = some .right || last = some .europeanNumber || last = some .arabicNumber)
      && !(directions.contains .europeanNumber && directions.contains .arabicNumber)
  | some .left =>
    directions.all (fun d => d ≠ .right && d ≠ .arabicNumber) && (last = some .left || last = some .europeanNumber)
  | some _ => false

/-! ### Labels -/

/-- What stands in front of a label that is written in ASCII. -/
def mark : List Char := ['x', 'n', '-', '-']

/-- The label that is written in ASCII, without its mark. -/
def coded? (ascii : List Char) : Option Label := do
  let text ← Punycode.decode ascii
  if text.all (fun c => reading c = some [c]) && composed text = text && !text.all isAscii
      && !mark.isPrefixOf text && isReadable text then
    return ⟨text, mark ++ ascii⟩
  else none

/-- The label of a text, whose characters are read and composed. -/
def label? (text : List Char) : Option Label :=
  if mark.isPrefixOf text then
    if text.all isAscii then coded? (text.drop mark.length) else none
  else if text.all isAscii then some ⟨text, text⟩
  else if isReadable text then some ⟨text, mark ++ Punycode.encode text⟩
  else none

/-- A text cut at its dots. -/
def cutAtDots : List Char → List (List Char)
  | [] => [[]]
  | c :: rest =>
    match cutAtDots rest with
    | label :: labels => if c = '.' then [] :: label :: labels else (c :: label) :: labels
    | [] => [[c]]

/-- A host name in ASCII. -/
def toAscii? (name : List Char) : Option (List Char) := do
  let text := composed (← name.mapM reading).flatten
  if text.any isDenied then none
  else
    let labels ← (cutAtDots text).mapM label?
    if labels.any isTwoWay && !labels.all hasDirection then none
    else return List.intercalate ['.'] (labels.map (·.ascii))

end PoolRewards.HostName
