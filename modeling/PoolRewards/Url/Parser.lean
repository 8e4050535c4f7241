/-
Reading URLs.

The text may have blanks around it.  The web's own schemes always name a host; behind any
other scheme a host follows two slashes, and without a slash there are no segments.  Files
may do without a host.  Dots for this and the upper segment are resolved, and the usual port
of a scheme is left out.
-/
import PoolRewards.Url.Host

namespace PoolRewards.Url

/-! ### Schemes -/

/-- The web's own schemes but that of files, with their usual ports. -/
def webSchemes : List (String × Nat) := [("http", 80), ("https", 443), ("ws", 80), ("wss", 443), ("ftp", 21)]

/-- What the text behind a scheme looks like. -/
inductive SchemeKind where
  | web
  | file
  | other
  deriving DecidableEq, Repr

/-- The kind of a scheme. -/
def kindOf (scheme : String) : SchemeKind :=
  if webSchemes.any (·.1 == scheme) then .web else if scheme = fileScheme then .file else .other

/-- Whether a character separates segments. -/
def SchemeKind.isSlash (kind : SchemeKind) (c : Char) : Bool := c = '/' || (kind ≠ .other && c = '\\')

/-- The scheme in front of a text, and what follows it. -/
def splitScheme (cs : List Char) : Option (String × List Char) :=
  let name := cs.takeWhile fun c => c.isAlphanum || "+-.".contains c
  match name, cs.drop name.length with
  | first :: _, ':' :: rest => if first.isAlpha then some ((String.ofList name).toLower, rest) else none
  | _, _ => none

/-! ### Authorities -/

/-- The port that digits spell, if it is not the usual one. -/
def readPort (scheme : String) (digits : List Char) : Except Fault (Option Nat) :=
  match numberIn? 10 digits with
  | none => .error .invalidPort
  | some port =>
    if 65535 < port then .error .invalidPort
    else if digits.isEmpty || webSchemes.contains (scheme, port) then .ok none
    else .ok (some port)

/-- A name and a password in their normal form.  A password follows the first colon, and an
empty one has none. -/
def readUser (cs : List Char) : Option String :=
  let name := cs.takeWhile (· ≠ ':')
  let password := cs.drop (name.length + 1)
  let text := percentEncode inUser name ++ if password.isEmpty then "" else ":" ++ percentEncode inUser password
  if text.isEmpty then none else some text

/-- What stands before the last `@`, and what behind it. -/
def splitUser (cs : List Char) : Option (List Char) × List Char :=
  let behind := (cs.reverse.takeWhile (· ≠ '@')).reverse
  if behind.length = cs.length then (none, cs)
  else (some (cs.take (cs.length - behind.length - 1)), behind)

/-- The host in front of a text, and what follows it.  A colon inside brackets is part of it. -/
def splitHost (isInside : Bool) : List Char → List Char × List Char
  | [] => ([], [])
  | c :: rest =>
    if c = ':' && !isInside then ([], c :: rest)
    else
      let (host, rest) := splitHost (c = '[' || (isInside && c ≠ ']')) rest
      (c :: host, rest)

/--
Read an authority and what follows it.  A port also ends at a backslash that is no slash.  An
`@` needs something on one of its sides, unless the whole text ends there.
-/
def readAuthority (kind : SchemeKind) (scheme : String) (isLast : Bool) (cs : List Char) :
    Except Fault (Authority × List Char) := do
  let zone := cs.takeWhile (!kind.isSlash ·)
  let beyond := cs.drop zone.length
  let (user, behind) := splitUser zone
  if user = some [] && behind.isEmpty && !(isLast && beyond.isEmpty) then throw .emptyHost
  let user := user.bind readUser
  let (host, colon) := splitHost false behind
  if host.isEmpty && (kind = .web || user.isSome || !colon.isEmpty) then throw .emptyHost
  let host ← if kind = .web then readWebHost host else readOtherHost host
  let digits := (colon.drop 1).takeWhile (· ≠ '\\')
  return (⟨user, host, ← readPort scheme digits⟩, colon.drop (digits.length + 1) ++ beyond)

/-! ### Paths -/

/-- Whether a double dot stays below a segment, as it looks like a drive. -/
def staysBelow (segment : String) : Bool :=
  isDrive [':', '|'] (String.ofList (segment.toList.takeWhile (· ≠ '\\')))

/-- Segments after one more.  A single dot stays where it is and a double one goes up. -/
def addSegment (segments : List String) (segment : String) : List String :=
  let plain := segment.toLower.replace "%2e" "."
  if plain = ".." then if segments.getLast?.any staysBelow then segments else segments.dropLast
  else if plain = "." then segments
  else segments ++ [segment]

/-- Segments of a file after one more.  A drive at the front has the usual mark. -/
def addFileSegment (segments : List String) (segment : String) : List String :=
  if segments.isEmpty && isDrive [':', '|'] segment then [segment.replace "|" ":"]
  else addSegment segments segment

/-- The segments of a path.  A path that ends with a dot segment ends with a slash. -/
def readSegments (add : List String → String → List String) (parts : List (List Char)) : List String :=
  let texts := parts.map (percentEncode inPath)
  let segments := texts.foldl add []
  match texts.getLast? with
  | some last => if addSegment [] last = [last] then segments else segments ++ [""]
  | none => segments

/-- A path cut at its slashes. -/
def cut (kind : SchemeKind) : List Char → List (List Char)
  | [] => [[]]
  | c :: rest =>
    if kind.isSlash c then [] :: cut kind rest
    else match cut kind rest with
      | part :: parts => (c :: part) :: parts
      | [] => [[c]]

/-- The parts of a path, which may begin with a slash. -/
def parts (kind : SchemeKind) : List Char → List (List Char)
  | [] => cut kind []
  | c :: rest => cut kind (if kind.isSlash c then rest else c :: rest)

/-- The segments of a path.  Nothing has no segments, or an empty one for the web. -/
def readPath (kind : SchemeKind) (cs : List Char) : List String :=
  if cs.isEmpty && kind = .other then [] else readSegments addSegment (parts kind cs)

/-! ### Kinds of URLs -/

/-- Read an authority and a path. -/
def readHosted (kind : SchemeKind) (scheme : String) (isLast : Bool) (cs : List Char) :
    Except Fault (Option Authority × Path) := do
  let (authority, rest) ← readAuthority kind scheme isLast cs
  return (some authority, .list (readPath kind rest))

/-- No host, and nobody who asks it. -/
def nobody : Authority := ⟨none, .name "", none⟩

/-- The host of a file, if the text in its place is one and not a drive, and the path behind it. -/
def readFileHost (cs : List Char) : Except Fault (Authority × List Char) :=
  let host := cs.takeWhile (!SchemeKind.isSlash .file ·)
  if host.isEmpty || isDrive [':', '|'] (String.ofList host) then .ok (nobody, cs)
  else do
    let found ← readWebHost host
    return (if found = .name "localhost" then nobody else ⟨none, found, none⟩, cs.drop host.length)

/-- Read the path of a file, with its host behind two slashes.  No host has a drive, and there
are no empty segments at the front of a path. -/
def readFile (cs : List Char) : Except Fault (Option Authority × Path) := do
  let (authority, rest) ← match cs with
    | first :: second :: rest =>
      if SchemeKind.isSlash .file first && SchemeKind.isSlash .file second then readFileHost rest
      else pure (nobody, cs)
    | _ => pure (nobody, cs)
  let segments := readSegments addFileSegment (parts .file rest)
  let authority := if segments.head?.any (isDrive [':']) then nobody else authority
  let kept := segments.dropWhile String.isEmpty
  return (some authority, .list (if kept.isEmpty then [""] else kept))

/-! ### Whole URLs -/

/-- The query and the fragment behind a path. -/
def splitEnd (cs : List Char) : List Char × Option (List Char) × Option (List Char) :=
  let before := cs.takeWhile (· ≠ '#')
  let fragment := (cs.drop before.length).tail?
  let path := before.takeWhile (· ≠ '?')
  (path, (before.drop path.length).tail?, fragment)

/-- A text without the blanks around it, and without line ends and tabs inside. -/
def tidy (cs : List Char) : List Char :=
  let blank (c : Char) : Bool := c.toNat ≤ 32
  ((cs.dropWhile blank).reverse.dropWhile blank).reverse.filter fun c => c ≠ '\t' && c ≠ '\n' && c ≠ '\x0d'

/-- Read a URL. -/
def ofText (text : String) : Except Fault Url := do
  let some (scheme, rest) := splitScheme (tidy text.toList) | throw .relativeWithoutBase
  let (body, query, fragment) := splitEnd rest
  let isLast := query.isNone && fragment.isNone
  let kind := kindOf scheme
  let (authority, path) ← match kind, body with
    | .web, _ => readHosted kind scheme isLast (body.dropWhile kind.isSlash)
    | .file, _ => readFile body
    | .other, '/' :: '/' :: rest => readHosted kind scheme isLast rest
    | .other, '/' :: _ => pure (none, .list (readPath kind body))
    | .other, _ => pure (none, .fixed (percentEncode isControl body))
  return ⟨scheme, authority, path, query.map (percentEncode (inQuery (kind ≠ .other))),
    fragment.map (percentEncode inFragment)⟩

end PoolRewards.Url
