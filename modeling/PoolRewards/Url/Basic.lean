/-
URLs.

A URL has a scheme and a path.  The path is a list of segments, unless nothing in front of
it says where it starts, in which case it is kept as it is and nothing can be told relative
to it.
-/
import PoolRewards.Url.Address

namespace PoolRewards

/-- A host. -/
inductive Url.Host where
  | name (text : String)
  | short (address : UInt32)
  | long (pieces : List UInt16)
  deriving DecidableEq, Repr

/-- Who is asked. -/
structure Url.Authority where
  /-- A name and a password, as they stand before the `@`. -/
  user : Option String
  host : Url.Host
  /-- The port, if it is not the usual one of the scheme. -/
  port : Option Nat
  deriving DecidableEq, Repr

/-- The path of a URL. -/
inductive Url.Path where
  | list (segments : List String)
  | fixed (text : String)
  deriving DecidableEq, Repr

/-- A URL.  All its parts are in their normal form, with every odd character percent-encoded. -/
structure Url where
  scheme : String
  authority : Option Url.Authority
  path : Url.Path
  query : Option String
  fragment : Option String
  deriving DecidableEq, Repr

namespace Url

/-- Why there is no such URL. -/
inductive Fault where
  | relativeWithoutBase
  | emptyHost
  | invalidPort
  | invalidShortAddress
  | invalidLongAddress
  | invalidHostCharacter
  | invalidName
  /-- Nothing can be told relative to a URL without segments. -/
  | noSegments
  deriving DecidableEq, Repr

/-- The wording of a fault. -/
def Fault.message : Fault → String
  | .relativeWithoutBase => "relative URL without a base"
  | .emptyHost => "empty host"
  | .invalidPort => "invalid port number"
  | .invalidShortAddress => "invalid IPv4 address"
  | .invalidLongAddress => "invalid IPv6 address"
  | .invalidHostCharacter => "invalid domain character"
  | .invalidName => "invalid international domain name"
  | .noSegments => "relative URL with a cannot-be-a-base base"

/-! ### Text -/

/-- The text of a host. -/
def Host.toText : Host → String
  | .name text => text
  | .short address => shortText address
  | .long pieces => "[" ++ longText pieces ++ "]"

/-- The text of an authority. -/
def Authority.toText (authority : Authority) : String :=
  (match authority.user with
    | some user => user ++ "@"
    | none => "") ++
  authority.host.toText ++
  match authority.port with
    | some port => ":" ++ toString port
    | none => ""

/-- The text of a path. -/
def Path.toText : Path → String
  | .list segments => String.join (segments.map ("/" ++ ·))
  | .fixed text => text

/-- What stands behind a mark, if anything does. -/
def marked (mark : String) : Option String → String
  | some text => mark ++ text
  | none => ""

/-- What stands before a path.  Two slashes at its front are kept apart from the scheme, as
they would be read as those before an authority. -/
def front (url : Url) : String :=
  match url.authority with
  | some authority => "//" ++ authority.toText
  | none => if url.path.toText.startsWith "//" then "/." else ""

/-- The text of a URL. -/
def toText (url : Url) : String :=
  url.scheme ++ ":" ++ url.front ++ url.path.toText ++ marked "?" url.query ++ marked "#" url.fragment

/-- Path and query, as a request for the URL names them. -/
def requestTarget (url : Url) : String := url.path.toText ++ marked "?" url.query

/-! ### Relative to another -/

/-- The scheme of files, in which a path may start with a drive. -/
def fileScheme : String := "file"

/-- Whether a segment names a drive: a letter, and one of the given marks behind it. -/
def isDrive (marks : List Char) (segment : String) : Bool :=
  match segment.toList with
  | [letter, mark] => letter.isAlpha && marks.contains mark
  | _ => false

/--
Segments with others in place of the last one.  The drive of a file stays: the others go
below it if it is all there is, and onto it if it is not.
-/
def replaceLast (scheme : String) (segments others : List String) : List String :=
  match segments.getLast? with
  | some last =>
    if scheme = fileScheme && isDrive [':'] last then
      match segments.dropLast, others with
      | [], _ => segments ++ others
      | front, other :: rest => front ++ (last ++ other) :: rest
      | _, [] => segments
    else segments.dropLast ++ others
  | none => others

/--
The URL of something below another one: what stands behind the last slash of its path, its
query and its fragment give way.
-/
def below (url : Url) (segments : List String) (query : Option String) : Except Fault Url :=
  match url.path with
  | .list old => .ok { url with path := .list (replaceLast url.scheme old segments), query, fragment := none }
  | .fixed _ => .error .noSegments

end Url

end PoolRewards
