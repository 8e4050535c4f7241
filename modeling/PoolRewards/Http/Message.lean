/-
Requests and answers as they go over a connection.

Every connection carries one request and one answer, and the server closes it behind the
answer.  So an answer is read from everything that the server has sent: a head of lines, an
empty line and the body, which may be cut into chunks.
-/
import PoolRewards.Amount
import PoolRewards.Http.Transport

namespace PoolRewards.HttpMessage

/-- The end of a line. -/
def lineEnd : String := "\r\n"

/-- The host and port that a URL asks, as a request names them. -/
def hostText (url : Url) : String :=
  ((url.authority.map fun authority => { authority with user := none }).map Url.Authority.toText).getD ""

/-- The lines of a request's head. -/
def head (method : String) (url : Url) (lines : List String) : String :=
  lineEnd.intercalate ([s!"{method} {url.requestTarget} HTTP/1.1", s!"host: {hostText url}", "accept: */*",
    "connection: close"] ++ lines ++ ["", ""])

/-- A request for what is at a URL. -/
def getRequest (url : Url) : String := head "GET" url []

/-- A request that brings a text in JSON. -/
def postRequest (url : Url) (body : String) : String :=
  head "POST" url ["content-type: application/json", s!"content-length: {body.utf8ByteSize}"] ++ body

/-! ### Answers -/

/-- What stands before the first end of a line, and what behind it. -/
def splitLine : List UInt8 → Option (List UInt8 × List UInt8)
  | [] => none
  | 13 :: 10 :: rest => some ([], rest)
  | byte :: rest => (splitLine rest).map fun (line, rest) => (byte :: line, rest)

theorem length_lt_of_splitLine {bytes line rest : List UInt8} (h : splitLine bytes = some (line, rest)) :
    rest.length < bytes.length := by
  induction bytes using splitLine.induct generalizing line with
  | case1 => simp [splitLine] at h
  | case2 tail =>
    simp only [splitLine, Option.some.injEq, Prod.mk.injEq] at h
    rw [← h.2, List.length_cons, List.length_cons]
    omega
  | case3 byte tail hne ih =>
    rw [splitLine] at h
    · obtain ⟨⟨_, _⟩, hs, hp⟩ := Option.map_eq_some_iff.mp h
      cases hp
      have := ih hs
      rw [List.length_cons]
      omega
    · exact hne

/-- The lines of the head, and the body. -/
def splitHead (bytes : List UInt8) : Option (List (List UInt8) × List UInt8) :=
  match _h : splitLine bytes with
  | none => none
  | some ([], rest) => some ([], rest)
  | some (line, rest) => (splitHead rest).map fun (lines, body) => (line :: lines, body)
termination_by bytes.length
decreasing_by exact length_lt_of_splitLine _h

/-- A byte that is a letter, in lower case. -/
def lower (byte : UInt8) : UInt8 := if 65 ≤ byte ∧ byte ≤ 90 then byte + 32 else byte

/-- Bytes without the blanks around them. -/
def trim (bytes : List UInt8) : List UInt8 :=
  let blank (byte : UInt8) : Bool := byte = 32 || byte = 9
  ((bytes.dropWhile blank).reverse.dropWhile blank).reverse

/-- What a line of the head says under a name, if it has that name. -/
def valueUnder? (name : String) (line : List UInt8) : Option (List UInt8) :=
  let label := line.takeWhile (· ≠ 58)
  if label.map lower = name.toUTF8.toList then some (trim (line.drop (label.length + 1))) else none

/-- The number that the digits of a base at the front of some bytes spell. -/
def leadingNumber (base : Nat) (bytes : List UInt8) : Nat :=
  (bytes.map (Amount.digitValue? base)).takeWhile Option.isSome |>.foldl (fun n d => n * base + d.getD 0) 0

/-- The status that the first line of an answer tells. -/
def statusOf? (line : List UInt8) : Option Nat :=
  let version := line.takeWhile (· ≠ 32)
  let digits := ((line.drop (version.length + 1)).takeWhile (· ≠ 32)).map (Amount.digitValue? 10)
  if version.take 5 = "HTTP/".toUTF8.toList && digits.length = 3 && digits.all Option.isSome then
    some (digits.foldl (fun n d => n * 10 + d.getD 0) 0)
  else none

/-- The body that chunks make up.  A chunk of no bytes is the last. -/
def joinChunks (bytes : List UInt8) : Option (List UInt8) :=
  match _h : splitLine bytes with
  | none => none
  | some (line, rest) =>
    let size := leadingNumber 16 line
    if size = 0 then some []
    else if rest.length < size + 2 then none
    else (joinChunks (rest.drop (size + 2))).map (rest.take size ++ ·)
termination_by bytes.length
decreasing_by
  have := length_lt_of_splitLine _h
  simp only [List.length_drop]
  omega

/-- The body of an answer, cut to the length that its head tells. -/
def bodyOf? (lines : List (List UInt8)) (body : List UInt8) : Option (List UInt8) :=
  if (lines.filterMap (valueUnder? "transfer-encoding")).any (·.map lower = "chunked".toUTF8.toList) then
    joinChunks body
  else match (lines.filterMap (valueUnder? "content-length")).head? with
    | some digits =>
      let length := leadingNumber 10 digits
      if body.length < length then none else some (body.take length)
    | none => some body

/-- Read an answer from everything that the server has sent. -/
def readResponse? (bytes : List UInt8) : Option HttpResponse := do
  let (lines, body) ← splitHead bytes
  let status ← statusOf? (← lines.head?)
  return ⟨status, ← bodyOf? lines body⟩

end PoolRewards.HttpMessage
