/-
Remote calls in JSON: a request names a method and its parameters, and the answer holds a
result or an error.
-/
import PoolRewards.Client
import PoolRewards.Http.Transport
import PoolRewards.Json.Decoder
import PoolRewards.Json.Printer

namespace PoolRewards.Rpc

/-- Why a call has no result. -/
inductive Failure where
  | connection (cause : String)
  | status (number : Nat) (body : String)
  /-- The node reports an error, with its code and data as they stand in the answer. -/
  | refused (code message : String) (data : Option String)
  | malformed (cause : String)
  deriving DecidableEq, Repr

/-- The wording of a failure. -/
def Failure.message : Failure → String
  | .connection cause => cause
  | .status number body =>
    if body.isEmpty then s!"HTTP error {number} with empty body" else s!"HTTP error {number} with body: {body}"
  | .refused code message data =>
    s!"server returned an error response: error code {code}: {message}" ++
      match data with
      | some text => s!", data: {text}"
      | none => ""
  | .malformed cause => s!"deserialization error: {cause}"

/-- A failure as a collaborator tells it. -/
def Failure.toClientError (failure : Failure) : ClientError := .of failure.message

/-- The text of a call. -/
def request (method : String) (params : List Json) : String :=
  Json.compact (.ofMembers [
    ("method", .ofString method), ("params", .ofList params), ("id", .ofWord 0), ("jsonrpc", .ofString "2.0")])

/-- The result in the text of an answer. -/
def readBody {α : Type} (decode : Json.Decoder α) (body : List UInt8) : Except Failure α :=
  let document := Json.Document.ofBytes body
  if document.surplus || !document.value.isWhole then .error (.malformed Json.Fault.malformed.message)
  else match document.value.get? "error", document.value.get? "result" with
    | some error, _ =>
      match error.get? "message" with
      | some (.text message) =>
        .error (.refused (((error.get? "code").map Json.compact).getD "0") message
          ((error.get? "data").map Json.compact))
      | _ => .error (.malformed "no message")
    | none, some result => (decode .settled result).mapError fun fault => .malformed fault.message
    | none, none => .error (.malformed "no result")

/-- The result in an answer. -/
def readAnswer {α : Type} (decode : Json.Decoder α) (answer : Except String HttpResponse) : Except Failure α :=
  match answer with
  | .error cause => .error (.connection cause)
  | .ok response =>
    if response.isSuccess then readBody decode response.body
    else .error (.status response.status ((String.fromUTF8? ⟨response.body.toArray⟩).getD ""))

variable {m : Type → Type} [Monad m]

/-- Call a method. -/
def call {α : Type} (transport : Transport m) (url : Url) (method : String) (params : List Json)
    (decode : Json.Decoder α) : ExceptT Failure m α :=
  .mk (readAnswer decode <$> transport.post url (request method params))

/-! ### Values -/

/-- A word as a parameter. -/
def quantity (n : UInt64) : Json := .ofString ("0x" ++ String.ofList (Nat.toDigits 16 n.toNat))

/-- Bytes as a parameter. -/
def bytes (bs : List UInt8) : Json := .ofString ("0x" ++ Hex.encode bs)

/-- A word in a result. -/
def quantityDecoder : Json.Decoder UInt64 := fun source json => do
  let value ← Json.Decoder.amount source json
  if value.toNat < UInt64.size then .ok (UInt64.ofNat value.toNat)
  else .error (.custom Amount.TextFault.tooLarge.message)

/-- Bytes in a result. -/
def bytesDecoder : Json.Decoder (List UInt8) := fun source json => do
  let text ← Json.Decoder.string source json
  (Hex.decode (Hex.dropMark text.toUTF8.toList)).mapError fun fault => .custom fault.message

end PoolRewards.Rpc
