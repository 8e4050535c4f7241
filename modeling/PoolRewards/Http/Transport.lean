/-
Asking a server: a request is answered with a status and a body, or there is no answer.
-/
import PoolRewards.Url.Basic

namespace PoolRewards

/-- An answer. -/
structure HttpResponse where
  status : Nat
  body : List UInt8
  deriving DecidableEq, Repr

namespace HttpResponse

/-- Whether the server says that there is no such thing. -/
def isNotFound (response : HttpResponse) : Bool := response.status = 404

/-- Whether the server refuses the request or fails. -/
def isFailure (response : HttpResponse) : Bool := 400 ≤ response.status && response.status < 600

/-- Whether the server has done what was asked for. -/
def isSuccess (response : HttpResponse) : Bool := 200 ≤ response.status && response.status < 300

end HttpResponse

/-- A way to ask servers.  Where there is no answer, the reason is told. -/
structure Transport (m : Type → Type) where
  get : Url → m (Except String HttpResponse)
  post : Url → (body : String) → m (Except String HttpResponse)

end PoolRewards
