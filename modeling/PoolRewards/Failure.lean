/-
How a computation of rewards can fail.

Three things are kept apart: what a collaborator says when a lookup fails, what is wrong
with the rewards being computed, and a fault of arithmetic, which ends the whole program.
-/
import PoolRewards.Address
import PoolRewards.Amount

namespace PoolRewards

/-- What a collaborator says when a lookup fails: the outermost message, then its causes. -/
structure ClientError where
  message : String
  causes : List String
  deriving DecidableEq, Repr

namespace ClientError

/-- A failure without a cause. -/
def of (message : String) : ClientError := ⟨message, []⟩

/-- The failure as the cause of another message. -/
def under (error : ClientError) (message : String) : ClientError :=
  ⟨message, error.message :: error.causes⟩

/-- The message and all causes. -/
def chain (error : ClientError) : String := ": ".intercalate (error.message :: error.causes)

end ClientError

/-- Why rewards cannot be computed or kept. -/
inductive GenerationError where
  /-- The chain does not have the block that the previous interval ended with. -/
  | blockUnavailable (slot : UInt64)
  | noPendingRewards
  /-- A total is too far from the sum of its parts. -/
  | overrun (bucket : String) (calculated expected delta tolerance : Amount)
  | missingPreviousInterval (index : UInt64)
  | intervalStartNotFound (first last : UInt64)
  | merkleTree (reason : String)
  | unsupportedVersion (version : UInt64)
  | encoding (reason : String)
  /-- A lookup failed. -/
  | client (context : String) (cause : ClientError)
  deriving DecidableEq, Repr

namespace GenerationError

/-- The wording of a failure. -/
def message : GenerationError → String
  | .blockUnavailable slot =>
    s!"couldn't retrieve CL block from previous interval (slot {slot}); this likely means the " ++
      "beacon node was checkpoint synced and has not backfilled to the previous interval yet, so " ++
      "it cannot be used for tree generation"
  | .noPendingRewards =>
    "there are no pending RPL rewards, so this interval cannot be used for rewards submission"
  | .overrun bucket calculated expected delta tolerance =>
    s!"error calculating {bucket}: total was {calculated.toText}, but expected {expected.toText}; " ++
      s!"error was too large ({delta.toText} > {tolerance.toText})"
  | .missingPreviousInterval index =>
    s!"no rewards event provided for interval {index}, which is required for its start bounds"
  | .intervalStartNotFound first last =>
    s!"no non-empty consensus slot between interval start {first} and end {last}"
  | .merkleTree reason => s!"error generating Merkle tree: {reason}"
  | .unsupportedVersion version => s!"unsupported rewards file version {version}"
  | .encoding reason => s!"error encoding rewards artifact: {reason}"
  | .client context cause => s!"{context}: {cause.chain}"

/-- Whether the same computation may succeed later.  Only a failed lookup is not final. -/
def isRetryable : GenerationError → Bool
  | .client _ _ => true
  | _ => false

end GenerationError

/-- Why a computation stopped. -/
inductive Halt where
  | fault (fault : Fault)
  | error (error : GenerationError)
  deriving DecidableEq, Repr

namespace Halt

/-- A step of arithmetic inside a computation. -/
def ofArithmetic {α : Type} (result : Except Fault α) : Except Halt α := result.mapError .fault

/-- The answer of a lookup inside a computation, with what it was for. -/
def ofLookup {α : Type} (context : String) (result : Except ClientError α) : Except Halt α :=
  result.mapError fun cause => .error (.client context cause)

variable {m : Type → Type} [Monad m]

/-- Do a step of arithmetic. -/
def arithmetic {α : Type} (result : Except Fault α) : ExceptT Halt m α := .mk (pure (ofArithmetic result))

theorem arithmetic_ok_bind [LawfulMonad m] {α β : Type} (a : α) (f : α → ExceptT Halt m β) :
    arithmetic (.ok a) >>= f = f a := by
  refine ExceptT.ext ?_
  rw [ExceptT.run_bind]
  exact pure_bind _ _

theorem arithmetic_error_bind [LawfulMonad m] {α β : Type} (fault : Fault) (f : α → ExceptT Halt m β) :
    arithmetic (.error fault) >>= f = throw (.fault fault) := by
  refine ExceptT.ext ?_
  rw [ExceptT.run_bind]
  exact pure_bind _ _

/-- Do a step that can fail for good. -/
def check {α : Type} (result : Except GenerationError α) : ExceptT Halt m α :=
  .mk (pure (result.mapError .error))

/-- Do a lookup. -/
def lookup {α : Type} (context : String) (ask : m (Except ClientError α)) : ExceptT Halt m α :=
  .mk (ofLookup context <$> ask)

end Halt

end PoolRewards
