/-
The ledger of an interval: what is owed to each node and on each network.

A node's network is settled by its first credit: the network asked for if rewards may be
claimed there, and network zero otherwise, in which case the request is kept on record.
Every credit goes to the node and, in the same bucket, to the node's network.
-/
import PoolRewards.Amount
import PoolRewards.Octets
import PoolRewards.Failure
import Std.Data.ExtTreeMap
import Std.Data.ExtTreeSet

namespace PoolRewards

open Std (ExtTreeMap ExtTreeSet)

/-- The network on which every node can claim. -/
def defaultNetwork : UInt64 := 0

/-- What a credit is for. -/
inductive Bucket where
  | collateralRpl
  | oracleDaoRpl
  | smoothingPoolEth
  deriving DecidableEq, Repr

/-- An amount for each bucket. -/
structure Rewards where
  collateralRpl : Amount
  oracleDaoRpl : Amount
  smoothingPoolEth : Amount
  deriving DecidableEq, Repr

namespace Rewards

/-- Nothing in any bucket. -/
def none : Rewards := ⟨0, 0, 0⟩

/-- The amount in a bucket. -/
def get (rewards : Rewards) : Bucket → Amount
  | .collateralRpl => rewards.collateralRpl
  | .oracleDaoRpl => rewards.oracleDaoRpl
  | .smoothingPoolEth => rewards.smoothingPoolEth

/-- The amounts after one more credit. -/
def add (rewards : Rewards) (amount : Amount) : Bucket → Rewards
  | .collateralRpl => { rewards with collateralRpl := rewards.collateralRpl + amount }
  | .oracleDaoRpl => { rewards with oracleDaoRpl := rewards.oracleDaoRpl + amount }
  | .smoothingPoolEth => { rewards with smoothingPoolEth := rewards.smoothingPoolEth + amount }

/-- All RPL. -/
def totalRpl (rewards : Rewards) : Amount := rewards.collateralRpl + rewards.oracleDaoRpl

theorem get_none (bucket : Bucket) : Rewards.none.get bucket = 0 := by cases bucket <;> rfl

theorem get_add (rewards : Rewards) (amount : Amount) (b c : Bucket) :
    (rewards.add amount b).get c = if b = c then rewards.get c + amount else rewards.get c := by
  cases b <;> cases c <;> rfl

end Rewards

/-- What a node is owed, and where it claims. -/
structure NodeAccount where
  network : UInt64
  rewards : Rewards
  deriving DecidableEq, Repr

/-- The ledger. -/
structure Ledger where
  nodes : ExtTreeMap Address NodeAccount
  networks : ExtTreeMap UInt64 Rewards
  /-- Nodes whose network is not enabled, with the network they asked for. -/
  invalid : ExtTreeMap Address UInt64
  enabled : ExtTreeSet UInt64
  deriving DecidableEq

namespace Ledger

/-- An empty ledger.  The default network is always enabled. -/
def new (enabled : ExtTreeSet UInt64) : Ledger := ⟨∅, ∅, ∅, enabled.insert defaultNetwork⟩

/-- Whether rewards may be claimed on a network. -/
def isEnabled (ledger : Ledger) (network : UInt64) : Bool := ledger.enabled.contains network

/-- The network that a credit to a node goes to. -/
def networkFor (ledger : Ledger) (node : Address) (requested : UInt64) : UInt64 :=
  match ledger.nodes[node]? with
  | some account => account.network
  | none => if ledger.isEnabled requested then requested else defaultNetwork

/-- Whether a credit is a node's first one and asks for a network that is not enabled. -/
def isRemapped (ledger : Ledger) (node : Address) (requested : UInt64) : Bool :=
  !ledger.nodes.contains node && !ledger.isEnabled requested

/-- Credit a node. -/
def credit (ledger : Ledger) (node : Address) (requested : UInt64) (bucket : Bucket) (amount : Amount) :
    Ledger :=
  let network := ledger.networkFor node requested
  { ledger with
    nodes := ledger.nodes.alter node fun account =>
      let account := account.getD ⟨network, .none⟩
      some { account with rewards := account.rewards.add amount bucket }
    networks := ledger.networks.alter network fun rewards =>
      some ((rewards.getD .none).add amount bucket)
    invalid := if ledger.isRemapped node requested then ledger.invalid.insert node requested else ledger.invalid }

/-- A credit to be made. -/
structure Credit where
  node : Address
  network : UInt64
  bucket : Bucket
  amount : Amount
  deriving DecidableEq, Repr

/-- Make credits in order. -/
def creditAll (ledger : Ledger) (credits : List Credit) : Ledger :=
  credits.foldl (fun ledger c => ledger.credit c.node c.network c.bucket c.amount) ledger

/-- The sum of a bucket over all networks. -/
def total (ledger : Ledger) (bucket : Bucket) : Amount :=
  Amount.sum (ledger.networks.toList.map fun entry => entry.2.get bucket)

end Ledger

/--
Check that a total is within `tolerance` of what it should be.  The answer is how far it
is away.
-/
def reconcile (bucket : String) (calculated expected tolerance : Amount) : Except GenerationError Amount :=
  let delta := Amount.distance calculated expected
  if delta ≤ tolerance then .ok delta
  else .error (.overrun bucket calculated expected delta tolerance)

end PoolRewards
