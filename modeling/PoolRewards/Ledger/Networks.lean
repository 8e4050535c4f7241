/-
Which networks a snapshot's credits can ask for, and which of them are enabled.
-/
import PoolRewards.Ledger.Basic
import PoolRewards.Client

namespace PoolRewards

open Std (ExtTreeSet)

namespace Snapshot

/-- Whether a node can be credited at all: for collateral, as an oracle member, or for a minipool at work. -/
def isCreditable (snapshot : Snapshot) (node : NodeDetails) : Bool :=
  (node.effectiveStake != 0 && node.weight != 0)
    || snapshot.oracleMembers.any (·.address == node.address)
    || snapshot.minipools.any fun minipool => minipool.isStaking && minipool.node == node.address

/-- The networks that credits can ask for, other than the default one. -/
def creditableNetworks (snapshot : Snapshot) : ExtTreeSet UInt64 :=
  snapshot.nodes.foldl (fun found node =>
    if snapshot.isCreditable node && node.rewardNetwork != defaultNetwork then
      found.insert node.rewardNetwork
    else found) ∅

end Snapshot

variable {m : Type → Type} [Monad m]

/-- Ask about networks in order, up to the first lookup that fails. -/
def askNetworks (client : ExecutionClient m) (block : UInt64) :
    List UInt64 → ExceptT Halt m (ExtTreeSet UInt64)
  | [] => pure ∅
  | network :: rest => do
    let enabled ← Halt.lookup s!"error checking reward network {network}" (client.isEnabled network block)
    let others ← askNetworks client block rest
    return if enabled then others.insert network else others

/-- The networks on which the snapshot's nodes can claim.  The default network is one of them. -/
def enabledNetworks (client : ExecutionClient m) (snapshot : Snapshot) (block : UInt64) :
    ExceptT Halt m (ExtTreeSet UInt64) := do
  let found ← askNetworks client block snapshot.creditableNetworks.toList
  return found.insert defaultNetwork

end PoolRewards
