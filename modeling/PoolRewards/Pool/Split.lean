/-
The split of the smoothing pool's ether.

Node operators get the part that their average score stands for, shared out by score; a
minipool without duties gets nothing.  The pool's stakers get what is left, so that the
two always add up to the balance.
-/
import PoolRewards.Duties.Tracker
import PoolRewards.Ledger.Basic
import PoolRewards.Artifact.Basic

namespace PoolRewards

/-- The split of the balance. -/
structure EthAllocation where
  /-- What the minipools leave. -/
  poolStakers : Amount
  nodeOperators : Amount
  deriving DecidableEq, Repr

/-! ### Estimates -/

/-- Whether a node counts for an estimate as of a time. -/
def PoolNode.isCurrent (node : PoolNode) (time : UInt64) : Bool :=
  node.eligible && node.optedIn && node.joined < time

/-- A minipool with one more attestation, as of a time, that nobody has seen. -/
def PoolMinipool.attestUnseen (minipool : PoolMinipool) (time : UInt64) : PoolMinipool :=
  { minipool with
    completed := minipool.completed.insert 0
    score := minipool.score + minipool.bond.scoreAt time }

/-- A node whose minipools all have one more attestation, if it counts. -/
def PoolNode.attestUnseen (node : PoolNode) (time : UInt64) : PoolNode :=
  if node.isCurrent time then { node with minipools := node.minipools.map (·.attestUnseen time) }
  else node

/-- What the attestations that nobody has seen add up to. -/
def unseenTotals (nodes : Array PoolNode) (time : UInt64) : AttestationTotals :=
  let scores := (nodes.toList.filter (·.isCurrent time)).flatMap fun node =>
    node.minipools.toList.map fun minipool => minipool.bond.scoreAt time
  ⟨Amount.sum scores, UInt64.ofNat scores.length⟩

/-- Give every minipool that counts one attestation, as of a time, without asking the chain. -/
def attestUnseen (nodes : Array PoolNode) (time : UInt64) : Array PoolNode × AttestationTotals :=
  (nodes.map (·.attestUnseen time), unseenTotals nodes time)

/-! ### Shares -/

/-- Whether a minipool earns anything. -/
def PoolMinipool.earns (minipool : PoolMinipool) : Bool := minipool.hadDuties && minipool.wasActive

/-- A minipool with its share of what all minipools get. -/
def PoolMinipool.withShare (minipool : PoolMinipool) (pot totalScore : Amount) : PoolMinipool :=
  if minipool.earns then { minipool with share := pot * minipool.score / totalScore }
  else { minipool with wasActive := false, share := 0 }

/-- A node with the shares of its minipools, if it takes part. -/
def PoolNode.withShares (node : PoolNode) (pot totalScore : Amount) : PoolNode :=
  if node.eligible then
    let minipools := node.minipools.map (·.withShare pot totalScore)
    { node with minipools, eth := Amount.sum (minipools.toList.map (·.share)) }
  else { node with eth := 0 }

/-- What the minipools get together, before rounding. -/
def operatorPot (balance : Amount) (totals : AttestationTotals) : Amount :=
  balance * totals.score / Amount.ofWord totals.successful / Amount.oneEther

/--
Share out a balance.  The nodes are what they are afterwards, also if the shares do not
add up closely enough.
-/
def splitBalance (nodes : Array PoolNode) (balance : Amount) (totals : AttestationTotals)
    (tolerance : Amount) : Array PoolNode × Except GenerationError EthAllocation :=
  if totals.score = 0 ∨ totals.successful = 0 then (nodes, .ok ⟨balance, 0⟩)
  else
    let pot := operatorPot balance totals
    let nodes := nodes.map (·.withShares pot totals.score)
    let paid := Amount.sum (nodes.toList.map (·.eth))
    (nodes, do
      let _ ← reconcile "smoothing pool ETH" paid pot tolerance
      return ⟨balance - paid, paid⟩)

/-! ### Credits -/

/-- Whether a node is paid. -/
def PoolNode.isPaid (node : PoolNode) : Bool := node.eligible && node.eth != 0

/-- The credits of the nodes that are paid. -/
def ethCredits (nodes : Array PoolNode) : List Ledger.Credit :=
  (nodes.toList.filter (·.isPaid)).map fun node =>
    ⟨node.address, node.rewardNetwork, .smoothingPoolEth, node.eth⟩

/-- What is reported of a minipool. -/
def PoolMinipool.performance (minipool : PoolMinipool) : MinipoolPerformance where
  pubkey := minipool.pubkey
  successful := UInt64.ofNat minipool.completed.size
  missed := UInt64.ofNat minipool.missing.length
  score := minipool.score
  ethEarned := minipool.share
  missingSlots := minipool.missing

/-- The minipools that are reported: those with duties, of nodes that are paid. -/
def reportedMinipools (nodes : Array PoolNode) : List PoolMinipool :=
  (nodes.toList.filter (·.isPaid)).flatMap fun node => node.minipools.toList.filter (·.hadDuties)

/-- The report, by minipool.  Of two minipools with one address the last is reported. -/
def performanceReport (nodes : Array PoolNode) : Std.ExtTreeMap Address MinipoolPerformance :=
  (reportedMinipools nodes).foldl (fun report minipool =>
    report.insert minipool.address minipool.performance) ∅

end PoolRewards
