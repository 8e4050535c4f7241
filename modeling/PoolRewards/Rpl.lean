/-
The split of an interval's pending RPL.

Node operators share a fraction of it by weight and by stake, and oracle members another
by the time that they took part.  The treasury gets what is left, so that the three
always add up to the pending rewards.
-/
import PoolRewards.Ledger.Basic
import PoolRewards.Snapshot.Index

namespace PoolRewards

/-- The split of the pending RPL. -/
structure RplAllocation where
  /-- What the other two leave. -/
  protocolDao : Amount
  collateral : Amount
  oracleDao : Amount
  totalWeight : Amount
  deriving DecidableEq, Repr

/--
How many sixths of the collateral rewards go by weight.  All six up to interval 17, then
one less with each interval, down to one.
-/
def weightSixths (interval : UInt64) : UInt64 := max 1 (Word.less 6 (Word.less interval 17))

/--
The collateral reward of one node: its part of the sixths that go by weight and of those
that go by stake, each rounded down.
-/
def collateralReward (pool stake totalStake weight totalWeight : Amount) (interval : UInt64) :
    Except Fault Amount := do
  if stake = 0 ∨ weight = 0 then
    return 0
  let sixths := Amount.ofWord (weightSixths interval)
  let byWeight ← Amount.div (pool * weight * sixths) (totalWeight * 6)
  if sixths = 6 then
    return byWeight
  let byStake ← Amount.div (pool * (6 - sixths) * stake) (totalStake * 6)
  return byWeight + byStake

namespace Snapshot

/-- The part of the pending RPL that a fraction stands for. -/
def partOfPending (snapshot : Snapshot) (fraction : Amount) : Amount :=
  snapshot.network.pendingRpl * fraction / Amount.oneEther

/-- The collateral rewards of all nodes together, before rounding. -/
def collateralPool (snapshot : Snapshot) : Amount :=
  snapshot.partOfPending snapshot.network.nodeOperatorShare

/-- The rewards of all oracle members together, before rounding. -/
def oraclePool (snapshot : Snapshot) : Amount := snapshot.partOfPending snapshot.network.oracleDaoShare

/-- The stake of all nodes. -/
def totalStake (snapshot : Snapshot) : Amount := Amount.sum (snapshot.nodes.map (·.effectiveStake))

/-- The weight of all nodes. -/
def totalWeight (snapshot : Snapshot) : Amount := Amount.sum (snapshot.nodes.map (·.weight))

/-- The collateral reward of a node of the snapshot. -/
def collateralRewardOf (snapshot : Snapshot) (node : NodeDetails) : Except Fault Amount :=
  collateralReward snapshot.collateralPool node.effectiveStake snapshot.totalStake node.weight
    snapshot.totalWeight snapshot.network.rewardIndex

/-- The collateral credits of nodes, in order.  A reward of nothing is no credit. -/
def collateralCreditsOf (snapshot : Snapshot) : List NodeDetails → Except Fault (List Ledger.Credit)
  | [] => .ok []
  | node :: rest => do
    let reward ← snapshot.collateralRewardOf node
    let others ← collateralCreditsOf snapshot rest
    return if reward = 0 then others
      else ⟨node.address, node.rewardNetwork, .collateralRpl, reward⟩ :: others

/-- The collateral credits of the snapshot. -/
def collateralCredits (snapshot : Snapshot) : Except Fault (List Ledger.Credit) :=
  snapshot.collateralCreditsOf snapshot.nodes

/-- How long an oracle member took part, up to the length that the interval should have. -/
def participation (snapshot : Snapshot) (time : UInt64) (member : OracleMember) : Amount :=
  Amount.ofWord (min (Word.less time member.joined) snapshot.network.intervalDuration)

/-- How long all oracle members took part. -/
def totalParticipation (snapshot : Snapshot) (time : UInt64) : Amount :=
  Amount.sum (snapshot.oracleMembers.map (snapshot.participation time))

/-- The credits of the oracle members.  A member that is no node claims on the default network. -/
def oracleCredits (snapshot : Snapshot) (time : UInt64) : List Ledger.Credit :=
  let nodes := lastBy NodeDetails.address snapshot.nodes
  snapshot.oracleMembers.map fun member =>
    { node := member.address
      network := (nodes[member.address]?.map (·.rewardNetwork)).getD defaultNetwork
      bucket := .oracleDaoRpl
      amount :=
        snapshot.participation time member * snapshot.oraclePool / snapshot.totalParticipation time }

end Snapshot

/-- A computation that credits a ledger.  The credits made before it stops stay made. -/
abbrev Crediting := ExceptT Halt (StateM Ledger)

/-- Make credits.  The answer is the total of their bucket, if it is near enough to what it should be. -/
def makeCredits (credits : List Ledger.Credit) (bucket : Bucket) (name : String)
    (expected tolerance : Amount) : Crediting Amount := do
  modify (·.creditAll credits)
  let total := (← get).total bucket
  let _ ← Halt.check (reconcile name total expected tolerance)
  return total

/-- Credit the nodes for their collateral.  The answer is the total. -/
def allocateCollateral (snapshot : Snapshot) : Crediting Amount := do
  let credits ← Halt.arithmetic snapshot.collateralCredits
  makeCredits credits .collateralRpl "collateral RPL" snapshot.collateralPool snapshot.tolerance

/-- Credit the oracle members for their time.  The answer is the total. -/
def allocateOracleDao (snapshot : Snapshot) (time : UInt64) : Crediting Amount :=
  if snapshot.totalParticipation time = 0 then pure 0
  else makeCredits (snapshot.oracleCredits time) .oracleDaoRpl "Oracle DAO RPL" snapshot.oraclePool
    snapshot.tolerance

/-- Split the pending RPL as of `time` and credit every node's part. -/
def allocateRpl (snapshot : Snapshot) (time : UInt64) : Crediting RplAllocation := do
  let pending := snapshot.network.pendingRpl
  if pending = 0 then
    throw (.error .noPendingRewards)
  let shared := snapshot.totalStake ≠ 0 ∧ snapshot.totalWeight ≠ 0
  let collateral ← if shared then allocateCollateral snapshot else pure 0
  let oracleDao ← allocateOracleDao snapshot time
  return {
    protocolDao := pending - collateral - oracleDao
    collateral
    oracleDao
    totalWeight := if shared then snapshot.totalWeight else 0 }

end PoolRewards
