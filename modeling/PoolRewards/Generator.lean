/-
The rewards of one interval.

The pending RPL is split first and then, except in the first interval, the smoothing
pool's ether by the attestations of the interval.  What the ledger holds at the end goes
into the rewards file together with its Merkle tree.

The pool stakers' part of the ether can also be estimated, without looking at a single
attestation.
-/
import PoolRewards.Duties.Walk
import PoolRewards.Interval.Resolve
import PoolRewards.Ledger.Networks
import PoolRewards.Merkle
import PoolRewards.Pool.Split
import PoolRewards.Rpl

namespace PoolRewards

open Std (ExtTreeMap)

/-- What is to be generated. -/
structure Request where
  /-- The name of the network. -/
  network : String
  index : UInt64
  /-- The execution block of the snapshot. -/
  header : BlockHeader
  intervalsPassed : UInt64
  snapshot : Snapshot
  /-- The event of the previous interval, looked up if it is not given. -/
  previous : Option RewardsEvent
  snapshotEnd : SnapshotEnd

/-- The rewards of an interval. -/
structure Generated where
  rewards : RewardsFile
  performance : PerformanceFile
  /-- Nodes whose network is not enabled, with the network they asked for. -/
  invalid : ExtTreeMap Address UInt64
  deriving DecidableEq

/-- What the smoothing pool's ether comes to. -/
structure EthOutcome where
  total : Amount
  allocation : EthAllocation
  performance : ExtTreeMap Address MinipoolPerformance
  credits : List Ledger.Credit

/-- No ether. -/
def EthOutcome.nothing : EthOutcome := ⟨0, ⟨0, 0⟩, ∅, []⟩

namespace Request

variable {m : Type → Type} [Monad m]

/-- Whether any ether is shared out.  The first interval has no start and so never shares out any. -/
def sharesEth (request : Request) : Bool :=
  request.snapshot.network.smoothingPoolBalance != 0 && request.index != 0

/-- The bounds of the interval.  The event of the previous interval must be there and be its own. -/
def findBounds (request : Request) (consensus : ConsensusClient m) (execution : ExecutionClient m) :
    ExceptT Halt m IntervalBounds := do
  let expected := request.index - 1
  let previous ← match request.previous with
    | some event => pure event
    | none =>
      Halt.lookup s!"error getting event for interval {expected}" (execution.rewardsEvent expected)
  if previous.index ≠ expected then
    throw (.error (.missingPreviousInterval expected))
  let resolved ← resolveInterval consensus execution request.snapshot.config previous request.snapshotEnd
  return resolved.bounds

/-- The bounds of the interval, unset in the first one. -/
def bounds (request : Request) (consensus : ConsensusClient m) (execution : ExecutionClient m) :
    ExceptT Halt m IntervalBounds :=
  if request.index = 0 then pure .unset else request.findBounds consensus execution

/-- The nodes after the walk over the interval, and what their minipools have reached. -/
def observe (request : Request) (consensus : ConsensusClient m) (bounds : IntervalBounds) :
    ExceptT Halt m (Array PoolNode × AttestationTotals) := do
  let (linked, tracker) := Tracker.new request.snapshot bounds request.snapshot.poolNodes
  Halt.arithmetic linked
  let (totals, tracker) ← ExceptT.lift ((Tracker.walk consensus).run.run tracker)
  match totals with
  | .ok totals => return (tracker.nodes, totals)
  | .error halt => throw halt

/-- Share out the smoothing pool's balance by what the nodes have reached. -/
def shareEth (request : Request) (nodes : Array PoolNode) (totals : AttestationTotals) :
    Except GenerationError EthOutcome := do
  let balance := request.snapshot.network.smoothingPoolBalance
  let (nodes, allocation) := splitBalance nodes balance totals request.snapshot.tolerance
  return ⟨balance, ← allocation, performanceReport nodes, ethCredits nodes⟩

/-- What the smoothing pool's ether comes to, after the walk over the interval. -/
def earnEth (request : Request) (consensus : ConsensusClient m) (bounds : IntervalBounds) :
    ExceptT Halt m EthOutcome :=
  if request.sharesEth then do
    let (nodes, totals) ← request.observe consensus bounds
    Halt.check (request.shareEth nodes totals)
  else pure .nothing

/-- The rewards file before it has a tree. -/
def rewardsFile (request : Request) (bounds : IntervalBounds) (rpl : RplAllocation) (eth : EthOutcome)
    (ledger : Ledger) : RewardsFile where
  fileVersion := rewardsFileVersion
  rulesetVersion := rulesetVersion
  network := request.network
  index := request.index
  intervalsPassed := request.intervalsPassed
  interval := bounds
  merkleRoot := 0
  totals := {
    protocolDaoRpl := rpl.protocolDao
    collateralRpl := rpl.collateral
    oracleDaoRpl := rpl.oracleDao
    smoothingPoolEth := eth.total
    poolStakerEth := eth.allocation.poolStakers
    nodeOperatorEth := eth.allocation.nodeOperators
    nodeWeight := rpl.totalWeight }
  networkRewards := ledger.networks.toList.map fun (network, rewards) => ⟨network, rewards⟩
  nodeRewards := ledger.nodes.toList.map fun (address, account) =>
    ⟨address, account.network, account.rewards, []⟩

/-- The performance file. -/
def performanceFile (request : Request) (bounds : IntervalBounds) (eth : EthOutcome) : PerformanceFile where
  fileVersion := rewardsFileVersion
  rulesetVersion := rulesetVersion
  network := request.network
  index := request.index
  interval := bounds
  minipools := eth.performance

/-- Generate the rewards and performance files of an interval. -/
def generate (request : Request) (consensus : ConsensusClient m) (execution : ExecutionClient m) :
    ExceptT Halt m Generated := do
  let enabled ← enabledNetworks execution request.snapshot request.header.number
  let bounds ← request.bounds consensus execution
  let (rpl, ledger) := (allocateRpl request.snapshot request.header.timestamp).run.run (Ledger.new enabled)
  let rpl ← (.mk (pure rpl) : ExceptT Halt m RplAllocation)
  let eth ← request.earnEth consensus bounds
  let ledger := ledger.creditAll eth.credits
  let rewards ← Halt.check ((request.rewardsFile bounds rpl eth ledger).withTree Keccak.hash)
  return ⟨rewards, request.performanceFile bounds eth, ledger.invalid⟩

/--
Estimate the pool stakers' part of the smoothing pool: every minipool that is in the pool
now counts as if it had attested exactly once.
-/
def approximate (request : Request) (consensus : ConsensusClient m) (execution : ExecutionClient m) :
    ExceptT Halt m Amount := do
  let _ ← enabledNetworks execution request.snapshot request.header.number
  if request.sharesEth then
    let _ ← request.findBounds consensus execution
    let (nodes, totals) := attestUnseen request.snapshot.poolNodes request.header.timestamp
    let eth ← Halt.check (request.shareEth nodes totals)
    return eth.allocation.poolStakers
  else
    return 0

end Request

end PoolRewards
