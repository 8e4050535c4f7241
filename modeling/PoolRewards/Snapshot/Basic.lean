/-
A snapshot of the pool at one execution block: the network's parameters, every node,
minipool and oracle member, and the state of every validator of the pool.
-/
import PoolRewards.Amount
import PoolRewards.Octets
import PoolRewards.Beacon.Config
import Std.Data.ExtTreeMap

namespace PoolRewards

/-- Parameters of the network as a whole.  Fractions are scaled by 10^18. -/
structure NetworkDetails where
  rewardIndex : UInt64
  /-- The length that an interval should have, in seconds. -/
  intervalDuration : UInt64
  pendingRpl : Amount
  /-- The treasury's fraction of the pending RPL. -/
  protocolDaoShare : Amount
  /-- The fraction of the pending RPL owed to node operators for their collateral. -/
  nodeOperatorShare : Amount
  /-- The fraction of the pending RPL owed to the oracle members. -/
  oracleDaoShare : Amount
  smoothingPoolBalance : Amount
  deriving DecidableEq, Repr

/-- A node. -/
structure NodeDetails where
  address : Address
  rewardNetwork : UInt64
  /-- Whether the node is opted into the smoothing pool. -/
  optedIn : Bool
  /-- When it last opted in or out. -/
  optChanged : UInt64
  /-- Collateral, scaled by the time of taking part and capped. -/
  effectiveStake : Amount
  weight : Amount
  deriving DecidableEq, Repr

/-- Where a minipool stands in its life. -/
inductive MinipoolStatus where
  | initialized
  | prelaunch
  | staking
  | withdrawable
  | dissolved
  deriving DecidableEq, Repr

/-- A minipool. -/
structure MinipoolDetails where
  address : Address
  node : Address
  pubkey : PublicKey
  /-- Whether the minipool is there at all. -/
  present : Bool
  status : MinipoolStatus
  /-- When the status last changed. -/
  statusTime : UInt64
  penalties : UInt64
  /-- The operator's commission. -/
  fee : Amount
  /-- The operator's own deposit. -/
  bond : Amount
  /-- When the bond was last reduced, zero if never. -/
  bondReduced : UInt64
  previousBond : Amount
  previousFee : Amount
  deriving DecidableEq, Repr

/-- Whether a minipool counts as one whose validator is at work. -/
def MinipoolDetails.isStaking (minipool : MinipoolDetails) : Bool :=
  minipool.present && minipool.status == .staking

/-- A member of the oracle DAO. -/
structure OracleMember where
  address : Address
  joined : UInt64
  deriving DecidableEq, Repr

/-- Where a validator stands in its life. -/
inductive ValidatorState where
  | pendingInitialized
  | pendingQueued
  | activeOngoing
  | activeExiting
  | activeSlashed
  | exitedUnslashed
  | exitedSlashed
  | withdrawalPossible
  | withdrawalDone
  deriving DecidableEq, Repr

/-- A pending validator has no index of its own yet. -/
def ValidatorState.isPending : ValidatorState → Bool
  | .pendingInitialized | .pendingQueued => true
  | _ => false

/-- A validator. -/
structure ValidatorStatus where
  index : UInt64
  state : ValidatorState
  activationEpoch : UInt64
  exitEpoch : UInt64
  deriving DecidableEq, Repr

/-- The whole snapshot. -/
structure Snapshot where
  executionBlock : UInt64
  beaconSlot : UInt64
  config : BeaconConfig
  network : NetworkDetails
  nodes : List NodeDetails
  minipools : List MinipoolDetails
  oracleMembers : List OracleMember
  validators : Std.ExtTreeMap PublicKey ValidatorStatus
  deriving DecidableEq

namespace Snapshot

/-- How far truncating divisions may take a total from its parts: one unit for each node or minipool. -/
def tolerance (snapshot : Snapshot) : Amount :=
  BitVec.ofNat 256 (max snapshot.nodes.length snapshot.minipools.length)

end Snapshot

end PoolRewards
