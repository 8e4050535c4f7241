/-
The collaborators of a computation of rewards.

The consensus side answers about slots and epochs, the execution side about blocks,
networks and earlier intervals.  A lookup runs in whatever way `m` allows and answers or
fails.
-/
import PoolRewards.Failure
import PoolRewards.Beacon.Records
import PoolRewards.Snapshot.Basic

namespace PoolRewards

/-- An execution block's number and time. -/
structure BlockHeader where
  number : UInt64
  timestamp : UInt64
  deriving DecidableEq, Repr

/-- The record of an interval that has been settled on chain. -/
structure RewardsEvent where
  index : UInt64
  /-- The last slot of the interval. -/
  consensusBlock : UInt64
  /-- The execution block of that slot. -/
  executionBlock : UInt64
  intervalsPassed : UInt64
  deriving DecidableEq, Repr

/-- Where an interval ends. -/
structure SnapshotEnd where
  /-- The slot that the end time is taken from. -/
  slot : UInt64
  consensusBlock : UInt64
  executionBlock : UInt64
  deriving DecidableEq, Repr

/-- The consensus layer. -/
structure ConsensusClient (m : Type → Type) where
  config : m (Except ClientError BeaconConfig)
  /-- No block where the slot was skipped. -/
  block : UInt64 → m (Except ClientError (Option BeaconBlock))
  committees : (epoch : UInt64) → m (Except ClientError (List Committee))
  /-- The attestations that the block of a slot includes. -/
  attestations : (slot : UInt64) → m (Except ClientError (Option (List Attestation)))

/-- The execution layer and the pool's contracts. -/
structure ExecutionClient (m : Type → Type) where
  snapshot : (block : UInt64) → m (Except ClientError Snapshot)
  header : (block : UInt64) → m (Except ClientError BlockHeader)
  /-- Whether rewards may be claimed on a network, as of a block. -/
  isEnabled : (network block : UInt64) → m (Except ClientError Bool)
  rewardsEvent : (index : UInt64) → m (Except ClientError RewardsEvent)

end PoolRewards
