/-
What an interval leaves behind: the rewards file with every node's rewards and its proof,
and the performance file with every minipool's attestations.
-/
import PoolRewards.Ledger.Basic
import PoolRewards.Interval.Bounds

namespace PoolRewards

open Std (ExtTreeMap)

/-- The layout of the rewards file. -/
def rewardsFileVersion : UInt64 := 3

/-- The rules that the rewards are computed by. -/
def rulesetVersion : UInt64 := 9

/-- The totals of an interval. -/
structure TotalRewards where
  protocolDaoRpl : Amount
  collateralRpl : Amount
  oracleDaoRpl : Amount
  smoothingPoolEth : Amount
  poolStakerEth : Amount
  nodeOperatorEth : Amount
  nodeWeight : Amount
  deriving DecidableEq, Repr

/-- What can be claimed on a network. -/
structure NetworkReward where
  network : UInt64
  rewards : Rewards
  deriving DecidableEq, Repr

/-- What a node can claim, with the proof that it can. -/
structure NodeReward where
  address : Address
  network : UInt64
  rewards : Rewards
  proof : List Digest
  deriving DecidableEq, Repr

/-- The rewards file. -/
structure RewardsFile where
  fileVersion : UInt64
  rulesetVersion : UInt64
  network : String
  index : UInt64
  intervalsPassed : UInt64
  interval : IntervalBounds
  merkleRoot : Digest
  totals : TotalRewards
  /-- By network. -/
  networkRewards : List NetworkReward
  /-- By address. -/
  nodeRewards : List NodeReward
  deriving DecidableEq, Repr

/-- The attestations of a minipool. -/
structure MinipoolPerformance where
  pubkey : PublicKey
  successful : UInt64
  missed : UInt64
  score : Amount
  ethEarned : Amount
  /-- Ascending. -/
  missingSlots : List UInt64
  deriving DecidableEq, Repr

/-- The performance file. -/
structure PerformanceFile where
  fileVersion : UInt64
  rulesetVersion : UInt64
  network : String
  index : UInt64
  interval : IntervalBounds
  minipools : ExtTreeMap Address MinipoolPerformance
  deriving DecidableEq

/-- No rewards. -/
def TotalRewards.none : TotalRewards := ⟨0, 0, 0, 0, 0, 0, 0⟩

end PoolRewards
