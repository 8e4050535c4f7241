/-
The rewards file in binary form.

The fields stand one after the other in the order of their declaration.  The first one is
the version, and it is looked at before anything else.  Bytes behind the end of the file are
not looked at.
-/
import PoolRewards.Artifact.Basic
import PoolRewards.Artifact.Layout
import PoolRewards.Failure

namespace PoolRewards

open Layout (word text amount octets list)

/-- The layout of interval bounds. -/
def IntervalBounds.layout : Layout IntervalBounds :=
  (word.pair <| word.pair <| word.pair <| word.pair <| word.pair word).relabel
    (fun b => (b.startTime, b.endTime, b.firstSlot, b.lastSlot, b.firstBlock, b.lastBlock))
    fun (startTime, endTime, firstSlot, lastSlot, firstBlock, lastBlock) =>
      ⟨startTime, endTime, firstSlot, lastSlot, firstBlock, lastBlock⟩

/-- The layout of the totals. -/
def TotalRewards.layout : Layout TotalRewards :=
  (amount.pair <| amount.pair <| amount.pair <| amount.pair <| amount.pair <| amount.pair amount).relabel
    (fun t => (t.protocolDaoRpl, t.collateralRpl, t.oracleDaoRpl, t.smoothingPoolEth, t.poolStakerEth,
      t.nodeOperatorEth, t.nodeWeight))
    fun (protocolDao, collateral, oracleDao, eth, poolStakers, nodeOperators, weight) =>
      ⟨protocolDao, collateral, oracleDao, eth, poolStakers, nodeOperators, weight⟩

/-- The layout of rewards. -/
def Rewards.layout : Layout Rewards :=
  (amount.pair <| amount.pair amount).relabel
    (fun r => (r.collateralRpl, r.oracleDaoRpl, r.smoothingPoolEth))
    fun (collateral, oracleDao, eth) => ⟨collateral, oracleDao, eth⟩

/-- The layout of a network's rewards. -/
def NetworkReward.layout : Layout NetworkReward :=
  (word.pair Rewards.layout).relabel (fun r => (r.network, r.rewards))
    fun (network, rewards) => ⟨network, rewards⟩

/-- The layout of a node's rewards. -/
def NodeReward.layout : Layout NodeReward :=
  ((octets 20).pair <| word.pair <| Rewards.layout.pair <| list (octets 32)).relabel
    (fun r => (r.address, r.network, r.rewards, r.proof))
    fun (address, network, rewards, proof) => ⟨address, network, rewards, proof⟩

namespace RewardsFile

/-- The layout of the rewards file. -/
def layout : Layout RewardsFile :=
  (word.pair <| word.pair <| text.pair <| word.pair <| word.pair <| IntervalBounds.layout.pair <|
    (octets 32).pair <| TotalRewards.layout.pair <|
    (list NetworkReward.layout).pair (list NodeReward.layout)).relabel
    (fun f => (f.fileVersion, f.rulesetVersion, f.network, f.index, f.intervalsPassed, f.interval,
      f.merkleRoot, f.totals, f.networkRewards, f.nodeRewards))
    fun (fileVersion, rulesetVersion, network, index, intervalsPassed, interval, merkleRoot, totals,
        networkRewards, nodeRewards) =>
      { fileVersion, rulesetVersion, network, index, intervalsPassed, interval, merkleRoot, totals,
        networkRewards, nodeRewards }

/-- The bytes of the file. -/
def toBinary (file : RewardsFile) : List UInt8 := layout.write file

/-- Read a value from the front of a buffer. -/
def readFront {α : Type} (read : Layout.Reader α) (buffer : List UInt8) : Except GenerationError α :=
  match read.run buffer with
  | .ok (value, _) => .ok value
  | .error fault => .error (.encoding fault.message)

/-- Read a file back from its bytes. -/
def ofBinary (buffer : List UInt8) : Except GenerationError RewardsFile := do
  let version ← readFront word.read buffer
  if version ≠ rewardsFileVersion then throw (.unsupportedVersion version)
  readFront layout.read buffer

end RewardsFile

end PoolRewards
