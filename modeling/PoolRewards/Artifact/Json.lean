/-
Artifacts as JSON.

Both files are written in the pretty form.  A rewards file is read back by its version:
the whole text has to be sound first, then the version is looked at, and only a file of
the current layout is read any further.
-/
import PoolRewards.Artifact.Basic
import PoolRewards.Client
import PoolRewards.Json.Printer
import PoolRewards.Json.Settled
import PoolRewards.Snapshot.Json

namespace PoolRewards

open Json (Record Decoder)

namespace IntervalBounds

def record : Record IntervalBounds :=
  (Record.unit mk)
    |>.field "startTime" Decoder.word
    |>.field "endTime" Decoder.word
    |>.field "consensusStartBlock" Decoder.word
    |>.field "consensusEndBlock" Decoder.word
    |>.field "executionStartBlock" Decoder.word
    |>.field "executionEndBlock" Decoder.word

def decoder : Decoder IntervalBounds := record.decoder "IntervalBounds"

def toJson (bounds : IntervalBounds) : Json :=
  .ofMembers [
    ("startTime", .ofWord bounds.startTime),
    ("endTime", .ofWord bounds.endTime),
    ("consensusStartBlock", .ofWord bounds.firstSlot),
    ("consensusEndBlock", .ofWord bounds.lastSlot),
    ("executionStartBlock", .ofWord bounds.firstBlock),
    ("executionEndBlock", .ofWord bounds.lastBlock)]

end IntervalBounds

namespace RewardsEvent

def record : Record RewardsEvent :=
  (Record.unit mk)
    |>.field "index" Decoder.word
    |>.field "consensusBlock" Decoder.word
    |>.field "executionBlock" Decoder.word
    |>.field "intervalsPassed" Decoder.word

def decoder : Decoder RewardsEvent := record.decoder "RewardsEvent"

def toJson (event : RewardsEvent) : Json :=
  .ofMembers [
    ("index", .ofWord event.index),
    ("consensusBlock", .ofWord event.consensusBlock),
    ("executionBlock", .ofWord event.executionBlock),
    ("intervalsPassed", .ofWord event.intervalsPassed)]

end RewardsEvent

namespace TotalRewards

def record : Record TotalRewards :=
  (Record.unit mk)
    |>.field "protocolDaoRpl" Decoder.amount
    |>.field "totalCollateralRpl" Decoder.amount
    |>.field "totalOracleDaoRpl" Decoder.amount
    |>.field "totalSmoothingPoolEth" Decoder.amount
    |>.field "poolStakerSmoothingPoolEth" Decoder.amount
    |>.field "nodeOperatorSmoothingPoolEth" Decoder.amount
    |>.field "totalNodeWeight" Decoder.amount

def decoder : Decoder TotalRewards := record.decoder "TotalRewards"

def toJson (totals : TotalRewards) : Json :=
  .ofMembers [
    ("protocolDaoRpl", totals.protocolDaoRpl.toJson),
    ("totalCollateralRpl", totals.collateralRpl.toJson),
    ("totalOracleDaoRpl", totals.oracleDaoRpl.toJson),
    ("totalSmoothingPoolEth", totals.smoothingPoolEth.toJson),
    ("poolStakerSmoothingPoolEth", totals.poolStakerEth.toJson),
    ("nodeOperatorSmoothingPoolEth", totals.nodeOperatorEth.toJson),
    ("totalNodeWeight", totals.nodeWeight.toJson)]

end TotalRewards

/-- The members that rewards are written as. -/
def Rewards.members (rewards : Rewards) : List (String × Json) := [
  ("collateralRpl", rewards.collateralRpl.toJson),
  ("oracleDaoRpl", rewards.oracleDaoRpl.toJson),
  ("smoothingPoolEth", rewards.smoothingPoolEth.toJson)]

namespace NetworkReward

def record : Record NetworkReward :=
  (Record.unit fun network collateral oracleDao eth => ⟨network, ⟨collateral, oracleDao, eth⟩⟩)
    |>.field "network" Decoder.word
    |>.field "collateralRpl" Decoder.amount
    |>.field "oracleDaoRpl" Decoder.amount
    |>.field "smoothingPoolEth" Decoder.amount

def decoder : Decoder NetworkReward := record.decoder "NetworkReward"

def toJson (reward : NetworkReward) : Json :=
  .ofMembers (("network", .ofWord reward.network) :: reward.rewards.members)

end NetworkReward

namespace NodeReward

def record : Record NodeReward :=
  (Record.unit fun address network collateral oracleDao eth proof =>
      ⟨address, network, ⟨collateral, oracleDao, eth⟩, proof⟩)
    |>.field "address" (Decoder.octets 20)
    |>.field "network" Decoder.word
    |>.field "collateralRpl" Decoder.amount
    |>.field "oracleDaoRpl" Decoder.amount
    |>.field "smoothingPoolEth" Decoder.amount
    |>.fieldOr "merkleProof" (Decoder.list (Decoder.octets 32)) (some [])

def decoder : Decoder NodeReward := record.decoder "NodeReward"

def toJson (reward : NodeReward) : Json :=
  .ofMembers ([("address", reward.address.toJson), ("network", .ofWord reward.network)] ++
    reward.rewards.members ++ [("merkleProof", .ofList (reward.proof.map Octets.toJson))])

end NodeReward

namespace RewardsFile

def record : Record RewardsFile :=
  (Record.unit mk)
    |>.field "rewardsFileVersion" Decoder.word
    |>.field "rulesetVersion" Decoder.word
    |>.field "network" Decoder.string
    |>.field "index" Decoder.word
    |>.field "intervalsPassed" Decoder.word
    |>.field "interval" IntervalBounds.decoder
    |>.field "merkleRoot" (Decoder.octets 32)
    |>.field "totalRewards" TotalRewards.decoder
    |>.field "networkRewards" (Decoder.list NetworkReward.decoder)
    |>.field "nodeRewards" (Decoder.list NodeReward.decoder)

def decoder : Decoder RewardsFile := record.decoder "RewardsFile"

def toJson (file : RewardsFile) : Json :=
  .ofMembers [
    ("rewardsFileVersion", .ofWord file.fileVersion),
    ("rulesetVersion", .ofWord file.rulesetVersion),
    ("network", .ofString file.network),
    ("index", .ofWord file.index),
    ("intervalsPassed", .ofWord file.intervalsPassed),
    ("interval", file.interval.toJson),
    ("merkleRoot", file.merkleRoot.toJson),
    ("totalRewards", file.totals.toJson),
    ("networkRewards", .ofList (file.networkRewards.map NetworkReward.toJson)),
    ("nodeRewards", .ofList (file.nodeRewards.map NodeReward.toJson))]

/-- The text of the file. -/
def jsonText (file : RewardsFile) : String := file.toJson.pretty

/-- The version that a document names. -/
def versionIn? (document : Json) : Option UInt64 :=
  match document.get? "rewardsFileVersion" with
  | some (.number (.natural version)) => some version
  | _ => none

/-- Read a file back from the bytes of its text. -/
def ofJsonBytes (bytes : List UInt8) : Except GenerationError RewardsFile := do
  let document ← (Json.settledOfBytes bytes).mapError fun fault => .encoding fault.message
  let some version := versionIn? document | throw (.encoding "missing rewardsFileVersion")
  if version ≠ rewardsFileVersion then throw (.unsupportedVersion version)
  match decoder .settled document with
  | .ok file => return file
  | .error fault => throw (.encoding fault.message)

end RewardsFile

namespace MinipoolPerformance

def record : Record MinipoolPerformance :=
  (Record.unit mk)
    |>.field "pubkey" (Decoder.octets 48)
    |>.field "successfulAttestations" Decoder.word
    |>.field "missedAttestations" Decoder.word
    |>.field "attestationScore" Decoder.amount
    |>.field "ethEarned" Decoder.amount
    |>.field "missingAttestationSlots" (Decoder.list Decoder.word)

def decoder : Decoder MinipoolPerformance := record.decoder "MinipoolPerformance"

def toJson (performance : MinipoolPerformance) : Json :=
  .ofMembers [
    ("pubkey", performance.pubkey.toJson),
    ("successfulAttestations", .ofWord performance.successful),
    ("missedAttestations", .ofWord performance.missed),
    ("attestationScore", performance.score.toJson),
    ("ethEarned", performance.ethEarned.toJson),
    ("missingAttestationSlots", .ofList (performance.missingSlots.map Json.ofWord))]

end MinipoolPerformance

namespace PerformanceFile

def record : Record PerformanceFile :=
  (Record.unit mk)
    |>.field "rewardsFileVersion" Decoder.word
    |>.field "rulesetVersion" Decoder.word
    |>.field "network" Decoder.string
    |>.field "index" Decoder.word
    |>.field "interval" IntervalBounds.decoder
    |>.field "minipoolPerformance" (Decoder.keyed MinipoolPerformance.decoder)

def decoder : Decoder PerformanceFile := record.decoder "PerformanceFile"

/-- The entries of minipools, by address, as JSON. -/
def minipoolsToJson (minipools : Std.ExtTreeMap Address MinipoolPerformance) : Json :=
  Octets.mapToJson MinipoolPerformance.toJson minipools

def toJson (file : PerformanceFile) : Json :=
  .ofMembers [
    ("rewardsFileVersion", .ofWord file.fileVersion),
    ("rulesetVersion", .ofWord file.rulesetVersion),
    ("network", .ofString file.network),
    ("index", .ofWord file.index),
    ("interval", file.interval.toJson),
    ("minipoolPerformance", minipoolsToJson file.minipools)]

/-- The text of the file. -/
def jsonText (file : PerformanceFile) : String := file.toJson.pretty

end PerformanceFile

end PoolRewards
