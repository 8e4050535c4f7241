/-
Snapshots as JSON.

Words are numbers, amounts are decimal texts, addresses and keys are hexadecimal texts,
and validators are listed by public key.
-/
import PoolRewards.Snapshot.Basic
import PoolRewards.Json.Decoder

namespace PoolRewards

open Json (Record Decoder)

/-- An amount as JSON. -/
def Amount.toJson (a : Amount) : Json := .ofString a.toText

/-- A value of a fixed number of bytes as JSON. -/
def Octets.toJson {count : Nat} (value : Octets count) : Json := .ofString value.toText

/-- A map from values of a fixed number of bytes as JSON. -/
def Octets.mapToJson {count : Nat} {α : Type} (encode : α → Json)
    (entries : Std.ExtTreeMap (Octets count) α) : Json :=
  .ofMembers (entries.toList.map fun (key, value) => (Octets.toText key, encode value))

namespace BeaconConfig

def record : Record BeaconConfig :=
  (Record.unit mk)
    |>.field "genesisTime" Decoder.word
    |>.field "secondsPerSlot" Decoder.word
    |>.field "slotsPerEpoch" Decoder.word

def decoder : Decoder BeaconConfig := record.decoder "BeaconConfig"

def toJson (config : BeaconConfig) : Json :=
  .ofMembers [
    ("genesisTime", .ofWord config.genesisTime),
    ("secondsPerSlot", .ofWord config.secondsPerSlot),
    ("slotsPerEpoch", .ofWord config.slotsPerEpoch)]

end BeaconConfig

namespace NetworkDetails

def record : Record NetworkDetails :=
  (Record.unit mk)
    |>.field "rewardIndex" Decoder.word
    |>.field "intervalDuration" Decoder.word
    |>.field "pendingRplRewards" Decoder.amount
    |>.field "protocolDaoRewardsPercent" Decoder.amount
    |>.field "nodeOperatorRewardsPercent" Decoder.amount
    |>.field "trustedNodeOperatorRewardsPercent" Decoder.amount
    |>.field "smoothingPoolBalance" Decoder.amount

def decoder : Decoder NetworkDetails := record.decoder "NetworkDetails"

def toJson (network : NetworkDetails) : Json :=
  .ofMembers [
    ("rewardIndex", .ofWord network.rewardIndex),
    ("intervalDuration", .ofWord network.intervalDuration),
    ("pendingRplRewards", network.pendingRpl.toJson),
    ("protocolDaoRewardsPercent", network.protocolDaoShare.toJson),
    ("nodeOperatorRewardsPercent", network.nodeOperatorShare.toJson),
    ("trustedNodeOperatorRewardsPercent", network.oracleDaoShare.toJson),
    ("smoothingPoolBalance", network.smoothingPoolBalance.toJson)]

end NetworkDetails

namespace NodeDetails

def record : Record NodeDetails :=
  (Record.unit mk)
    |>.field "nodeAddress" (Decoder.octets 20)
    |>.field "rewardNetwork" Decoder.word
    |>.field "smoothingPoolRegistrationState" Decoder.bool
    |>.field "smoothingPoolRegistrationChanged" Decoder.word
    |>.field "effectiveRplStake" Decoder.amount
    |>.field "nodeWeight" Decoder.amount

def decoder : Decoder NodeDetails := record.decoder "NodeDetails"

def toJson (node : NodeDetails) : Json :=
  .ofMembers [
    ("nodeAddress", node.address.toJson),
    ("rewardNetwork", .ofWord node.rewardNetwork),
    ("smoothingPoolRegistrationState", .bool node.optedIn),
    ("smoothingPoolRegistrationChanged", .ofWord node.optChanged),
    ("effectiveRplStake", node.effectiveStake.toJson),
    ("nodeWeight", node.weight.toJson)]

end NodeDetails

namespace MinipoolStatus

/-- The names of the statuses. -/
def named : List (String × MinipoolStatus) :=
  [("initialized", .initialized), ("prelaunch", .prelaunch), ("staking", .staking),
   ("withdrawable", .withdrawable), ("dissolved", .dissolved)]

def decoder : Decoder MinipoolStatus := Decoder.variant named

def name : MinipoolStatus → String
  | .initialized => "initialized"
  | .prelaunch => "prelaunch"
  | .staking => "staking"
  | .withdrawable => "withdrawable"
  | .dissolved => "dissolved"

end MinipoolStatus

namespace MinipoolDetails

def record : Record MinipoolDetails :=
  (Record.unit mk)
    |>.field "minipoolAddress" (Decoder.octets 20)
    |>.field "nodeAddress" (Decoder.octets 20)
    |>.field "pubkey" (Decoder.octets 48)
    |>.field "exists" Decoder.bool
    |>.field "status" MinipoolStatus.decoder
    |>.field "statusTime" Decoder.word
    |>.field "penaltyCount" Decoder.word
    |>.field "nodeFee" Decoder.amount
    |>.field "nodeDepositBalance" Decoder.amount
    |>.field "lastBondReductionTime" Decoder.word
    |>.field "lastBondReductionPrevValue" Decoder.amount
    |>.field "lastBondReductionPrevNodeFee" Decoder.amount

def decoder : Decoder MinipoolDetails := record.decoder "MinipoolDetails"

def toJson (minipool : MinipoolDetails) : Json :=
  .ofMembers [
    ("minipoolAddress", minipool.address.toJson),
    ("nodeAddress", minipool.node.toJson),
    ("pubkey", minipool.pubkey.toJson),
    ("exists", .bool minipool.present),
    ("status", .ofString minipool.status.name),
    ("statusTime", .ofWord minipool.statusTime),
    ("penaltyCount", .ofWord minipool.penalties),
    ("nodeFee", minipool.fee.toJson),
    ("nodeDepositBalance", minipool.bond.toJson),
    ("lastBondReductionTime", .ofWord minipool.bondReduced),
    ("lastBondReductionPrevValue", minipool.previousBond.toJson),
    ("lastBondReductionPrevNodeFee", minipool.previousFee.toJson)]

end MinipoolDetails

namespace OracleMember

def record : Record OracleMember :=
  (Record.unit mk)
    |>.field "address" (Decoder.octets 20)
    |>.field "joinedTime" Decoder.word

def decoder : Decoder OracleMember := record.decoder "OracleDaoMemberDetails"

def toJson (member : OracleMember) : Json :=
  .ofMembers [("address", member.address.toJson), ("joinedTime", .ofWord member.joined)]

end OracleMember

namespace ValidatorState

/-- The names of the states. -/
def named : List (String × ValidatorState) :=
  [("pending_initialized", .pendingInitialized), ("pending_queued", .pendingQueued),
   ("active_ongoing", .activeOngoing), ("active_exiting", .activeExiting),
   ("active_slashed", .activeSlashed), ("exited_unslashed", .exitedUnslashed),
   ("exited_slashed", .exitedSlashed), ("withdrawal_possible", .withdrawalPossible),
   ("withdrawal_done", .withdrawalDone)]

def decoder : Decoder ValidatorState := Decoder.variant named

def name : ValidatorState → String
  | .pendingInitialized => "pending_initialized"
  | .pendingQueued => "pending_queued"
  | .activeOngoing => "active_ongoing"
  | .activeExiting => "active_exiting"
  | .activeSlashed => "active_slashed"
  | .exitedUnslashed => "exited_unslashed"
  | .exitedSlashed => "exited_slashed"
  | .withdrawalPossible => "withdrawal_possible"
  | .withdrawalDone => "withdrawal_done"

end ValidatorState

namespace ValidatorStatus

def record : Record ValidatorStatus :=
  (Record.unit mk)
    |>.field "index" Decoder.word
    |>.field "status" ValidatorState.decoder
    |>.field "activationEpoch" Decoder.word
    |>.field "exitEpoch" Decoder.word

def decoder : Decoder ValidatorStatus := record.decoder "ValidatorStatus"

def toJson (status : ValidatorStatus) : Json :=
  .ofMembers [
    ("index", .ofWord status.index),
    ("status", .ofString status.state.name),
    ("activationEpoch", .ofWord status.activationEpoch),
    ("exitEpoch", .ofWord status.exitEpoch)]

end ValidatorStatus

namespace Snapshot

def record : Record Snapshot :=
  (Record.unit mk)
    |>.field "elBlockNumber" Decoder.word
    |>.field "beaconSlotNumber" Decoder.word
    |>.field "beaconConfig" BeaconConfig.decoder
    |>.field "networkDetails" NetworkDetails.decoder
    |>.field "nodeDetails" (Decoder.list NodeDetails.decoder)
    |>.field "minipoolDetails" (Decoder.list MinipoolDetails.decoder)
    |>.field "oracleDaoMemberDetails" (Decoder.list OracleMember.decoder)
    |>.field "validatorDetails" (Decoder.keyed ValidatorStatus.decoder)

def decoder : Decoder Snapshot := record.decoder "NetworkState"

def toJson (snapshot : Snapshot) : Json :=
  .ofMembers [
    ("elBlockNumber", .ofWord snapshot.executionBlock),
    ("beaconSlotNumber", .ofWord snapshot.beaconSlot),
    ("beaconConfig", snapshot.config.toJson),
    ("networkDetails", snapshot.network.toJson),
    ("nodeDetails", .ofList (snapshot.nodes.map NodeDetails.toJson)),
    ("minipoolDetails", .ofList (snapshot.minipools.map MinipoolDetails.toJson)),
    ("oracleDaoMemberDetails", .ofList (snapshot.oracleMembers.map OracleMember.toJson)),
    ("validatorDetails", Octets.mapToJson ValidatorStatus.toJson snapshot.validators)]

/-- Read a snapshot from the bytes of its JSON text. -/
def ofBytes (bytes : List UInt8) : Except Json.Fault Snapshot := Json.decodeBytes decoder bytes

end Snapshot

end PoolRewards
