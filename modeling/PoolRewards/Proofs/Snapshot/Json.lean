/-
Snapshots are read back from their texts.

Every part of a snapshot is plain and read back from the object that it is written as: the
statuses from their names, the lists item by item and the validators by their keys.
-/
import PoolRewards.Snapshot.Json
import PoolRewards.Proofs.Json.Reading

namespace PoolRewards

open Json Decoder

variable {room : Nat}

theorem BeaconConfig.recovers (config : BeaconConfig) :
    decoder.Recovers (room + 1) config.toJson config :=
  ((Record.recovers_unit mk)
    |>.field "genesisTime" (recovers_word _)
    |>.field "secondsPerSlot" (recovers_word _)
    |>.field "slotsPerEpoch" (recovers_word _)).decoder (by decide) (by decide) "BeaconConfig"

theorem NetworkDetails.recovers (network : NetworkDetails) :
    decoder.Recovers (room + 1) network.toJson network :=
  ((Record.recovers_unit mk)
    |>.field "rewardIndex" (recovers_word _)
    |>.field "intervalDuration" (recovers_word _)
    |>.field "pendingRplRewards" (recovers_amount _)
    |>.field "protocolDaoRewardsPercent" (recovers_amount _)
    |>.field "nodeOperatorRewardsPercent" (recovers_amount _)
    |>.field "trustedNodeOperatorRewardsPercent" (recovers_amount _)
    |>.field "smoothingPoolBalance" (recovers_amount _)).decoder (by decide) (by decide) "NetworkDetails"

theorem NodeDetails.recovers (node : NodeDetails) : decoder.Recovers (room + 1) node.toJson node :=
  ((Record.recovers_unit mk)
    |>.field "nodeAddress" (recovers_octets _)
    |>.field "rewardNetwork" (recovers_word _)
    |>.field "smoothingPoolRegistrationState" (recovers_bool _)
    |>.field "smoothingPoolRegistrationChanged" (recovers_word _)
    |>.field "effectiveRplStake" (recovers_amount _)
    |>.field "nodeWeight" (recovers_amount _)).decoder (by decide) (by decide) "NodeDetails"

theorem MinipoolStatus.recovers (status : MinipoolStatus) :
    decoder.Recovers room (.ofString status.name) status :=
  recovers_variant (by cases status <;> rfl)

theorem MinipoolDetails.recovers (minipool : MinipoolDetails) :
    decoder.Recovers (room + 1) minipool.toJson minipool :=
  ((Record.recovers_unit mk)
    |>.field "minipoolAddress" (recovers_octets _)
    |>.field "nodeAddress" (recovers_octets _)
    |>.field "pubkey" (recovers_octets _)
    |>.field "exists" (recovers_bool _)
    |>.field "status" minipool.status.recovers
    |>.field "statusTime" (recovers_word _)
    |>.field "penaltyCount" (recovers_word _)
    |>.field "nodeFee" (recovers_amount _)
    |>.field "nodeDepositBalance" (recovers_amount _)
    |>.field "lastBondReductionTime" (recovers_word _)
    |>.field "lastBondReductionPrevValue" (recovers_amount _)
    |>.field "lastBondReductionPrevNodeFee" (recovers_amount _)).decoder
      (by decide) (by decide) "MinipoolDetails"

theorem OracleMember.recovers (member : OracleMember) :
    decoder.Recovers (room + 1) member.toJson member :=
  ((Record.recovers_unit mk)
    |>.field "address" (recovers_octets _)
    |>.field "joinedTime" (recovers_word _)).decoder (by decide) (by decide) "OracleDaoMemberDetails"

theorem ValidatorState.recovers (state : ValidatorState) :
    decoder.Recovers room (.ofString state.name) state :=
  recovers_variant (by cases state <;> rfl)

theorem ValidatorStatus.recovers (status : ValidatorStatus) :
    decoder.Recovers (room + 1) status.toJson status :=
  ((Record.recovers_unit mk)
    |>.field "index" (recovers_word _)
    |>.field "status" status.state.recovers
    |>.field "activationEpoch" (recovers_word _)
    |>.field "exitEpoch" (recovers_word _)).decoder (by decide) (by decide) "ValidatorStatus"

theorem Snapshot.recovers (snapshot : Snapshot) : decoder.Recovers deepest snapshot.toJson snapshot :=
  ((Record.recovers_unit mk)
    |>.field "elBlockNumber" (recovers_word _)
    |>.field "beaconSlotNumber" (recovers_word _)
    |>.field "beaconConfig" snapshot.config.recovers
    |>.field "networkDetails" snapshot.network.recovers
    |>.field "nodeDetails" (recovers_list fun node _ => node.recovers)
    |>.field "minipoolDetails" (recovers_list fun minipool _ => minipool.recovers)
    |>.field "oracleDaoMemberDetails" (recovers_list fun member _ => member.recovers)
    |>.field "validatorDetails" (recovers_keyed fun entry _ => entry.2.recovers)).decoder
      (by decide) (by decide) "NetworkState"

end PoolRewards
