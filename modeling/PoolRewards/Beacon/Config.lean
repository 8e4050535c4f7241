/-
Slots, epochs and the time of day on the beacon chain.
-/
import PoolRewards.Word

namespace PoolRewards

/-- What is needed to go between slots, epochs and times. -/
structure BeaconConfig where
  genesisTime : UInt64
  secondsPerSlot : UInt64
  slotsPerEpoch : UInt64
  deriving DecidableEq, Repr

/-- The epoch that stands for never. -/
def farEpoch : UInt64 := Word.last

namespace BeaconConfig

/-- The time at which a slot starts, in seconds. -/
def slotTime (config : BeaconConfig) (slot : UInt64) : Except Fault UInt64 := do
  Word.add config.genesisTime (← Word.mul slot config.secondsPerSlot)

/-- The epoch of a slot. -/
def epochOf (config : BeaconConfig) (slot : UInt64) : Except Fault UInt64 :=
  Word.div slot config.slotsPerEpoch

/-- The first slot of an epoch. -/
def firstSlotOf (config : BeaconConfig) (epoch : UInt64) : Except Fault UInt64 :=
  Word.mul epoch config.slotsPerEpoch

end BeaconConfig

end PoolRewards
