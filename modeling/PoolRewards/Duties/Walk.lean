/-
The walk over the epochs of an interval.

Each epoch's committees are taken in first, then the attestations that its blocks include,
and then what is past is dropped.  One epoch more is asked for its attestations alone,
since votes for the last epoch may be included in the next one.
-/
import PoolRewards.Duties.Tracker
import PoolRewards.Client

namespace PoolRewards.Tracker

variable {m : Type → Type} [Monad m]

/-- A computation on a tracker that also looks things up. -/
abbrev Walking (m : Type → Type) := ExceptT Halt (StateT Tracker m)

/-- Work on the tracker without looking anything up. -/
def work {α : Type} (step : Tracking α) : Walking m α :=
  .mk fun tracker =>
    let (result, tracker) := step.run.run tracker
    pure (result.mapError .fault, tracker)

/-- Do a step of arithmetic. -/
def calculate {α : Type} (result : Except Fault α) : Walking m α := .mk (pure (result.mapError .fault))

/-- Look something up, for the records of an epoch. -/
def ask {α : Type} (epoch : UInt64) (lookup : m (Except ClientError α)) : Walking m α :=
  .mk (StateT.lift
    (Halt.ofLookup s!"error getting committee and attestation records for epoch {epoch}" <$> lookup))

/-- The committees of an epoch, none if they are not wanted. -/
def askCommittees (client : ConsensusClient m) (epoch : UInt64) (withCommittees : Bool) :
    Walking m (List Committee) :=
  if withCommittees then ask epoch (client.committees epoch) else pure []

/-- The attestations that the blocks of `count` slots include, from `first + offset` on. -/
def askAttestations (client : ConsensusClient m) (epoch first : UInt64) :
    (count : Nat) → (offset : UInt64) → Walking m (List (List Attestation))
  | 0, _ => return []
  | count + 1, offset => do
    let slot ← calculate (Word.add first offset)
    let attestations ← ask epoch (client.attestations slot)
    return attestations.getD [] :: (← askAttestations client epoch first count (offset + 1))

/-- Take in one epoch, its committees only if they are wanted. -/
def walkEpoch (client : ConsensusClient m) (epoch : UInt64) (withCommittees : Bool) : Walking m Unit := do
  let config := (← get).config
  let first ← calculate (config.firstSlotOf epoch)
  let committees ← askCommittees client epoch withCommittees
  let attestations ← askAttestations client epoch first config.slotsPerEpoch.toNat 0
  work (record committees)
  work (checkAll attestations)
  work (prune epoch)

/-- Take in `count` epochs from `epoch` on. -/
def walkEpochs (client : ConsensusClient m) : (count : Nat) → (epoch : UInt64) → Walking m Unit
  | 0, _ => return
  | count + 1, epoch => do
    walkEpoch client epoch true
    walkEpochs client count (epoch + 1)

/-- Take in every epoch of the interval and the attestations of the next one. -/
def walk (client : ConsensusClient m) : Walking m AttestationTotals := do
  let tracker ← get
  let first ← calculate (tracker.config.epochOf tracker.bounds.firstSlot)
  let last ← calculate (tracker.config.epochOf tracker.bounds.lastSlot)
  walkEpochs client (last.toNat + 1 - first.toNat) first
  let next ← calculate (Word.add last 1)
  walkEpoch client next false
  return (← get).totals

end PoolRewards.Tracker
