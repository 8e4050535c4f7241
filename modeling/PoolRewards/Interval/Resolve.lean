/-
Where an interval starts.

It starts with the epoch after the previous interval's last slot, at the first slot that
has a block.  A chain that cannot show the previous interval's last block cannot be used.
-/
import PoolRewards.Interval.Bounds
import PoolRewards.Client

namespace PoolRewards

/-- The bounds of an interval, and the header of its first execution block. -/
structure ResolvedInterval where
  bounds : IntervalBounds
  startHeader : BlockHeader
  deriving DecidableEq, Repr

variable {m : Type → Type} [Monad m]

/-- Behind a slot fewer slots are left. -/
theorem nextSlot_fewer {slot last next : UInt64} (hle : ¬ last < slot) (hnext : Word.add slot 1 = .ok next) :
    last.toNat + 1 - next.toNat < last.toNat + 1 - slot.toNat := by
  rw [UInt64.lt_iff_toNat_lt] at hle
  rw [Word.toNat_of_add_one hnext]
  omega

/-- The first block from a slot on, if there is one.  The search is for slots `first` to `last`. -/
def firstBlock (consensus : ConsensusClient m) (first last slot : UInt64) :
    ExceptT Halt m (UInt64 × BeaconBlock) := do
  if hbehind : last < slot then
    throw (.error (.intervalStartNotFound first last))
  else
    match ← Halt.lookup s!"error getting EL data for BC slot {slot}" (consensus.block slot) with
    | some block => return (slot, block)
    | none =>
      match hnext : Word.add slot 1 with
      | .error fault => throw (.fault fault)
      | .ok next =>
        have := nextSlot_fewer hbehind hnext
        firstBlock consensus first last next
termination_by last.toNat + 1 - slot.toNat

/-- One round of the search, and the rest of it from the next slot on. -/
theorem firstBlock_eq [LawfulMonad m] (consensus : ConsensusClient m) (first last slot : UInt64) :
    firstBlock consensus first last slot =
      if last < slot then throw (.error (.intervalStartNotFound first last))
      else (do
        match ← Halt.lookup s!"error getting EL data for BC slot {slot}" (consensus.block slot) with
        | some block => return (slot, block)
        | none => firstBlock consensus first last (← Halt.arithmetic (Word.add slot 1))) := by
  rw [firstBlock]
  by_cases hbehind : last < slot
  · rw [dif_pos hbehind, if_pos hbehind]
  · rw [dif_neg hbehind, if_neg hbehind]
    refine bind_congr fun answer => ?_
    split
    next => rfl
    next =>
      split
      next hnext => rw [hnext, Halt.arithmetic_error_bind]
      next hnext => simp only [hnext, Halt.arithmetic_ok_bind]

/-- The bounds of the interval that follows `previous` and ends at `snapshotEnd`. -/
def resolveInterval (consensus : ConsensusClient m) (execution : ExecutionClient m) (config : BeaconConfig)
    (previous : RewardsEvent) (snapshotEnd : SnapshotEnd) : ExceptT Halt m ResolvedInterval := do
  let lastBlock ← Halt.lookup "error verifying block from previous interval"
    (consensus.block previous.consensusBlock)
  if lastBlock.isNone then
    throw (.error (.blockUnavailable previous.consensusBlock))
  let epoch ← Halt.arithmetic (config.epochOf previous.consensusBlock)
  let firstSlot ← Halt.arithmetic (config.firstSlotOf (← Halt.arithmetic (Word.add epoch 1)))
  let startTime ← Halt.arithmetic (config.slotTime firstSlot)
  let endTime ← Halt.arithmetic (config.slotTime snapshotEnd.slot)
  let lastSlot := snapshotEnd.consensusBlock
  let (slot, block) ← firstBlock consensus firstSlot lastSlot firstSlot
  -- Before the merge a slot has no execution block of its own.
  let start ← if block.executionBlock = 0 then Halt.arithmetic (Word.add previous.executionBlock 1)
    else pure block.executionBlock
  let startHeader ← Halt.lookup s!"error getting EL start block {start}" (execution.header start)
  return {
    bounds := {
      startTime
      endTime
      firstSlot := slot
      lastSlot
      firstBlock := start
      lastBlock := snapshotEnd.executionBlock }
    startHeader }

end PoolRewards
