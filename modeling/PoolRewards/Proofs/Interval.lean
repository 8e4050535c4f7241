/-
Where an interval can start.

An interval starts with an epoch after the first one, and an epoch has slots or nothing can
be said of it; so whatever the clients answer, slot zero is in no interval.
-/
import PoolRewards.Interval.Resolve
import PoolRewards.Proofs.Answers

namespace PoolRewards

variable {m : Type → Type} [Monad m] [LawfulMonad m]

theorem BeaconConfig.one_le_firstSlotOf {config : BeaconConfig} {epoch slot : UInt64}
    (hslots : config.slotsPerEpoch ≠ 0) (hepoch : 1 ≤ epoch) (h : config.firstSlotOf epoch = .ok slot) :
    1 ≤ slot := by
  have hper : 0 < config.slotsPerEpoch.toNat := by
    rw [Nat.pos_iff_ne_zero]
    intro hzero
    exact hslots (UInt64.toNat_inj.mp hzero)
  rw [UInt64.le_iff_toNat_le, UInt64.toNat_one] at hepoch ⊢
  rw [Word.mul_eq_ok_iff.mp h]
  exact Nat.mul_pos hepoch hper

theorem Word.one_le_of_add {a b : UInt64} (h : Word.add a 1 = .ok b) : 1 ≤ b := by
  rw [UInt64.le_iff_toNat_le, Word.toNat_of_add_one h]
  exact Nat.le_add_left _ _

/-- The search for a block goes on to later slots alone. -/
theorem one_le_firstBlock (consensus : ConsensusClient m) (first last : UInt64) {slot : UInt64}
    (h : 1 ≤ slot) : Answers (fun found => 1 ≤ found.1) (firstBlock consensus first last slot) := by
  induction hleft : last.toNat + 1 - slot.toNat using Nat.strongRecOn generalizing slot with
  | ind left ih =>
    rw [firstBlock_eq]
    by_cases hbehind : last < slot
    · rw [if_pos hbehind]
      exact answers_throw _
    · rw [if_neg hbehind]
      refine Answers.bind (answers_true _) fun answer _ => ?_
      rcases answer with _ | block
      · refine Answers.bind (answers_arithmetic fun _ hnext => hnext) fun next hnext => ?_
        exact ih _ (hleft ▸ nextSlot_fewer hbehind hnext) (Word.one_le_of_add hnext) rfl
      · exact answers_pure h

/-- **No interval starts at slot zero.** -/
theorem one_le_resolveInterval (consensus : ConsensusClient m) (execution : ExecutionClient m)
    (config : BeaconConfig) (previous : RewardsEvent) (snapshotEnd : SnapshotEnd) :
    Answers (fun resolved => 1 ≤ resolved.bounds.firstSlot)
      (resolveInterval consensus execution config previous snapshotEnd) := by
  unfold resolveInterval
  refine Answers.bind (answers_true _) fun lastBlock _ => ?_
  dsimp only
  split
  · exact Answers.bind (p := fun _ => False) (answers_throw _) fun _ h => h.elim
  · refine Answers.bind (answers_arithmetic fun _ h => (Word.div_eq_ok_iff.mp h).1) fun epoch hslots => ?_
    refine Answers.bind (answers_arithmetic fun _ h => Word.one_le_of_add h) fun next hnext => ?_
    refine Answers.bind (answers_arithmetic fun _ h => config.one_le_firstSlotOf hslots hnext h) ?_
    intro firstSlot hfirst
    refine Answers.bind (answers_true _) fun startTime _ => ?_
    refine Answers.bind (answers_true _) fun endTime _ => ?_
    refine Answers.bind (one_le_firstBlock consensus firstSlot _ hfirst) fun found hfound => ?_
    split
    · refine Answers.bind (answers_true _) fun start _ => ?_
      exact Answers.bind (answers_true _) fun header _ => answers_pure hfound
    · refine Answers.bind (answers_true _) fun start _ => ?_
      exact Answers.bind (answers_true _) fun header _ => answers_pure hfound

end PoolRewards
