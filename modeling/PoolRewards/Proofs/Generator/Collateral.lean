/-
What the nodes get for their collateral.

Where no amount wraps, a node has on record what the formula gives it in natural numbers:
its part of the sixths of the pool that go by weight and of those that go by stake, each
rounded down.  How many sixths go by weight is told by an interval, and that is the one that
the snapshot says is due next.  The file is that of the interval that was asked for.  So the
formula is that of the file's own interval only as long as the two have the same sixths.
-/
import PoolRewards.Proofs.Generator.Records
import PoolRewards.Proofs.Generator.Steps
import PoolRewards.Proofs.Rpl.Rewards

namespace PoolRewards

open Ledger

/-- How many sixths of the rewards go by weight in an interval: one less with each interval behind
the seventeenth, at least one and at most six. -/
def phaseOut (interval : UInt64) : Nat := (max 1 (min 6 (6 - ((interval.toNat : Int) - 17)))).toNat

/-- What the formula gives a node in an interval. -/
def Snapshot.blend (snapshot : Snapshot) (interval : UInt64) (node : NodeDetails) : Nat :=
  let pool := snapshot.dueFor snapshot.network.nodeOperatorShare
  let stakes := (snapshot.nodes.map (·.effectiveStake.toNat)).sum
  let weights := (snapshot.nodes.map (·.weight.toNat)).sum
  if node.effectiveStake = 0 ∨ node.weight = 0 ∨ stakes = 0 ∨ weights = 0 then 0
  else pool * phaseOut interval * node.weight.toNat / (6 * weights) +
    pool * (6 - phaseOut interval) * node.effectiveStake.toNat / (6 * stakes)

/-- Every node has on record what the formula gives it in an interval. -/
def RewardsFile.Blends (file : RewardsFile) (snapshot : Snapshot) (interval : UInt64) : Prop :=
  ∀ node ∈ snapshot.nodes, (file.amountOf node.address .collateralRpl).toNat = snapshot.blend interval node

variable {request : Request} {snapshot : Snapshot} {bounds : IntervalBounds} {time : UInt64}
  {rpl : RplAllocation} {eth : EthOutcome} {ledger : Ledger} {node : NodeDetails}
  {enabled : Std.ExtTreeSet UInt64}

/-! ### The formula

What is credited to a node for its collateral is one credit at most, as no two rows have its
address.  With a stake and a weight among the nodes that credit is the node's reward, and
without them there is none.
-/

theorem phaseOut_eq (interval : UInt64) : phaseOut interval = (weightSixths interval).toNat := by
  rw [toNat_weightSixths, phaseOut]
  omega

theorem Snapshot.blend_congr {interval interval' : UInt64} (h : phaseOut interval = phaseOut interval') :
    snapshot.blend interval = snapshot.blend interval' := by
  funext node
  unfold Snapshot.blend
  rw [h]

theorem Snapshot.CollateralFits.rewardOf_eq (h : snapshot.CollateralFits)
    (hstakes : 0 < snapshot.totalStake.toNat) (hweights : 0 < snapshot.totalWeight.toNat) (node : NodeDetails) :
    snapshot.rewardOf node = snapshot.blend snapshot.network.rewardIndex node := by
  rw [h.toNat_totalStake] at hstakes
  rw [h.toNat_totalWeight] at hweights
  unfold rewardOf blend partByWeight partByStake sixths
  dsimp only
  rw [h.toNat_collateralPool, h.toNat_totalStake, h.toNat_totalWeight, phaseOut_eq, Nat.mul_comm 6,
    Nat.mul_comm 6]
  simp only [Nat.pos_iff_ne_zero.mp hstakes, Nat.pos_iff_ne_zero.mp hweights, or_false]

/-- **What is credited to a node for its collateral is what the formula gives it.** -/
theorem Snapshot.CollateralFits.toNat_credited (h : snapshot.CollateralFits)
    (hnodes : (snapshot.nodes.map (·.address)).Nodup) {collateral oracle : List Credit}
    (hcredits : snapshot.RplCredits time collateral oracle) (hmem : node ∈ snapshot.nodes) :
    (credited (collateral.filter (·.node = node.address)) .collateralRpl).toNat =
      snapshot.blend snapshot.network.rewardIndex node := by
  have hcollateral := hcredits.collateral
  split at hcollateral
  · next hshared =>
    have hstakes := Amount.toNat_pos hshared.1
    have hweights := Amount.toNat_pos hshared.2
    have hreward : ∀ node ∈ snapshot.nodes,
        snapshot.collateralRewardOf node = .ok (BitVec.ofNat 256 (snapshot.rewardOf node)) :=
      fun _ hmem => h.collateralRewardOf hstakes hweights hmem
    obtain ⟨credits, hmade, hsum⟩ := exists_collateralCreditsOf hreward
    rw [collateralCredits, hmade] at hcollateral
    cases hcollateral
    have hle : snapshot.rewardOf node ≤ snapshot.collateralPool.toNat :=
      (le_sum_map snapshot.rewardOf hmem).trans (h.sum_rewardOf_le hstakes hweights)
    rw [credited_filter_eq_sum (bucket_of_mem_collateralCreditsOf hmade),
      hsum fun address => decide (address = node.address),
      filter_key_eq_singleton (·.address) hnodes hmem, List.map_singleton, List.sum_singleton,
      BitVec.toNat_ofNat, Nat.mod_eq_of_lt (hle.trans_lt snapshot.collateralPool.isLt)]
    exact h.rewardOf_eq hstakes hweights node
  · next hshared =>
    -- Without any stake or any weight nothing is credited.
    have hnone : (snapshot.nodes.map (·.effectiveStake.toNat)).sum = 0 ∨
        (snapshot.nodes.map (·.weight.toNat)).sum = 0 := by
      rw [not_and_or, not_not, not_not] at hshared
      rw [← h.toNat_totalStake, ← h.toNat_totalWeight]
      rcases hshared with hstakes | hweights
      · exact Or.inl (congrArg BitVec.toNat hstakes)
      · exact Or.inr (congrArg BitVec.toNat hweights)
    subst hcollateral
    exact (if_pos (Or.inr (Or.inr hnone))).symm

/-! ### The file

The credits are followed through the ledger and the tree to the record.  The interval that
the formula takes its sixths from comes with the snapshot, and the one that the file is for
comes with the request; nothing ties the two together.
-/

/-- **The file has on record what the formula gives the nodes in the interval that is due next.** -/
theorem RewardsFile.blends_withTree {hash : List UInt8 → Digest} {file : RewardsFile}
    (h : request.snapshot.CollateralFits) (hnodes : (request.snapshot.nodes.map (·.address)).Nodup)
    (hsplit : request.snapshot.SplitOver time (new enabled) ledger) (hpaid : eth.Paid request)
    (hfile : (request.rewardsFile bounds rpl eth (ledger.creditAll eth.credits)).withTree hash = .ok file) :
    file.Blends request.snapshot request.snapshot.network.rewardIndex := by
  intro node hmem
  obtain ⟨collateral, oracle, hcredits, rfl⟩ := hsplit
  have horacle : ∀ credit ∈ oracle, credit.bucket ≠ .collateralRpl := by
    rw [hcredits.oracle]
    intro credit hmem
    split at hmem
    · cases hmem
    · rw [bucket_of_mem_oracleCredits hmem]
      decide
  have hether : ∀ credit ∈ eth.credits, credit.bucket ≠ .collateralRpl := by
    intro credit hmem
    rw [hpaid.bucket credit hmem]
    decide
  rw [amountOf_withTree hfile, rewardsOf_creditAll, rewardsOf_creditAll, rewardsOf_creditAll,
    (untouched_new enabled .collateralRpl).rewardsOf, credited_filter_eq_zero horacle,
    credited_filter_eq_zero hether, add_zero, add_zero, zero_add]
  exact h.toNat_credited hnodes hcredits hmem

/-- **Whatever interval is asked for, the formula is that of the interval that is due next.** -/
theorem Request.blends_of_generate {m : Type → Type} [Monad m] [LawfulMonad m] (request : Request)
    (consensus : ConsensusClient m) (execution : ExecutionClient m)
    (hnodes : (request.snapshot.nodes.map (·.address)).Nodup) (hfits : request.snapshot.CollateralFits) :
    Answers (fun generated => generated.rewards.index = request.index ∧
        generated.rewards.Blends request.snapshot request.snapshot.network.rewardIndex)
      (request.generate consensus execution) := by
  refine request.answers_generate consensus.tells_anything (answers_true _) ?_
  intro enabled bounds rpl ledger eth file _ _ hrpl heth hfile
  have hsplit := (allocateRpl_leaves request.snapshot request.header.timestamp (new enabled)).post_of_ok hrpl
  refine ⟨?_, RewardsFile.blends_withTree hfits hnodes hsplit heth.paid hfile⟩
  obtain ⟨tree, -, rfl⟩ := RewardsFile.withTree_eq_ok_iff.mp hfile
  rfl

/-- **The file has on record what the formula gives the nodes in its own interval**, if that has the
sixths of the interval that is due next. -/
theorem generate_blends {m : Type → Type} [Monad m] [LawfulMonad m] (request : Request)
    (consensus : ConsensusClient m) (execution : ExecutionClient m)
    (hnodes : (request.snapshot.nodes.map (·.address)).Nodup) (hfits : request.snapshot.CollateralFits)
    (hsame : phaseOut request.index = phaseOut request.snapshot.network.rewardIndex) :
    Answers (fun generated => generated.rewards.Blends request.snapshot generated.rewards.index)
      (request.generate consensus execution) := by
  refine (request.blends_of_generate consensus execution hnodes hfits).mono ?_
  intro generated h node hmem
  obtain ⟨hindex, hblends⟩ := h
  rw [hindex, Snapshot.blend_congr hsame]
  exact hblends node hmem

/-! ### Interval 20

Both requests are for interval 20.  In the first one the snapshot says so too, and in the
second it says 21, which has one sixth less for the weights.
-/

/-- The rewards of interval 20, asked for when interval `due` is due next. -/
def twentieth (due : UInt64) : Request :=
  { secondInterval with
    index := 20
    previous := some ⟨19, 1, 1, 1⟩
    snapshot := { twoNodes with network := { twoNodes.network with rewardIndex := due } } }

theorem collateralFits_twentieth (due : UInt64) : (twentieth due).snapshot.CollateralFits where
  pending := (by decide : twoNodes.network.pendingRpl.toNat < 2 ^ 120)
  stakes := (by decide : (twoNodes.nodes.map (·.effectiveStake.toNat)).sum < 2 ^ 120)
  weights := (by decide : (twoNodes.nodes.map (·.weight.toNat)).sum < 2 ^ 120)
  share := (by decide : twoNodes.network.nodeOperatorShare.toNat ≤ Amount.oneEther.toNat)

theorem exists_generated_twentieth {due : UInt64} (h : due = 20 ∨ due = 21) :
    ∃ generated, Returns ((twentieth due).generate twoCommittees openNetworks) generated := by
  have henabled : Returns (enabledNetworks openNetworks (twentieth due).snapshot (twentieth due).header.number)
      ((∅ : Std.ExtTreeSet UInt64).insert defaultNetwork) := rfl
  have heth : (Id.run ((twentieth due).earnEth twoCommittees secondEpoch).run).isOk = true := by
    rcases h with rfl | rfl <;> decide +kernel
  obtain ⟨generated, -, hgenerated, -⟩ := exists_generated_of
    ((∅ : Std.ExtTreeSet UInt64).insert defaultNetwork) secondEpoch 1 henabled
    (by rcases h with rfl | rfl <;> decide +kernel) (by rcases h with rfl | rfl <;> decide +kernel)
    (by rcases h with rfl | rfl <;> decide +kernel) heth
  exact ⟨generated, hgenerated⟩

theorem generate_blends_twentieth :
    ((twentieth 20).snapshot.nodes.map (·.address)).Nodup ∧ (twentieth 20).snapshot.CollateralFits ∧
      phaseOut (twentieth 20).index = phaseOut (twentieth 20).snapshot.network.rewardIndex ∧
      ∃ generated, Id.run ((twentieth 20).generate twoCommittees openNetworks).run = .ok generated ∧
        generated.rewards.Blends (twentieth 20).snapshot generated.rewards.index := by
  have hnodes : ((twentieth 20).snapshot.nodes.map (·.address)).Nodup := by decide
  have hfits := collateralFits_twentieth 20
  obtain ⟨generated, hgenerated⟩ := exists_generated_twentieth (Or.inl rfl)
  exact ⟨hnodes, hfits, rfl, generated, hgenerated, always_id.mp
    (generate_blends (twentieth 20) twoCommittees openNetworks hnodes hfits rfl) generated hgenerated⟩

/-- When the next interval is due, the nodes get what the formula gives them in that. -/
theorem not_blends_twentieth :
    ((twentieth 21).snapshot.nodes.map (·.address)).Nodup ∧ (twentieth 21).snapshot.CollateralFits ∧
      ∃ generated, Id.run ((twentieth 21).generate twoCommittees openNetworks).run = .ok generated ∧
        generated.rewards.index = 20 ∧ ¬ generated.rewards.Blends (twentieth 21).snapshot 20 := by
  have hnodes : ((twentieth 21).snapshot.nodes.map (·.address)).Nodup := by decide
  have hfits := collateralFits_twentieth 21
  obtain ⟨generated, hgenerated⟩ := exists_generated_twentieth (Or.inr rfl)
  obtain ⟨hindex, hblends⟩ := always_id.mp
    ((twentieth 21).blends_of_generate twoCommittees openNetworks hnodes hfits) generated hgenerated
  refine ⟨hnodes, hfits, generated, hgenerated, hindex, ?_⟩
  intro hwanted
  -- The first node has three quarters of the stake, and gets more the more goes by stake.
  have hmem : (⟨1, 0, true, 0, 3, 1⟩ : NodeDetails) ∈ (twentieth 21).snapshot.nodes := List.mem_cons_self
  have hsame := (hwanted _ hmem).symm.trans (hblends _ hmem)
  exact absurd hsame (by decide +kernel)

end PoolRewards
