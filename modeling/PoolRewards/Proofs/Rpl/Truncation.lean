/-
What truncation takes from the collateral rewards.

The reconciliation of a total allows for one unit for each row of nodes or of minipools.  A
division loses less than one unit, so the allowance is enough as long as a node's reward
takes one division, which it does up to interval 17.  From then on a reward is the sum of
two quotients, and two nodes can lose three units between them: the allowance is enough
only for a single node, or where there are nearly twice as many minipools as nodes.
-/
import PoolRewards.Proofs.Rpl.Conservation

namespace PoolRewards

open Ledger

variable {snapshot : Snapshot} {ledger after : Ledger} {time : UInt64} {enabled : Std.ExtTreeSet UInt64}

namespace Snapshot

/-- Every node has a stake and a weight. -/
def AllEarn (snapshot : Snapshot) : Prop :=
  ∀ node ∈ snapshot.nodes, node.effectiveStake ≠ 0 ∧ node.weight ≠ 0

/-- How many divisions the reward of a node takes. -/
def divisions (snapshot : Snapshot) : Nat := if snapshot.sixths = 6 then 1 else 2

theorem divisions_le (snapshot : Snapshot) : snapshot.divisions ≤ 2 := by
  unfold divisions
  split <;> omega

theorem divisions_of_early (h : snapshot.network.rewardIndex ≤ 17) : snapshot.divisions = 1 := by
  have hindex : snapshot.network.rewardIndex.toNat ≤ 17 := UInt64.le_iff_toNat_le.mp h
  have hsixths : snapshot.sixths = 6 := by
    rw [sixths, toNat_weightSixths]
    omega
  rw [divisions, if_pos hsixths]

/-! ### The loss

A node without a stake or a weight gets nothing, and the part that would be its own is lost
to no division.  Where every node has both, the loss is less than one unit for each
division, and there are one or two of these a node.
-/

theorem AllEarn.sum_rewardOf (h : snapshot.AllEarn) :
    (snapshot.nodes.map snapshot.rewardOf).sum =
      (snapshot.nodes.map snapshot.partByWeight).sum + (snapshot.nodes.map snapshot.partByStake).sum := by
  rw [← List.sum_map_add]
  congr 1
  refine List.map_congr_left ?_
  intro node hmem
  have hearns : ¬ (node.effectiveStake = 0 ∨ node.weight = 0) := by
    rintro (hzero | hzero)
    · exact (h node hmem).1 hzero
    · exact (h node hmem).2 hzero
  rw [rewardOf, if_neg hearns]

/-- **The rewards lose less than one unit of the pool for each division.** -/
theorem RplFits.collateralPool_lt (h : snapshot.RplFits) (hearn : snapshot.AllEarn)
    (hstakes : 0 < snapshot.totalStake.toNat) (hweights : 0 < snapshot.totalWeight.toNat) :
    snapshot.collateralPool.toNat <
      (snapshot.nodes.map snapshot.rewardOf).sum + snapshot.divisions * snapshot.nodes.length := by
  have hpool := snapshot.sixths_add snapshot.collateralPool.toNat
  have hbyWeight := (h.collateralFits.sum_partByWeight hweights).2
  have hbyStake := (h.collateralFits.sum_partByStake hstakes).2
  rw [hearn.sum_rewardOf]
  unfold divisions
  by_cases hsixths : snapshot.sixths = 6
  · rw [if_pos hsixths, Nat.one_mul]
    rw [hsixths] at hbyWeight
    omega
  · rw [if_neg hsixths]
    omega

theorem AllEarn.length_le (h : snapshot.AllEarn) :
    snapshot.nodes.length ≤ (snapshot.nodes.map (·.effectiveStake.toNat)).sum := by
  have hlength := List.length_le_sum_of_one_le (snapshot.nodes.map (·.effectiveStake.toNat)) ?_
  · rwa [List.length_map] at hlength
  · intro n hn
    obtain ⟨node, hmem, rfl⟩ := List.mem_map.mp hn
    exact Amount.toNat_pos (h node hmem).1

theorem AllEarn.stakes_pos (h : snapshot.AllEarn) (hfits : snapshot.RplFits) (hnodes : snapshot.nodes ≠ []) :
    0 < snapshot.totalStake.toNat := by
  obtain ⟨node, hmem⟩ := List.exists_mem_of_ne_nil _ hnodes
  rw [hfits.collateralFits.toNat_totalStake]
  exact (Amount.toNat_pos (h node hmem).1).trans_le (le_sum_map (·.effectiveStake.toNat) hmem)

theorem AllEarn.weights_pos (h : snapshot.AllEarn) (hfits : snapshot.RplFits) (hnodes : snapshot.nodes ≠ []) :
    0 < snapshot.totalWeight.toNat := by
  obtain ⟨node, hmem⟩ := List.exists_mem_of_ne_nil _ hnodes
  rw [hfits.collateralFits.toNat_totalWeight]
  exact (Amount.toNat_pos (h node hmem).2).trans_le (le_sum_map (·.weight.toNat) hmem)

theorem RplFits.exists_collateral (h : snapshot.RplFits) (hearn : snapshot.AllEarn)
    (hnodes : snapshot.nodes ≠ [])
    (hbudget : snapshot.divisions * snapshot.nodes.length ≤ snapshot.tolerance.toNat + 1)
    (enabled : Std.ExtTreeSet UInt64) :
    ∃ total after, (allocateCollateral snapshot).run.run (new enabled) = (.ok total, after) := by
  have hstakes := hearn.stakes_pos h hnodes
  have hweights := hearn.weights_pos h hnodes
  have hle := h.collateralFits.sum_rewardOf_le hstakes hweights
  have hlt := h.collateralPool_lt hearn hstakes hweights
  have htotal : (BitVec.ofNat 256 (snapshot.nodes.map snapshot.rewardOf).sum : Amount).toNat =
      (snapshot.nodes.map snapshot.rewardOf).sum := by
    rw [BitVec.toNat_ofNat, Nat.mod_eq_of_lt (hle.trans_lt snapshot.collateralPool.isLt)]
  have haccepted : ¬ ∃ error, reconcile "collateral RPL"
      (BitVec.ofNat 256 (snapshot.nodes.map snapshot.rewardOf).sum) snapshot.collateralPool
        snapshot.tolerance = .error error := by
    rw [reconcile_of_le (BitVec.le_def.mpr (htotal.trans_le hle)) (by omega)]
    simp
  obtain ⟨total, after, hrun, -⟩ := (h.allocateCollateral_ends hstakes hweights enabled).exists_ok haccepted
  exact ⟨total, after, hrun⟩

end Snapshot

/-! ### The reconciliation

The allowance is the larger of the number of nodes and the number of minipools.  An overrun
is found under the name of its own part only, so a rejection for collateral is one of the
collateral part.
-/

theorem overrun_of_makeCredits {credits : List Credit} {bucket : Bucket} {name : String}
    {expected tolerance : Amount} {stop : Halt}
    (h : (makeCredits credits bucket name expected tolerance).run.run ledger = (.error stop, after)) :
    ∃ calculated delta, stop = .error (.overrun name calculated expected delta tolerance) := by
  rw [run_makeCredits] at h
  rcases hreconcile : reconcile name ((ledger.creditAll credits).total bucket) expected tolerance
    with error | delta
  · rw [hreconcile] at h
    cases h
    obtain ⟨delta, rfl⟩ := overrun_of_reconcile hreconcile
    exact ⟨_, delta, rfl⟩
  · rw [hreconcile] at h
    cases h

theorem overrun_of_allocateOracleDao {stop : Halt}
    (h : (allocateOracleDao snapshot time).run.run ledger = (.error stop, after)) :
    ∃ calculated expected delta tolerance,
      stop = .error (.overrun "Oracle DAO RPL" calculated expected delta tolerance) := by
  unfold allocateOracleDao at h
  by_cases hsome : snapshot.totalParticipation time = 0
  · rw [if_pos hsome] at h
    cases h
  · rw [if_neg hsome] at h
    obtain ⟨calculated, delta, rfl⟩ := overrun_of_makeCredits h
    exact ⟨calculated, _, delta, _, rfl⟩

/-- **The collateral rewards are not rejected** up to interval 17, nor where the tolerance allows for
two units for each node but one. -/
theorem allocateRpl_ne_collateralOverrun (h : snapshot.RplFits) (hearn : snapshot.AllEarn)
    (hnodes : snapshot.nodes ≠ []) (hrows : snapshot.minipools.length < UInt64.size)
    (hbudget : snapshot.network.rewardIndex ≤ 17 ∨
      2 * snapshot.nodes.length ≤ max snapshot.nodes.length snapshot.minipools.length + 1)
    (calculated expected delta tolerance : Amount) :
    ((allocateRpl snapshot time).run.run (new enabled)).1 ≠
      .error (.error (.overrun "collateral RPL" calculated expected delta tolerance)) := by
  have hfew := hearn.length_le.trans_lt h.stakes
  have hsize : UInt64.size = 2 ^ 64 := rfl
  have htolerance : snapshot.tolerance.toNat = max snapshot.nodes.length snapshot.minipools.length := by
    rw [Snapshot.tolerance, BitVec.toNat_ofNat, Nat.mod_eq_of_lt (by omega)]
  have hallowed : snapshot.divisions * snapshot.nodes.length ≤ snapshot.tolerance.toNat + 1 := by
    rw [htolerance]
    rcases hbudget with hearly | hroom
    · rw [Snapshot.divisions_of_early hearly]
      omega
    · exact (Nat.mul_le_mul_right _ snapshot.divisions_le).trans hroom
  obtain ⟨total, mid, hcollateral⟩ := h.exists_collateral hearn hnodes hallowed enabled
  have hshared : snapshot.totalStake ≠ 0 ∧ snapshot.totalWeight ≠ 0 := by
    have hstakes := hearn.stakes_pos h hnodes
    have hweights := hearn.weights_pos h hnodes
    refine ⟨?_, ?_⟩
    · intro hzero
      rw [hzero] at hstakes
      cases hstakes
    · intro hzero
      rw [hzero] at hweights
      cases hweights
  unfold allocateRpl
  dsimp only
  by_cases hpending : snapshot.network.pendingRpl = 0
  · rw [if_pos hpending]
    intro hstop
    cases hstop
  · rw [if_neg hpending, if_pos hshared, run_bind, hcollateral]
    dsimp only
    rw [run_bind]
    rcases horacle : (allocateOracleDao snapshot time).run.run mid with ⟨stop | oracleDao, last⟩
    · obtain ⟨_, _, _, _, rfl⟩ := overrun_of_allocateOracleDao horacle
      simp
    · intro hstop
      cases hstop

theorem allEarn_equalNodes (interval : UInt64) (pending : Amount) : (equalNodes interval pending).AllEarn := by
  intro node hmem
  rcases List.mem_pair.mp hmem with rfl | rfl <;> decide

/-- Up to interval 17 two nodes lose one unit of eleven, and the split has its result. -/
theorem allocateRpl_ne_collateralOverrun_equalNodes :
    (equalNodes 17 16).RplFits ∧ (equalNodes 17 16).AllEarn ∧ (equalNodes 17 16).nodes ≠ [] ∧
      (∀ calculated expected delta tolerance : Amount,
        ((allocateRpl (equalNodes 17 16) 48).run.run (new ∅)).1 ≠
          .error (.error (.overrun "collateral RPL" calculated expected delta tolerance))) ∧
      ((allocateRpl (equalNodes 17 16) 48).run.run (new ∅)).1 = .ok ⟨4, 10, 2, 2⟩ := by
  have hfits := rplFits_equalNodes 17 16 (by decide)
  have hearn := allEarn_equalNodes 17 16
  have hnodes : (equalNodes 17 16).nodes ≠ [] := by simp [equalNodes]
  exact ⟨hfits, hearn, hnodes, allocateRpl_ne_collateralOverrun hfits hearn hnodes (by decide)
    (Or.inl (by decide)), by decide +kernel⟩

/-! ### From interval 18 on

The interval enters a reward through the sixths alone.  Those of all intervals from 18 on
are five cases, and for each of them the example is worked out.
-/

/-- The interval matters to a reward only for the sixths that go by weight. -/
theorem collateralReward_congr {interval interval' : UInt64} (h : weightSixths interval = weightSixths interval')
    (pool stake totalStake weight totalWeight : Amount) :
    collateralReward pool stake totalStake weight totalWeight interval =
      collateralReward pool stake totalStake weight totalWeight interval' := by
  unfold collateralReward
  rw [h]

theorem allocateRpl_equalNodes_congr {interval interval' : UInt64}
    (h : weightSixths interval = weightSixths interval') (pending : Amount) :
    allocateRpl (equalNodes interval pending) time = allocateRpl (equalNodes interval' pending) time := by
  have hreward : (equalNodes interval pending).collateralRewardOf =
      (equalNodes interval' pending).collateralRewardOf := by
    funext node
    exact collateralReward_congr h _ _ _ _ _
  have hcredits : (equalNodes interval pending).collateralCredits =
      (equalNodes interval' pending).collateralCredits := by
    show (equalNodes interval pending).collateralCreditsOf (equalNodes interval pending).nodes =
      (equalNodes interval' pending).collateralCreditsOf (equalNodes interval pending).nodes
    induction (equalNodes interval pending).nodes with
    | nil => rfl
    | cons node rest ih => rw [Snapshot.collateralCreditsOf, Snapshot.collateralCreditsOf, hreward, ih]
  unfold allocateRpl allocateCollateral
  rw [hcredits]
  rfl

/-- **From interval 18 on, two nodes are enough to be rejected**: of eleven units the quotients leave
three, and the tolerance is two. -/
theorem rejected_equalNodes {interval : UInt64} (h : 17 < interval) :
    ((allocateRpl (equalNodes interval 16) 48).run.run (new ∅)).1 =
      .error (.error (.overrun "collateral RPL" 8 11 3 2)) := by
  have hlate : 17 < interval.toNat := UInt64.lt_iff_toNat_lt.mp h
  have hsixths := toNat_weightSixths interval
  have hcases : (weightSixths interval).toNat = 5 ∨ (weightSixths interval).toNat = 4 ∨
      (weightSixths interval).toNat = 3 ∨ (weightSixths interval).toNat = 2 ∨
      (weightSixths interval).toNat = 1 := by omega
  have hsame : ∀ late : UInt64, (weightSixths interval).toNat = (weightSixths late).toNat →
      ((allocateRpl (equalNodes late 16) 48).run.run (new ∅)).1 =
        .error (.error (.overrun "collateral RPL" 8 11 3 2)) →
      ((allocateRpl (equalNodes interval 16) 48).run.run (new ∅)).1 =
        .error (.error (.overrun "collateral RPL" 8 11 3 2)) := by
    intro late hlate hrun
    rw [allocateRpl_equalNodes_congr (UInt64.toNat_inj.mp hlate)]
    exact hrun
  -- The sixths of any later interval are those of one of the first five.
  rcases hcases with h | h | h | h | h
  · exact hsame 18 h (by decide +kernel)
  · exact hsame 19 h (by decide +kernel)
  · exact hsame 20 h (by decide +kernel)
  · exact hsame 21 h (by decide +kernel)
  · exact hsame 22 h (by decide +kernel)

theorem collateralOverrun_equalNodes :
    (equalNodes 20 16).RplFits ∧ (equalNodes 20 16).AllEarn ∧ (equalNodes 20 16).nodes ≠ [] ∧
      ((equalNodes 20 16).nodes.map (·.address)).Nodup ∧
      ((allocateRpl (equalNodes 20 16) 48).run.run (new ∅)).1 =
        .error (.error (.overrun "collateral RPL" 8 11 3 2)) :=
  ⟨rplFits_equalNodes 20 16 (by decide), allEarn_equalNodes 20 16, by simp [equalNodes], by decide,
    rejected_equalNodes (by decide)⟩

end PoolRewards
