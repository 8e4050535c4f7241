/-
No RPL is lost or made.

What the nodes get for their collateral comes to at most their pool, and what the oracle
members get to at most theirs: every share is rounded down, and the totals that are read off
the ledger are the sums of the shares.  The three fractions are at most one whole, so the
treasury keeps at least its own, and taking the other two off what is pending never wraps.
-/
import PoolRewards.Proofs.Ledger.Allocation
import PoolRewards.Proofs.Rpl.Rewards

namespace PoolRewards

open Ledger

variable {snapshot : Snapshot} {ledger : Ledger} {time : UInt64} {enabled : Std.ExtTreeSet UInt64}
  {collateral weight : Amount}

/-- A split of the pending RPL that keeps every part within its fraction and loses nothing. -/
structure RplAllocation.Conserved (snapshot : Snapshot) (rpl : RplAllocation) : Prop where
  collateral : rpl.collateral.toNat ≤ snapshot.dueFor snapshot.network.nodeOperatorShare
  oracleDao : rpl.oracleDao.toNat ≤ snapshot.dueFor snapshot.network.oracleDaoShare
  protocolDao : snapshot.dueFor snapshot.network.protocolDaoShare ≤ rpl.protocolDao.toNat
  whole : rpl.protocolDao.toNat + rpl.collateral.toNat + rpl.oracleDao.toNat =
    snapshot.network.pendingRpl.toNat

namespace Snapshot

/-! ### Collateral

The credits are the rewards, and what is read off the ledger afterwards is their sum.  A sum
that is too far below the pool stops the split, so what is booked is known only where the
split goes on.
-/

/-- The rewards are credited for collateral, unless they are too far from the pool. -/
theorem RplFits.allocateCollateral_ends (h : snapshot.RplFits) (hstakes : 0 < snapshot.totalStake.toNat)
    (hweights : 0 < snapshot.totalWeight.toNat) (enabled : Std.ExtTreeSet UInt64) :
    Ends (allocateCollateral snapshot) (new enabled)
      (fun total after => Booked .collateralRpl (new enabled) total after ∧
        total.toNat = (snapshot.nodes.map snapshot.rewardOf).sum)
      (∃ error, reconcile "collateral RPL" (BitVec.ofNat 256 (snapshot.nodes.map snapshot.rewardOf).sum)
        snapshot.collateralPool snapshot.tolerance = .error error) := by
  have hreward : ∀ node ∈ snapshot.nodes,
      snapshot.collateralRewardOf node = .ok (BitVec.ofNat 256 (snapshot.rewardOf node)) :=
    fun _ hmem => h.collateralFits.collateralRewardOf hstakes hweights hmem
  obtain ⟨credits, hcredits, hsum⟩ := exists_collateralCreditsOf hreward
  have hsum := hsum fun _ => true
  rw [List.filter_true, List.filter_true, Amount.sum_map_ofNat] at hsum
  have hbucket := bucket_of_mem_collateralCreditsOf hcredits
  have hrewards : (snapshot.nodes.map snapshot.rewardOf).sum < 2 ^ 256 :=
    (h.collateralFits.sum_rewardOf_le hstakes hweights).trans_lt snapshot.collateralPool.isLt
  have htotal := (balanced_new enabled).total_creditAll (nodeTotal_new enabled _) hbucket
  unfold allocateCollateral
  refine ends_bind.mpr (ends_mk ?_ ?_)
  · intro found hfound
    rw [collateralCredits, hcredits] at hfound
    cases hfound
    rw [← hsum, ← htotal]
    refine (makeCredits_ends hbucket).mono ?_ id
    intro total after hbooked
    refine ⟨hbooked.1, ?_⟩
    rw [hbooked.2, htotal, hsum, BitVec.toNat_ofNat, Nat.mod_eq_of_lt hrewards]
  · intro stop hstop
    rw [collateralCredits, hcredits] at hstop
    cases hstop

/-! ### Oracle members

The bucket of the oracle members is empty before their credits, since a ledger that books
only collateral has none in it.  So the total behind them is theirs alone.
-/

theorem OracleFits.toNat_total_oracleCredits (h : snapshot.OracleFits)
    (hsome : snapshot.totalParticipation time ≠ 0) (hbalanced : ledger.Balanced)
    (hnone : ledger.nodeTotal .oracleDaoRpl = 0) :
    ((ledger.creditAll (snapshot.oracleCredits time)).total .oracleDaoRpl).toNat =
      (snapshot.oracleMembers.map (snapshot.oracleReward time)).sum := by
  have hle := (h.sum_oracleReward hsome).1
  rw [hbalanced.total_creditAll hnone fun _ => bucket_of_mem_oracleCredits, h.amounts_oracleCredits,
    Amount.sum_map_ofNat, BitVec.toNat_ofNat, Nat.mod_eq_of_lt (hle.trans_lt snapshot.oraclePool.isLt)]

theorem RplFits.allocateOracleDao_ends (h : snapshot.RplFits) (time : UInt64) (hbalanced : ledger.Balanced)
    (hnone : ledger.nodeTotal .oracleDaoRpl = 0) :
    Ends (allocateOracleDao snapshot time) ledger
      (fun total _ => total.toNat ≤ snapshot.oraclePool.toNat) True := by
  unfold allocateOracleDao
  by_cases hsome : snapshot.totalParticipation time = 0
  · rw [if_pos hsome]
    exact ends_pure (Nat.zero_le _)
  · rw [if_neg hsome]
    refine (makeCredits_ends fun _ => bucket_of_mem_oracleCredits).mono ?_ fun _ => trivial
    intro total after hbooked
    rw [hbooked.2, h.oracleFits.toNat_total_oracleCredits hsome hbalanced hnone]
    exact (h.oracleFits.sum_oracleReward hsome).1

/-! ### The split

The two parts are bounded one after the other, each on the ledger that the one before has
left.  The treasury has what is left of the pending RPL; that this is at least its own
fraction follows from the fractions, as none of the subtractions wraps.
-/

theorem RplFits.conserved (h : snapshot.RplFits) {oracleDao : Amount}
    (hcollateral : collateral.toNat ≤ snapshot.collateralPool.toNat)
    (horacle : oracleDao.toNat ≤ snapshot.oraclePool.toNat) :
    RplAllocation.Conserved snapshot
      ⟨snapshot.network.pendingRpl - collateral - oracleDao, collateral, oracleDao, weight⟩ := by
  have hshares := h.sum_dueFor_le
  rw [h.collateralFits.toNat_collateralPool] at hcollateral
  rw [h.oracleFits.toNat_oraclePool] at horacle
  have hfirst : collateral ≤ snapshot.network.pendingRpl := by
    rw [BitVec.le_def]
    omega
  have hrest : (snapshot.network.pendingRpl - collateral).toNat =
      snapshot.network.pendingRpl.toNat - collateral.toNat := BitVec.toNat_sub_of_le hfirst
  have hsecond : oracleDao ≤ snapshot.network.pendingRpl - collateral := by
    rw [BitVec.le_def, hrest]
    omega
  have hlast : (snapshot.network.pendingRpl - collateral - oracleDao).toNat =
      snapshot.network.pendingRpl.toNat - collateral.toNat - oracleDao.toNat := by
    rw [BitVec.toNat_sub_of_le hsecond, hrest]
  refine ⟨hcollateral, horacle, ?_, ?_⟩ <;> dsimp only <;> omega

theorem RplFits.splitOff_ends (h : snapshot.RplFits)
    (hbooked : Booked .collateralRpl (new enabled) collateral ledger)
    (hcollateral : collateral.toNat ≤ snapshot.collateralPool.toNat) :
    Ends (do
        let oracleDao ← allocateOracleDao snapshot time
        return ⟨snapshot.network.pendingRpl - collateral - oracleDao, collateral, oracleDao, weight⟩)
      ledger (fun rpl _ => RplAllocation.Conserved snapshot rpl) True := by
  have hnone : ledger.nodeTotal .oracleDaoRpl = 0 := by
    rw [hbooked.nodeTotal_other (by decide), nodeTotal_new]
  have horacle := h.allocateOracleDao_ends time (hbooked.balanced (balanced_new enabled)) hnone
  refine ends_bind.mpr (horacle.mono ?_ fun _ => trivial)
  intro oracleDao _ hle
  exact ends_pure (h.conserved hcollateral hle)

end Snapshot

/-- **The split of the pending RPL keeps every part within its fraction and loses nothing.** -/
theorem allocateRpl_conserved (h : snapshot.RplFits) {rpl : RplAllocation} {after : Ledger}
    (hrun : (allocateRpl snapshot time).run.run (new enabled) = (.ok rpl, after)) :
    rpl.Conserved snapshot := by
  have hends : Ends (allocateRpl snapshot time) (new enabled) (fun rpl _ => rpl.Conserved snapshot) True := by
    unfold allocateRpl
    dsimp only
    split
    · exact ends_bind.mpr (ends_throw trivial)
    · by_cases hshared : snapshot.totalStake ≠ 0 ∧ snapshot.totalWeight ≠ 0
      · rw [if_pos hshared]
        have hstakes := Amount.toNat_pos hshared.1
        have hweights := Amount.toNat_pos hshared.2
        have hcollateral := h.allocateCollateral_ends hstakes hweights enabled
        refine ends_bind.mpr (hcollateral.mono ?_ fun _ => trivial)
        intro collateral mid hbooked
        refine h.splitOff_ends hbooked.1 ?_
        rw [hbooked.2]
        exact h.collateralFits.sum_rewardOf_le hstakes hweights
      · rw [if_neg hshared]
        exact ends_bind.mpr (ends_pure (h.splitOff_ends booked_nothing (Nat.zero_le _)))
  exact hends.post_of_ok hrun

/-- Two nodes of equal stake and weight, and an oracle member that has been there for long. -/
def equalNodes (interval : UInt64) (pending : Amount) : Snapshot where
  executionBlock := 3
  beaconSlot := 3
  config := ⟨0, 12, 2⟩
  network := ⟨interval, 24, pending, 150000000000000000, 700000000000000000, 150000000000000000, 0⟩
  nodes := [⟨1, 0, true, 0, 1, 1⟩, ⟨2, 0, true, 0, 1, 1⟩]
  minipools := []
  oracleMembers := [⟨3, 0⟩]
  validators := ∅

theorem rplFits_equalNodes (interval : UInt64) (pending : Amount) (h : pending.toNat < 2 ^ 120) :
    (equalNodes interval pending).RplFits where
  pending := h
  stakes := by simp [equalNodes]
  weights := by simp [equalNodes]
  shares := by simp [equalNodes, toNat_oneEther]
  memberRows := by simp [equalNodes, UInt64.size]

theorem allocateRpl_conserved_equalNodes :
    (equalNodes 20 1000).RplFits ∧ ∃ rpl after,
      (allocateRpl (equalNodes 20 1000) 48).run.run (new ∅) = (.ok rpl, after) ∧
        rpl.Conserved (equalNodes 20 1000) := by
  have hfits := rplFits_equalNodes 20 1000 (by decide)
  have hok : ((allocateRpl (equalNodes 20 1000) 48).run.run (new ∅)).1 =
      .ok ⟨150, 700, 150, 2⟩ := by decide +kernel
  refine ⟨hfits, ⟨150, 700, 150, 2⟩, _, Prod.ext hok rfl, ?_⟩
  exact allocateRpl_conserved hfits (Prod.ext hok rfl)

end PoolRewards
