/-
Where a division of the split has no result.

A node's reward is divided by six times a total.  The totals are looked at before, and with
a total of nothing there are no rewards; but the sixfold of an amount wraps to nothing for
one amount that is not nothing, half of all amounts.  So the split has a fault where a total
comes to that amount and some node has both a stake and a weight, and nowhere else: the only
other divisors are one whole and the oracle members' time, which is looked at as it is.
-/
import PoolRewards.Proofs.Rpl.OracleMembers

namespace PoolRewards

open Ledger

variable {snapshot : Snapshot} {time : UInt64} {ledger : Ledger} {fault : Fault}

/-! ### The sixfold of a total

Multiplying by six loses the top of the number, and six has one factor of two.  So there is
just one amount besides zero whose sixfold is a multiple of 2^256.
-/

/-- Half of all amounts, as an amount. -/
def Amount.half : Amount := BitVec.twoPow 256 255

/-- The sixfold of an amount wraps to nothing for one amount that is not nothing itself. -/
theorem Amount.mul_six_eq_zero_iff {a : Amount} : a * 6 = 0 ↔ a = 0 ∨ a = half := by
  refine ⟨?_, ?_⟩
  · intro h
    have hsixfold : (a * 6).toNat = a.toNat * 6 % 2 ^ 256 := BitVec.toNat_mul a 6
    have hdivides : 2 ^ 256 ∣ a.toNat * 2 * 3 := by
      rw [Nat.mul_assoc]
      exact Nat.dvd_of_mod_eq_zero (hsixfold.symm.trans (congrArg BitVec.toNat h))
    -- Three has no factor in common with 2^256, so the amount is a multiple of 2^255.
    have hdouble : 2 ^ 255 * 2 ∣ a.toNat * 2 :=
      (Nat.Coprime.pow_left 256 (by decide)).dvd_of_dvd_mul_right hdivides
    obtain ⟨k, hk⟩ := Nat.dvd_of_mul_dvd_mul_right (by decide) hdouble
    have hfew : k < 2 := Nat.lt_of_mul_lt_mul_left (a := 2 ^ 255) (hk.symm.trans_lt a.isLt)
    rcases Nat.le_one_iff_eq_zero_or_eq_one.mp (Nat.le_of_lt_succ hfew) with rfl | rfl
    · exact Or.inl (BitVec.toNat_inj.mp hk)
    · exact Or.inr (BitVec.toNat_inj.mp (hk.trans (by decide)))
  · intro h
    rcases h with rfl | rfl <;> decide

/-- All six sixths go by weight up to interval 17. -/
theorem ofWord_weightSixths_eq_six_iff {interval : UInt64} :
    Amount.ofWord (weightSixths interval) = 6 ↔ interval ≤ 17 := by
  have hseventeen : (17 : UInt64).toNat = 17 := rfl
  rw [ofWord_weightSixths_eq_six, toNat_weightSixths, UInt64.le_iff_toNat_le, hseventeen]
  omega

/-! ### The split

The guard looks at the total and the division at its sixfold.  Between the two stands the
one amount that passes the guard and divides by nothing.  Everything else that the split
does, credits and reconciliations included, has an answer or an error of the rewards, and
never a fault.
-/

/-- A split that comes to a reward with a divisor of nothing. -/
structure Snapshot.HasVoidDivisor (snapshot : Snapshot) : Prop where
  pending : snapshot.network.pendingRpl ≠ 0
  shared : snapshot.totalStake ≠ 0 ∧ snapshot.totalWeight ≠ 0
  earner : ∃ node ∈ snapshot.nodes, node.effectiveStake ≠ 0 ∧ node.weight ≠ 0
  /-- Stakes are divided by from interval 18 on. -/
  half : snapshot.totalWeight = Amount.half ∨
    17 < snapshot.network.rewardIndex ∧ snapshot.totalStake = Amount.half

theorem Snapshot.collateralCredits_eq_error_iff
    (hshared : snapshot.totalStake ≠ 0 ∧ snapshot.totalWeight ≠ 0) :
    snapshot.collateralCredits = .error fault ↔
      fault = .divideByZero ∧ (∃ node ∈ snapshot.nodes, node.effectiveStake ≠ 0 ∧ node.weight ≠ 0) ∧
        (snapshot.totalWeight = Amount.half ∨
          17 < snapshot.network.rewardIndex ∧ snapshot.totalStake = Amount.half) := by
  rw [collateralCredits, collateralCreditsOf_eq_error_iff]
  unfold collateralRewardOf
  simp only [collateralReward_eq_error_iff, Amount.mul_six_eq_zero_iff, hshared.1, hshared.2, false_or,
    ne_eq, ofWord_weightSixths_eq_six_iff, UInt64.not_le]
  refine ⟨?_, ?_⟩
  · intro h'
    obtain ⟨node, hmem, hfault, hearns, hhalf⟩ := h'
    exact ⟨hfault, ⟨node, hmem, hearns⟩, hhalf⟩
  · intro h'
    obtain ⟨hfault, ⟨node, hmem, hearns⟩, hhalf⟩ := h'
    exact ⟨node, hmem, hfault, hearns, hhalf⟩

theorem makeCredits_ne_fault (credits : List Credit) (bucket : Bucket) (name : String)
    (expected tolerance : Amount) (ledger : Ledger) (fault : Fault) :
    ((makeCredits credits bucket name expected tolerance).run.run ledger).1 ≠ .error (.fault fault) := by
  rcases hrun : (makeCredits credits bucket name expected tolerance).run.run ledger with ⟨stop | total, after⟩
  · obtain ⟨_, _, rfl⟩ := overrun_of_makeCredits hrun
    simp
  · simp

theorem allocateCollateral_fault_iff :
    ((allocateCollateral snapshot).run.run ledger).1 = .error (.fault fault) ↔
      snapshot.collateralCredits = .error fault := by
  unfold allocateCollateral
  rw [run_bind]
  rcases snapshot.collateralCredits with other | credits
  · show (.error (.fault other) : Except Halt Amount) = _ ↔ _
    simp
  · exact iff_of_false (makeCredits_ne_fault _ _ _ _ _ _ _) (by simp)

theorem allocateOracleDao_ne_fault (snapshot : Snapshot) (time : UInt64) (ledger : Ledger) (fault : Fault) :
    ((allocateOracleDao snapshot time).run.run ledger).1 ≠ .error (.fault fault) := by
  unfold allocateOracleDao
  by_cases hsome : snapshot.totalParticipation time = 0
  · simp [hsome]
  · rw [if_neg hsome]
    exact makeCredits_ne_fault _ _ _ _ _ _ _

/-- **The split has a fault where a divisor is nothing, and nowhere else.** -/
theorem allocateRpl_fault_iff (snapshot : Snapshot) (time : UInt64) (ledger : Ledger) (fault : Fault) :
    ((allocateRpl snapshot time).run.run ledger).1 = .error (.fault fault) ↔
      fault = .divideByZero ∧ snapshot.HasVoidDivisor := by
  by_cases hpending : snapshot.network.pendingRpl = 0
  · refine iff_of_false ?_ fun h => h.2.pending hpending
    unfold allocateRpl
    dsimp only
    rw [if_pos hpending]
    intro hstop
    cases hstop
  have hcollateral : ((collateralPart snapshot).run.run ledger).1 = .error (.fault fault) ↔
      fault = .divideByZero ∧ snapshot.HasVoidDivisor := by
    unfold collateralPart
    by_cases hshared : snapshot.totalStake ≠ 0 ∧ snapshot.totalWeight ≠ 0
    · rw [if_pos hshared, allocateCollateral_fault_iff, Snapshot.collateralCredits_eq_error_iff hshared]
      refine ⟨?_, ?_⟩
      · exact fun h => ⟨h.1, hpending, hshared, h.2.1, h.2.2⟩
      · exact fun h => ⟨h.1, h.2.earner, h.2.half⟩
    · rw [if_neg hshared]
      exact iff_of_false (by simp) fun h => hshared h.2.shared
  rw [allocateRpl_eq hpending, run_bind, ← hcollateral]
  rcases (collateralPart snapshot).run.run ledger with ⟨stop | collateral, mid⟩
  · simp
  · refine iff_of_false ?_ (by simp)
    dsimp only
    rw [run_bind]
    have horacle := allocateOracleDao_ne_fault snapshot time mid fault
    rcases hrun : (allocateOracleDao snapshot time).run.run mid with ⟨stop | oracleDao, last⟩
    · rw [hrun] at horacle
      simpa using horacle
    · simp

/-- A node of its own that has half of all amounts for its weight. -/
def heavyNode : Snapshot := { loneNode 1000 [3] with nodes := [⟨1, 0, true, 0, 1, Amount.half⟩] }

theorem divideByZero_heavyNode :
    ((allocateRpl heavyNode 48).run.run (new ∅)).1 = .error (.fault .divideByZero) := by
  decide +kernel

end PoolRewards
