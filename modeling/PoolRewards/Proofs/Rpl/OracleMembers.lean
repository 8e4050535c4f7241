/-
What truncation takes from the oracle members.

A member's reward is one quotient, so it loses less than one unit if the member took part.
The tolerance counts nodes and minipools, and oracle members need be neither: it is enough
where no more than one member took part beyond the rows that it counts.  Members that took
part alike lose what is left over when the pool is shared out evenly, which can be one unit
less than there are members.
-/
import PoolRewards.Proofs.Rpl.Truncation

namespace PoolRewards

open Ledger

variable {snapshot : Snapshot} {ledger after : Ledger} {time : UInt64} {enabled : Std.ExtTreeSet UInt64}

namespace Snapshot

/-- What truncation takes from the oracle members together. -/
def oracleLoss (snapshot : Snapshot) (time : UInt64) : Nat :=
  snapshot.oraclePool.toNat - (snapshot.oracleMembers.map (snapshot.oracleReward time)).sum

theorem OracleFits.oracleLoss_lt (h : snapshot.OracleFits) (hsome : snapshot.totalParticipation time ≠ 0) :
    snapshot.oracleLoss time < snapshot.participants time := by
  obtain ⟨hle, hlt⟩ := h.sum_oracleReward hsome
  unfold oracleLoss
  omega

theorem OracleFits.toNat_totalParticipation_of_alike (h : snapshot.OracleFits) {part : Amount}
    (halike : ∀ member ∈ snapshot.oracleMembers, snapshot.participation time member = part) :
    (snapshot.totalParticipation time).toNat = snapshot.oracleMembers.length * part.toNat := by
  rw [h.toNat_totalParticipation, List.map_congr_left fun member hmem => by rw [halike member hmem],
    List.map_const', List.sum_replicate, Nat.nsmul_eq_mul]

/-- **Members that took part alike lose what is left over** when the pool is shared out evenly. -/
theorem OracleFits.oracleLoss_of_alike (h : snapshot.OracleFits) {part : Amount} (hpart : part ≠ 0)
    (halike : ∀ member ∈ snapshot.oracleMembers, snapshot.participation time member = part) :
    snapshot.oracleLoss time = snapshot.oraclePool.toNat % snapshot.oracleMembers.length := by
  have hreward : ∀ member ∈ snapshot.oracleMembers, snapshot.oracleReward time member =
      snapshot.oraclePool.toNat / snapshot.oracleMembers.length := by
    intro member hmem
    rw [oracleReward, halike member hmem, h.toNat_totalParticipation_of_alike halike,
      Nat.mul_div_mul_right _ _ (Amount.toNat_pos hpart)]
  have hshared := Nat.div_add_mod snapshot.oraclePool.toNat snapshot.oracleMembers.length
  rw [oracleLoss, List.map_congr_left hreward, List.map_const', List.sum_replicate, Nat.nsmul_eq_mul]
  omega

end Snapshot

/-! ### The reconciliation

The split comes to the oracle members only if the part before them was accepted.  An overrun
carries the name of the part that it was found in, so the two kinds of rejection can be told
apart.
-/

theorem Snapshot.OracleFits.allocateOracleDao_rejected_iff (h : snapshot.OracleFits)
    (hbalanced : ledger.Balanced) (hnone : ledger.nodeTotal .oracleDaoRpl = 0) :
    (∃ stop after, (allocateOracleDao snapshot time).run.run ledger = (.error stop, after)) ↔
      snapshot.totalParticipation time ≠ 0 ∧ snapshot.tolerance.toNat < snapshot.oracleLoss time := by
  unfold allocateOracleDao
  by_cases hsome : snapshot.totalParticipation time = 0
  · rw [if_pos hsome]
    refine ⟨?_, ?_⟩
    · intro h'
      obtain ⟨stop, after, hrun⟩ := h'
      cases hrun
    · exact fun h' => absurd hsome h'.1
  · have htotal := h.toNat_total_oracleCredits hsome hbalanced hnone
    have hle := (h.sum_oracleReward hsome).1
    have hbelow : (ledger.creditAll (snapshot.oracleCredits time)).total .oracleDaoRpl ≤
        snapshot.oraclePool := by
      rw [BitVec.le_def, htotal]
      exact hle
    have hlost : Amount.distance ((ledger.creditAll (snapshot.oracleCredits time)).total .oracleDaoRpl)
        snapshot.oraclePool ≤ snapshot.tolerance ↔ snapshot.oracleLoss time ≤ snapshot.tolerance.toNat := by
      rw [Amount.distance, if_pos hbelow, BitVec.le_def, BitVec.toNat_sub_of_le hbelow, htotal]
      rfl
    rw [if_neg hsome, run_makeCredits, reconcile]
    by_cases haccepted : snapshot.oracleLoss time ≤ snapshot.tolerance.toNat
    · rw [if_pos (hlost.mpr haccepted)]
      refine ⟨?_, ?_⟩
      · intro h'
        obtain ⟨stop, after, hrun⟩ := h'
        cases hrun
      · exact fun h' => absurd h'.2 (Nat.not_lt.mpr haccepted)
    · rw [if_neg (mt hlost.mp haccepted)]
      exact ⟨fun _ => ⟨hsome, Nat.lt_of_not_le haccepted⟩, fun _ => ⟨_, _, rfl⟩⟩

/-- The part of the split that comes before the oracle members. -/
def collateralPart (snapshot : Snapshot) : Crediting Amount :=
  if snapshot.totalStake ≠ 0 ∧ snapshot.totalWeight ≠ 0 then allocateCollateral snapshot else pure 0

theorem allocateRpl_eq (hpending : snapshot.network.pendingRpl ≠ 0) :
    allocateRpl snapshot time = (do
      let collateral ← collateralPart snapshot
      let oracleDao ← allocateOracleDao snapshot time
      return {
        protocolDao := snapshot.network.pendingRpl - collateral - oracleDao
        collateral
        oracleDao
        totalWeight := if snapshot.totalStake ≠ 0 ∧ snapshot.totalWeight ≠ 0 then snapshot.totalWeight
          else 0 }) := by
  unfold allocateRpl collateralPart
  dsimp only
  rw [if_neg hpending]
  by_cases hshared : snapshot.totalStake ≠ 0 ∧ snapshot.totalWeight ≠ 0
  · simp only [if_pos hshared]
  · simp only [if_neg hshared]

theorem collateralPart_ends (snapshot : Snapshot) (ledger : Ledger) :
    Ends (collateralPart snapshot) ledger (Booked .collateralRpl ledger) True := by
  unfold collateralPart
  split
  · exact allocateCollateral_ends snapshot ledger
  · exact ends_pure booked_nothing

theorem collateralPart_ne_oracleOverrun (snapshot : Snapshot) (ledger : Ledger)
    (calculated expected delta tolerance : Amount) :
    ((collateralPart snapshot).run.run ledger).1 ≠
      .error (.error (.overrun "Oracle DAO RPL" calculated expected delta tolerance)) := by
  unfold collateralPart allocateCollateral
  split
  · rw [run_bind]
    rcases snapshot.collateralCredits with fault | credits
    · intro hstop
      cases hstop
    · show ((makeCredits credits .collateralRpl "collateral RPL" snapshot.collateralPool
        snapshot.tolerance).run.run ledger).1 ≠ _
      rcases hrun : (makeCredits credits .collateralRpl "collateral RPL" snapshot.collateralPool
        snapshot.tolerance).run.run ledger with ⟨stop | total, after⟩
      · obtain ⟨_, _, rfl⟩ := overrun_of_makeCredits hrun
        simp
      · intro hstop
        cases hstop
  · intro hstop
    cases hstop

/-- The split goes on to the oracle members: something is pending, and the collateral part, if there
is any, is accepted. -/
structure ReachesOracleDao (snapshot : Snapshot) (enabled : Std.ExtTreeSet UInt64) : Prop where
  pending : snapshot.network.pendingRpl ≠ 0
  collateral : ∃ total after, (collateralPart snapshot).run.run (new enabled) = (.ok total, after)

/-- **The split is rejected for the oracle members' part** where it goes on to them and their loss
exceeds the tolerance, and only there. -/
theorem Snapshot.OracleFits.oracleOverrun_iff (h : snapshot.OracleFits) :
    (∃ calculated expected delta tolerance, ((allocateRpl snapshot time).run.run (new enabled)).1 =
        .error (.error (.overrun "Oracle DAO RPL" calculated expected delta tolerance))) ↔
      ReachesOracleDao snapshot enabled ∧ snapshot.totalParticipation time ≠ 0 ∧
        snapshot.tolerance.toNat < snapshot.oracleLoss time := by
  by_cases hpending : snapshot.network.pendingRpl = 0
  · refine ⟨?_, fun h' => absurd hpending h'.1.pending⟩
    intro h'
    obtain ⟨_, _, _, _, hstop⟩ := h'
    unfold allocateRpl at hstop
    dsimp only at hstop
    rw [if_pos hpending] at hstop
    cases hstop
  · rw [allocateRpl_eq hpending, run_bind]
    rcases hcollateral : (collateralPart snapshot).run.run (new enabled) with ⟨stop | collateral, mid⟩
    · refine ⟨?_, ?_⟩
      · intro h'
        obtain ⟨calculated, expected, delta, tolerance, hstop⟩ := h'
        have hother := collateralPart_ne_oracleOverrun snapshot (new enabled) calculated expected delta
          tolerance
        rw [hcollateral] at hother
        cases hstop
        exact absurd rfl hother
      · intro h'
        obtain ⟨_, _, hok⟩ := h'.1.collateral
        rw [hcollateral] at hok
        cases hok
    · have hbooked := (collateralPart_ends snapshot (new enabled)).post_of_ok hcollateral
      have hnone : mid.nodeTotal .oracleDaoRpl = 0 := by
        rw [hbooked.nodeTotal_other (by decide), nodeTotal_new]
      rw [← h.allocateOracleDao_rejected_iff (hbooked.balanced (balanced_new enabled)) hnone]
      dsimp only
      rw [run_bind]
      rcases horacle : (allocateOracleDao snapshot time).run.run mid with ⟨stop | oracleDao, last⟩
      · obtain ⟨calculated, expected, delta, tolerance, rfl⟩ := overrun_of_allocateOracleDao horacle
        exact ⟨fun _ => ⟨⟨hpending, _, _, hcollateral⟩, _, _, rfl⟩,
          fun _ => ⟨calculated, expected, delta, tolerance, rfl⟩⟩
      · refine ⟨?_, ?_⟩
        · intro h'
          obtain ⟨_, _, _, _, hstop⟩ := h'
          cases hstop
        · intro h'
          obtain ⟨-, _, _, hstop⟩ := h'
          cases hstop

/-- **The oracle members' part is not rejected** where no more members took part than the tolerance
counts rows, and one. -/
theorem allocateRpl_ne_oracleOverrun (h : snapshot.OracleFits)
    (hbudget : snapshot.participants time ≤ snapshot.tolerance.toNat + 1)
    (calculated expected delta tolerance : Amount) :
    ((allocateRpl snapshot time).run.run (new enabled)).1 ≠
      .error (.error (.overrun "Oracle DAO RPL" calculated expected delta tolerance)) := by
  intro hstop
  obtain ⟨-, hsome, hlost⟩ := h.oracleOverrun_iff.mp ⟨calculated, expected, delta, tolerance, hstop⟩
  have hloss := h.oracleLoss_lt hsome
  omega

/-! ### More members than rows

Members that are no nodes add nothing to the tolerance.  With one node it is one unit, and
equal shares of a pool among any number of members can leave more than that over.
-/

/-- A node of its own, and oracle members that are no nodes and have been there for long. -/
def loneNode (pending : Amount) (members : List Address) : Snapshot where
  executionBlock := 3
  beaconSlot := 3
  config := ⟨0, 12, 2⟩
  network := ⟨10, 24, pending, 150000000000000000, 700000000000000000, 150000000000000000, 0⟩
  nodes := [⟨1, 0, true, 0, 1, 1⟩]
  minipools := []
  oracleMembers := members.map fun address => ⟨address, 0⟩
  validators := ∅

theorem rplFits_loneNode {pending : Amount} {members : List Address} (hpending : pending.toNat < 2 ^ 120)
    (hmembers : members.length < UInt64.size) : (loneNode pending members).RplFits where
  pending := hpending
  stakes := by simp [loneNode]
  weights := by simp [loneNode]
  shares := by simp [loneNode, toNat_oneEther]
  memberRows := by simpa [loneNode] using hmembers

/-- **Beside a lone node, the members' part is rejected** as soon as two units are left over when it
is shared out evenly, however many members there are. -/
theorem oracleOverrun_loneNode_iff {pending : Amount} {members : List Address} (hpending : pending ≠ 0)
    (hfits : pending.toNat < 2 ^ 120) (hsome : members ≠ []) (hmembers : members.length < UInt64.size) :
    (∃ calculated expected delta tolerance,
        ((allocateRpl (loneNode pending members) 48).run.run (new enabled)).1 =
          .error (.error (.overrun "Oracle DAO RPL" calculated expected delta tolerance))) ↔
      1 < (loneNode pending members).dueFor 150000000000000000 % members.length := by
  have hrpl := rplFits_loneNode hfits hmembers
  have hearn : (loneNode pending members).AllEarn := by
    intro node hmem
    rcases List.mem_singleton.mp hmem with rfl
    decide
  have hreached : ReachesOracleDao (loneNode pending members) enabled := by
    refine ⟨hpending, ?_⟩
    have haccepted := hrpl.exists_collateral hearn (List.cons_ne_nil _ _)
      (Nat.mul_le_mul_right 1 (Snapshot.divisions_le _)) enabled
    exact haccepted
  have halike : ∀ member ∈ (loneNode pending members).oracleMembers,
      (loneNode pending members).participation 48 member = 24 := by
    intro member hmem
    obtain ⟨address, -, rfl⟩ := List.mem_map.mp hmem
    show Amount.ofWord (min (Word.less 48 0) 24) = 24
    decide
  have hlength : (loneNode pending members).oracleMembers.length = members.length := List.length_map _
  have htook : (loneNode pending members).totalParticipation 48 ≠ 0 := by
    have htotal := hrpl.oracleFits.toNat_totalParticipation_of_alike halike
    have hpos : 0 < members.length * (24 : Amount).toNat :=
      Nat.mul_pos (List.length_pos_of_ne_nil hsome) (by decide)
    rw [hlength] at htotal
    intro hzero
    rw [hzero] at htotal
    exact absurd htotal (Nat.ne_of_lt hpos)
  have hloss := hrpl.oracleFits.oracleLoss_of_alike (by decide) halike
  rw [hlength, hrpl.oracleFits.toNat_oraclePool] at hloss
  rw [hrpl.oracleFits.oracleOverrun_iff, hloss]
  exact ⟨fun h => h.2.2, fun h => ⟨hreached, htook, h⟩⟩

/-- Two members beside a lone node lose one unit of five, and the split has its result. -/
theorem allocateRpl_ne_oracleOverrun_loneNode :
    (loneNode 34 [2, 3]).OracleFits ∧
      (loneNode 34 [2, 3]).participants 48 ≤ (loneNode 34 [2, 3]).tolerance.toNat + 1 ∧
      (∀ calculated expected delta tolerance : Amount,
        ((allocateRpl (loneNode 34 [2, 3]) 48).run.run (new ∅)).1 ≠
          .error (.error (.overrun "Oracle DAO RPL" calculated expected delta tolerance))) ∧
      ((allocateRpl (loneNode 34 [2, 3]) 48).run.run (new ∅)).1 = .ok ⟨7, 23, 4, 1⟩ := by
  have hfits : (loneNode 34 [2, 3]).OracleFits := (rplFits_loneNode (by decide) (by decide)).oracleFits
  have hbudget : (loneNode 34 [2, 3]).participants 48 ≤ (loneNode 34 [2, 3]).tolerance.toNat + 1 := by
    decide
  exact ⟨hfits, hbudget, allocateRpl_ne_oracleOverrun hfits hbudget, by decide +kernel⟩

/-- A third member makes it two units, and the split is rejected. -/
theorem oracleOverrun_loneNode :
    (loneNode 34 [2, 3, 4]).RplFits ∧
      ((allocateRpl (loneNode 34 [2, 3, 4]) 48).run.run (new ∅)).1 =
        .error (.error (.overrun "Oracle DAO RPL" 3 5 2 1)) :=
  ⟨rplFits_loneNode (by decide) (by decide), by decide +kernel⟩

end PoolRewards
