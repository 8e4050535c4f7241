/-
What the parts of the pending RPL are as natural numbers.

Where the pending RPL and the sums of stakes and of weights are below 2^120, no product on
the way wraps, so that every part is a quotient of natural numbers, rounded down.  A node's
reward has a part by weight and a part by stake.  The parts of either kind come to at most
the sixths of the pool that go that way, and each of them loses less than one unit.  An oracle
member's reward is one quotient, and loses less than one unit if the member took part.
-/
import PoolRewards.Proofs.Ledger.Credits
import PoolRewards.Proofs.Rpl.Formula

namespace PoolRewards

/-- Amounts of which no sum or product wraps, and fractions of one whole. -/
structure Snapshot.RplFits (snapshot : Snapshot) : Prop where
  pending : snapshot.network.pendingRpl.toNat < 2 ^ 120
  stakes : (snapshot.nodes.map (·.effectiveStake.toNat)).sum < 2 ^ 120
  weights : (snapshot.nodes.map (·.weight.toNat)).sum < 2 ^ 120
  shares : snapshot.network.protocolDaoShare.toNat + snapshot.network.nodeOperatorShare.toNat +
    snapshot.network.oracleDaoShare.toNat ≤ Amount.oneEther.toNat
  /-- Rows can be counted by a word. -/
  memberRows : snapshot.oracleMembers.length < UInt64.size

/-- What the rewards for collateral need of that. -/
structure Snapshot.CollateralFits (snapshot : Snapshot) : Prop where
  pending : snapshot.network.pendingRpl.toNat < 2 ^ 120
  stakes : (snapshot.nodes.map (·.effectiveStake.toNat)).sum < 2 ^ 120
  weights : (snapshot.nodes.map (·.weight.toNat)).sum < 2 ^ 120
  share : snapshot.network.nodeOperatorShare.toNat ≤ Amount.oneEther.toNat

/-- What the rewards of oracle members need of that. -/
structure Snapshot.OracleFits (snapshot : Snapshot) : Prop where
  pending : snapshot.network.pendingRpl.toNat < 2 ^ 120
  share : snapshot.network.oracleDaoShare.toNat ≤ Amount.oneEther.toNat
  memberRows : snapshot.oracleMembers.length < UInt64.size

namespace Snapshot

variable {snapshot : Snapshot} {node : NodeDetails}

/-- What a fraction of the pending RPL comes to, rounded down. -/
def dueFor (snapshot : Snapshot) (share : Amount) : Nat :=
  snapshot.network.pendingRpl.toNat * share.toNat / Amount.oneEther.toNat

/-- How many sixths of the collateral rewards go by weight. -/
def sixths (snapshot : Snapshot) : Nat := (weightSixths snapshot.network.rewardIndex).toNat

/-- What a node gets of the sixths that go by weight. -/
def partByWeight (snapshot : Snapshot) (node : NodeDetails) : Nat :=
  snapshot.collateralPool.toNat * snapshot.sixths * node.weight.toNat / (snapshot.totalWeight.toNat * 6)

/-- What a node gets of the sixths that go by stake. -/
def partByStake (snapshot : Snapshot) (node : NodeDetails) : Nat :=
  snapshot.collateralPool.toNat * (6 - snapshot.sixths) * node.effectiveStake.toNat /
    (snapshot.totalStake.toNat * 6)

/-- What a node gets for its collateral. -/
def rewardOf (snapshot : Snapshot) (node : NodeDetails) : Nat :=
  if node.effectiveStake = 0 ∨ node.weight = 0 then 0
  else snapshot.partByWeight node + snapshot.partByStake node

/-- What an oracle member gets for its time. -/
def oracleReward (snapshot : Snapshot) (time : UInt64) (member : OracleMember) : Nat :=
  snapshot.oraclePool.toNat * (snapshot.participation time member).toNat /
    (snapshot.totalParticipation time).toNat

/-- How many oracle members took part. -/
def participants (snapshot : Snapshot) (time : UInt64) : Nat :=
  snapshot.oracleMembers.countP fun member => snapshot.participation time member ≠ 0

/-! ### Pools and totals

Every pool is a fraction of what is pending, and the fractions come to at most one whole.
So the bound on what is pending is a bound on each of them and on their sum.
-/

theorem RplFits.collateralFits (h : snapshot.RplFits) : snapshot.CollateralFits where
  pending := h.pending
  stakes := h.stakes
  weights := h.weights
  share := by
    have hshares := h.shares
    omega

theorem RplFits.oracleFits (h : snapshot.RplFits) : snapshot.OracleFits where
  pending := h.pending
  share := by
    have hshares := h.shares
    omega
  memberRows := h.memberRows

theorem toNat_partOfPending (hpending : snapshot.network.pendingRpl.toNat < 2 ^ 120) {share : Amount}
    (hshare : share.toNat ≤ Amount.oneEther.toNat) :
    (snapshot.partOfPending share).toNat = snapshot.dueFor share := by
  have hproduct : snapshot.network.pendingRpl.toNat * share.toNat < 2 ^ 256 := by
    refine (Nat.mul_lt_mul'' hpending (Nat.lt_succ_of_le hshare)).trans ?_
    rw [toNat_oneEther]
    decide
  rw [partOfPending, BitVec.toNat_udiv, Amount.toNat_mul_of_lt hproduct, dueFor]

theorem dueFor_le {share : Amount} (hshare : share.toNat ≤ Amount.oneEther.toNat) :
    snapshot.dueFor share ≤ snapshot.network.pendingRpl.toNat := by
  unfold dueFor
  refine Nat.div_le_of_le_mul ?_
  rw [Nat.mul_comm Amount.oneEther.toNat]
  exact Nat.mul_le_mul_left _ hshare

theorem CollateralFits.toNat_collateralPool (h : snapshot.CollateralFits) :
    snapshot.collateralPool.toNat = snapshot.dueFor snapshot.network.nodeOperatorShare :=
  toNat_partOfPending h.pending h.share

theorem OracleFits.toNat_oraclePool (h : snapshot.OracleFits) :
    snapshot.oraclePool.toNat = snapshot.dueFor snapshot.network.oracleDaoShare :=
  toNat_partOfPending h.pending h.share

theorem RplFits.sum_dueFor_le (h : snapshot.RplFits) :
    snapshot.dueFor snapshot.network.protocolDaoShare + snapshot.dueFor snapshot.network.nodeOperatorShare +
      snapshot.dueFor snapshot.network.oracleDaoShare ≤ snapshot.network.pendingRpl.toNat := by
  have hpos : 0 < Amount.oneEther.toNat := by decide
  have hlow := (sum_floors snapshot.network.pendingRpl.toNat Amount.oneEther.toNat hpos
    [snapshot.network.protocolDaoShare.toNat, snapshot.network.nodeOperatorShare.toNat,
      snapshot.network.oracleDaoShare.toNat]).1
  simp only [List.map_cons, List.map_nil, List.sum_cons, List.sum_nil, Nat.add_zero, ← Nat.add_assoc] at hlow
  have hall := hlow.trans (Nat.mul_le_mul_left _ h.shares)
  rw [Nat.mul_comm] at hall
  exact Nat.le_of_mul_le_mul_right hall hpos

theorem CollateralFits.toNat_collateralPool_lt (h : snapshot.CollateralFits) :
    snapshot.collateralPool.toNat < 2 ^ 120 := by
  rw [h.toNat_collateralPool]
  exact (dueFor_le h.share).trans_lt h.pending

theorem OracleFits.toNat_oraclePool_lt (h : snapshot.OracleFits) : snapshot.oraclePool.toNat < 2 ^ 120 := by
  rw [h.toNat_oraclePool]
  exact (dueFor_le h.share).trans_lt h.pending

theorem CollateralFits.toNat_totalStake (h : snapshot.CollateralFits) :
    snapshot.totalStake.toNat = (snapshot.nodes.map (·.effectiveStake.toNat)).sum := by
  rw [totalStake, Amount.sum_eq, Amount.toNat_sum_map_of_lt (h.stakes.trans (by decide))]

theorem CollateralFits.toNat_totalWeight (h : snapshot.CollateralFits) :
    snapshot.totalWeight.toNat = (snapshot.nodes.map (·.weight.toNat)).sum := by
  rw [totalWeight, Amount.sum_eq, Amount.toNat_sum_map_of_lt (h.weights.trans (by decide))]

/-! ### Rewards

A product of three factors below 2^120, 6 and 2^120 is below 2^256, and that is what the
bounds of `RplFits` are chosen for.
-/

theorem mul_mul_lt_size {pool sixths part : Nat} (hpool : pool < 2 ^ 120) (hsixths : sixths ≤ 6)
    (hpart : part < 2 ^ 120) : pool * sixths * part < 2 ^ 256 := by
  have hsix : pool * sixths < 2 ^ 120 * 7 := Nat.mul_lt_mul'' hpool (by omega)
  exact (Nat.mul_lt_mul'' hsix hpart).trans (by decide)

theorem CollateralFits.rewardFits (h : snapshot.CollateralFits) (hmem : node ∈ snapshot.nodes) :
    RewardFits snapshot.collateralPool node.effectiveStake snapshot.totalStake node.weight snapshot.totalWeight
      snapshot.network.rewardIndex where
  byWeight := mul_mul_lt_size h.toNat_collateralPool_lt (weightSixths_le _)
    ((le_sum_map (·.weight.toNat) hmem).trans_lt h.weights)
  weights := by
    have hweights := h.weights
    rw [h.toNat_totalWeight]
    omega
  byStake := mul_mul_lt_size h.toNat_collateralPool_lt (Nat.sub_le _ _)
    ((le_sum_map (·.effectiveStake.toNat) hmem).trans_lt h.stakes)
  stakes := by
    intro _
    have hstakes := h.stakes
    rw [h.toNat_totalStake]
    omega

theorem rewardOf_eq (snapshot : Snapshot) (node : NodeDetails) :
    snapshot.rewardOf node = rewardIn snapshot.collateralPool node.effectiveStake snapshot.totalStake
      node.weight snapshot.totalWeight snapshot.network.rewardIndex :=
  (rewardIn_eq ..).symm

/-- **Every node of the snapshot has a reward**, the one in natural numbers. -/
theorem CollateralFits.collateralRewardOf (h : snapshot.CollateralFits) (hstakes : 0 < snapshot.totalStake.toNat)
    (hweights : 0 < snapshot.totalWeight.toNat) (hmem : node ∈ snapshot.nodes) :
    snapshot.collateralRewardOf node = .ok (BitVec.ofNat 256 (snapshot.rewardOf node)) := by
  have hne {a : Amount} (hpos : 0 < a.toNat) : a ≠ 0 := by
    rintro rfl
    exact absurd hpos (by decide)
  rw [rewardOf_eq]
  exact collateralReward_eq_ok (hne hstakes) (hne hweights) fun _ _ => h.rewardFits hmem

/-! ### What the parts come to

The parts of one kind are a pot in sixths that is shared out in proportion, so `sum_sixths`
says what they come to.  Both kinds together have all six sixths of the pool.
-/

/-- The parts by weight come to no more than their sixths of the pool, and each of them loses less
than one unit. -/
theorem CollateralFits.sum_partByWeight (h : snapshot.CollateralFits) (hweights : 0 < snapshot.totalWeight.toNat) :
    (snapshot.nodes.map snapshot.partByWeight).sum * 6 ≤ snapshot.collateralPool.toNat * snapshot.sixths ∧
      snapshot.collateralPool.toNat * snapshot.sixths <
        ((snapshot.nodes.map snapshot.partByWeight).sum + snapshot.nodes.length) * 6 := by
  rw [h.toNat_totalWeight] at hweights
  have hparts := sum_sixths (snapshot.collateralPool.toNat * snapshot.sixths) _ hweights
  rwa [← h.toNat_totalWeight, List.map_map, List.length_map] at hparts

theorem CollateralFits.sum_partByStake (h : snapshot.CollateralFits) (hstakes : 0 < snapshot.totalStake.toNat) :
    (snapshot.nodes.map snapshot.partByStake).sum * 6 ≤
        snapshot.collateralPool.toNat * (6 - snapshot.sixths) ∧
      snapshot.collateralPool.toNat * (6 - snapshot.sixths) <
        ((snapshot.nodes.map snapshot.partByStake).sum + snapshot.nodes.length) * 6 := by
  rw [h.toNat_totalStake] at hstakes
  have hparts := sum_sixths (snapshot.collateralPool.toNat * (6 - snapshot.sixths)) _ hstakes
  rwa [← h.toNat_totalStake, List.map_map, List.length_map] at hparts

theorem rewardOf_le (snapshot : Snapshot) (node : NodeDetails) :
    snapshot.rewardOf node ≤ snapshot.partByWeight node + snapshot.partByStake node := by
  unfold rewardOf
  split
  · exact Nat.zero_le _
  · exact Nat.le_refl _

theorem sixths_add (snapshot : Snapshot) (pool : Nat) :
    pool * snapshot.sixths + pool * (6 - snapshot.sixths) = pool * 6 := by
  rw [← Nat.mul_add, sixths, Nat.add_sub_cancel' (weightSixths_le _)]

/-- **The rewards come to no more than the pool.** -/
theorem CollateralFits.sum_rewardOf_le (h : snapshot.CollateralFits) (hstakes : 0 < snapshot.totalStake.toNat)
    (hweights : 0 < snapshot.totalWeight.toNat) :
    (snapshot.nodes.map snapshot.rewardOf).sum ≤ snapshot.collateralPool.toNat := by
  have hparts : (snapshot.nodes.map snapshot.rewardOf).sum ≤
      (snapshot.nodes.map snapshot.partByWeight).sum + (snapshot.nodes.map snapshot.partByStake).sum := by
    rw [← List.sum_map_add]
    exact List.sum_le_sum fun node _ => snapshot.rewardOf_le node
  have hpool := snapshot.sixths_add snapshot.collateralPool.toNat
  have hbyWeight := (h.sum_partByWeight hweights).1
  have hbyStake := (h.sum_partByStake hstakes).1
  omega

/-! ### What the oracle members get

A member's time is a word, and there are no more members than words, so their times add up
below 2^128.  The pool is shared out in proportion to them, as whole units.
-/

variable {time : UInt64}

theorem toNat_participation_le (snapshot : Snapshot) (time : UInt64) (member : OracleMember) :
    (snapshot.participation time member).toNat ≤ UInt64.size := by
  rw [participation, toNat_ofWord]
  exact (UInt64.toNat_lt_size _).le

theorem OracleFits.toNat_totalParticipation (h : snapshot.OracleFits) (time : UInt64) :
    (snapshot.totalParticipation time).toNat =
      (snapshot.oracleMembers.map fun member => (snapshot.participation time member).toNat).sum := by
  have hle : (snapshot.oracleMembers.map fun member => (snapshot.participation time member).toNat).sum ≤
      snapshot.oracleMembers.length * UInt64.size := by
    have hcard := List.sum_le_card_nsmul
      (snapshot.oracleMembers.map fun member => (snapshot.participation time member).toNat) UInt64.size ?_
    · rwa [List.length_map, Nat.nsmul_eq_mul] at hcard
    · intro n hn
      obtain ⟨member, -, rfl⟩ := List.mem_map.mp hn
      exact snapshot.toNat_participation_le time member
  have hsize : UInt64.size = 2 ^ 64 := rfl
  have hrows := h.memberRows
  rw [hsize] at hle hrows
  rw [totalParticipation, Amount.sum_eq, Amount.toNat_sum_map_of_lt (by omega)]

theorem OracleFits.amounts_oracleCredits (h : snapshot.OracleFits) (time : UInt64) :
    (snapshot.oracleCredits time).map Ledger.Credit.amount =
      snapshot.oracleMembers.map fun member => BitVec.ofNat 256 (snapshot.oracleReward time member) := by
  unfold oracleCredits
  rw [List.map_map]
  refine List.map_congr_left ?_
  intro member _
  have hproduct : (snapshot.participation time member).toNat * snapshot.oraclePool.toNat < 2 ^ 256 :=
    (Nat.mul_lt_mul_of_le_of_lt (snapshot.toNat_participation_le time member) h.toNat_oraclePool_lt
      (by decide)).trans (by decide)
  have hquotient : (snapshot.participation time member * snapshot.oraclePool /
      snapshot.totalParticipation time).toNat = snapshot.oracleReward time member := by
    rw [BitVec.toNat_udiv, Amount.toNat_mul_of_lt hproduct, Nat.mul_comm]
    rfl
  rw [← hquotient, BitVec.ofNat_toNat, BitVec.setWidth_eq]
  rfl

/-- **The oracle members get no more than their pool**, if any of them took part, and they lose less
than one unit of it for each that did. -/
theorem OracleFits.sum_oracleReward (h : snapshot.OracleFits) (hsome : snapshot.totalParticipation time ≠ 0) :
    (snapshot.oracleMembers.map (snapshot.oracleReward time)).sum ≤ snapshot.oraclePool.toNat ∧
      snapshot.oraclePool.toNat <
        (snapshot.oracleMembers.map (snapshot.oracleReward time)).sum + snapshot.participants time := by
  have hpos := Amount.toNat_pos hsome
  rw [h.toNat_totalParticipation] at hpos
  have hparts := sum_parts snapshot.oraclePool.toNat _ hpos
  have hcount : (snapshot.oracleMembers.map fun member => (snapshot.participation time member).toNat).countP
      (· ≠ 0) = snapshot.participants time := by
    rw [List.countP_map]
    refine List.countP_congr ?_
    intro member _
    simp [BitVec.toNat_eq]
  rwa [← h.toNat_totalParticipation, List.map_map, hcount] at hparts

end Snapshot

end PoolRewards
