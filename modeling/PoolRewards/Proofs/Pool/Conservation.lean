/-
No ether is lost or made.

The average score is at most one ether, so what the minipools get together is at most the
balance.  Each share is rounded down and loses less than one unit, and only a minipool with
a score loses anything; so the shares stay within the tolerance of the reconciliation as
long as there are no more such minipools than rows in the snapshot.  Every product on the
way is below 2^256, and the sums are those of the natural numbers.
-/
import PoolRewards.Proofs.Ledger.Balance
import PoolRewards.Proofs.Pool.Scores

namespace PoolRewards

variable {nodes : Array PoolNode} {totals : AttestationTotals} {balance tolerance : Amount}

/-- A split of the balance that accounts for all of it. -/
structure Conserved (balance : Amount) (nodes : Array PoolNode) (allocation : EthAllocation) : Prop where
  within : allocation.nodeOperators ≤ balance
  whole : allocation.poolStakers.toNat + allocation.nodeOperators.toNat = balance.toNat
  shares : ((minipoolsOf nodes).map (·.share.toNat)).sum = allocation.nodeOperators.toNat
  nodes : (nodes.toList.map (·.eth.toNat)).sum = allocation.nodeOperators.toNat

/-- The minipools that have a score. -/
def scoredCount (nodes : Array PoolNode) : Nat :=
  (minipoolsOf nodes).countP (·.score ≠ 0)

/-! ### The pot

The operators get the balance times the average score.  An average of at most one ether
makes that at most the balance, and the bounds on both factors keep the product below 2^256
before it is divided.
-/

theorem Tallied.toNat_score_lt (h : Tallied nodes totals) : totals.score.toNat < 2 ^ 124 := by
  have hscore := h.sum_scores_le
  have hlt := totals.successful.toNat_lt_size
  have hsize : UInt64.size = 2 ^ 64 := rfl
  rw [← h.toNat_score, toNat_oneEther] at hscore
  omega

theorem mul_lt_size {ether score : Nat} (hether : ether < 2 ^ 128) (hscore : score < 2 ^ 124) :
    ether * score < 2 ^ 256 :=
  (Nat.mul_lt_mul'' hether hscore).trans (by decide)

theorem Tallied.toNat_operatorPot (h : Tallied nodes totals) (hbalance : balance.toNat < 2 ^ 128) :
    (operatorPot balance totals).toNat =
      balance.toNat * totals.score.toNat / totals.successful.toNat / Amount.oneEther.toNat := by
  unfold operatorPot
  rw [BitVec.toNat_udiv, BitVec.toNat_udiv, BitVec.toNat_mul, toNat_ofWord,
    Nat.mod_eq_of_lt (mul_lt_size hbalance h.toNat_score_lt)]

theorem Tallied.toNat_operatorPot_le (h : Tallied nodes totals) (hbalance : balance.toNat < 2 ^ 128) :
    (operatorPot balance totals).toNat ≤ balance.toNat := by
  have hscore := h.sum_scores_le
  rw [← h.toNat_score] at hscore
  rw [h.toNat_operatorPot hbalance, Nat.div_div_eq_div_mul]
  refine Nat.div_le_of_le_mul ?_
  rw [Nat.mul_comm (totals.successful.toNat * Amount.oneEther.toNat)]
  exact Nat.mul_le_mul_left _ hscore

/-! ### Shares

A share is a floored part of the pot, in proportion to the score.  A minipool that is passed
over has no score, so leaving it out of the sum changes nothing, and the floors lose less
than one unit for each minipool that has one.
-/

theorem Tallied.toNat_score_le (h : Tallied nodes totals) {minipool : PoolMinipool}
    (hmem : minipool ∈ minipoolsOf nodes) : minipool.score.toNat ≤ totals.score.toNat := by
  rw [h.toNat_score]
  exact le_sum_map (·.score.toNat) hmem

theorem Tallied.score_eq_zero (h : Tallied nodes totals) {node : PoolNode} (hnode : node ∈ nodes)
    {minipool : PoolMinipool} (hmem : minipool ∈ node.minipools)
    (hidle : ¬ (minipool.earns = true ∧ node.eligible = true)) : minipool.score = 0 := by
  by_contra hne
  exact hidle (h.earns node hnode minipool hmem hne)

theorem Tallied.toNat_share (h : Tallied nodes totals) {pot : Amount} (hpot : pot.toNat < 2 ^ 128)
    {node : PoolNode} (hnode : node ∈ nodes) {minipool : PoolMinipool}
    (hmem : minipool ∈ node.minipools) :
    (minipool.withShare pot totals.score).share.toNat =
      pot.toNat * minipool.score.toNat / totals.score.toNat := by
  have hscore := h.toNat_score_le (mem_minipoolsOf.mpr ⟨node, hnode, hmem⟩)
  have hproduct := mul_lt_size hpot (hscore.trans_lt h.toNat_score_lt)
  unfold PoolMinipool.withShare
  split
  · show (pot * minipool.score / totals.score).toNat = _
    rw [BitVec.toNat_udiv, BitVec.toNat_mul, Nat.mod_eq_of_lt hproduct]
  · next hidle =>
    rw [h.score_eq_zero hnode hmem fun hearns => hidle hearns.1]
    simp

/-- A node's minipools after the split have their shares, also where the node takes no part. -/
theorem Tallied.shares_of_node (h : Tallied nodes totals) {pot : Amount} (hpot : pot.toNat < 2 ^ 128)
    {node : PoolNode} (hnode : node ∈ nodes) :
    ((node.withShares pot totals.score).minipools.toList.map (·.share.toNat)) =
      node.minipools.toList.map fun minipool =>
        pot.toNat * minipool.score.toNat / totals.score.toNat := by
  unfold PoolNode.withShares
  split
  · show ((node.minipools.map _).toList.map _) = _
    rw [Array.toList_map, List.map_map]
    refine List.map_congr_left ?_
    intro minipool hmem
    exact h.toNat_share hpot hnode (Array.mem_toList_iff.mp hmem)
  · next helig =>
    refine List.map_congr_left ?_
    intro minipool hmem
    have hmem := Array.mem_toList_iff.mp hmem
    rw [h.share minipool (mem_minipoolsOf.mpr ⟨node, hnode, hmem⟩),
      h.score_eq_zero hnode hmem fun hearns => helig hearns.2]
    simp

/-- What the minipools of a node get of a pot. -/
def partOf (pot total : Nat) (node : PoolNode) : Nat :=
  (node.minipools.toList.map fun minipool => pot * minipool.score.toNat / total).sum

/-- What all minipools get of a pot. -/
def partOfAll (pot total : Nat) (nodes : Array PoolNode) : Nat :=
  ((minipoolsOf nodes).map fun minipool => pot * minipool.score.toNat / total).sum

theorem sum_partOf (pot total : Nat) (nodes : Array PoolNode) :
    (nodes.toList.map (partOf pot total)).sum = partOfAll pot total nodes := by
  unfold partOfAll minipoolsOf partOf
  induction nodes.toList with
  | nil => rfl
  | cons node rest ih =>
      rw [List.map_cons, List.sum_cons, List.flatMap_cons, List.map_append, List.sum_append, ih]

/-- All minipools get the pot but for less than one unit for each that has a score. -/
theorem Tallied.partOfAll_le (h : Tallied nodes totals) (htotal : 0 < totals.score.toNat) (pot : Nat) :
    partOfAll pot totals.score.toNat nodes ≤ pot ∧
      pot ≤ partOfAll pot totals.score.toNat nodes + scoredCount nodes := by
  obtain ⟨hlow, hhigh⟩ := sum_floors pot totals.score.toNat htotal
    ((minipoolsOf nodes).map (·.score.toNat))
  have hmap : ((minipoolsOf nodes).map (·.score.toNat)).map (fun w => pot * w / totals.score.toNat) =
      (minipoolsOf nodes).map fun minipool => pot * minipool.score.toNat / totals.score.toNat :=
    List.map_map
  have hcount : ((minipoolsOf nodes).map (·.score.toNat)).countP (· ≠ 0) = scoredCount nodes := by
    rw [List.countP_map, scoredCount]
    congr 1
    funext minipool
    simp only [Function.comp, decide_not, ← BitVec.toNat_inj]
    rfl
  rw [hmap, ← h.toNat_score] at hlow
  rw [hmap, hcount, ← h.toNat_score, Nat.mul_comm pot] at hhigh
  rw [Nat.mul_comm pot] at hlow
  exact ⟨Nat.le_of_mul_le_mul_left hlow htotal,
    Nat.le_of_mul_le_mul_left ((Nat.le_add_right _ _).trans hhigh) htotal⟩

theorem Tallied.toNat_eth (h : Tallied nodes totals) (htotal : 0 < totals.score.toNat) {pot : Amount}
    (hpot : pot.toNat < 2 ^ 128) {node : PoolNode} (hnode : node ∈ nodes) :
    (node.withShares pot totals.score).eth.toNat = partOf pot.toNat totals.score.toNat node := by
  have hshares := h.shares_of_node hpot hnode
  have hle : partOf pot.toNat totals.score.toNat node ≤ pot.toNat := by
    -- One node gets no more than all nodes do, which is at most the pot.
    refine le_trans ?_ (h.partOfAll_le htotal pot.toNat).1
    rw [← sum_partOf]
    exact le_sum_map _ (Array.mem_toList_iff.mpr hnode)
  by_cases helig : node.eligible = true
  · have heth : (node.withShares pot totals.score).eth =
        Amount.sum ((node.withShares pot totals.score).minipools.toList.map (·.share)) := by
      unfold PoolNode.withShares
      rw [if_pos helig]
    have hmap : ((node.withShares pot totals.score).minipools.toList.map (·.share)).map (·.toNat) =
        (node.withShares pot totals.score).minipools.toList.map (·.share.toNat) := List.map_map
    rw [heth, Amount.sum_eq, Amount.toNat_sum_of_lt]
    · rw [hmap, hshares]
      rfl
    · rw [hmap, hshares]
      exact (hle.trans_lt hpot).trans (by decide)
  · have heth : (node.withShares pot totals.score).eth = 0 := by
      unfold PoolNode.withShares
      rw [if_neg helig]
    rw [heth]
    symm
    refine List.sum_eq_zero ?_
    intro n hn
    obtain ⟨minipool, hmem, rfl⟩ := List.mem_map.mp hn
    rw [h.score_eq_zero hnode (Array.mem_toList_iff.mp hmem) fun hearns => helig hearns.2]
    simp

/-! ### The split

If nobody attested the pot is not split at all.  Otherwise the sum of the shares is below
the pot by no more than the tolerance, so the reconciliation takes the sum as the operators'
part and the rest is the stakers'.
-/

theorem Tallied.unpaid (h : Tallied nodes totals) (balance : Amount) :
    Conserved balance nodes ⟨balance, 0⟩ where
  within := by
    rw [BitVec.le_def]
    exact Nat.zero_le _
  whole := Nat.add_zero _
  shares := by
    refine List.sum_eq_zero ?_
    intro n hn
    obtain ⟨minipool, hmem, rfl⟩ := List.mem_map.mp hn
    rw [h.share minipool hmem]
    rfl
  nodes := by
    refine List.sum_eq_zero ?_
    intro n hn
    obtain ⟨node, hmem, rfl⟩ := List.mem_map.mp hn
    rw [h.eth node (Array.mem_toList_iff.mp hmem)]
    rfl

/-- What is paid out of a pot. -/
theorem Tallied.paid (h : Tallied nodes totals) (htotal : 0 < totals.score.toNat) {pot : Amount}
    (hpot : pot.toNat < 2 ^ 128) :
    ((minipoolsOf (nodes.map (·.withShares pot totals.score))).map (·.share.toNat)).sum =
        partOfAll pot.toNat totals.score.toNat nodes ∧
      ((nodes.map (·.withShares pot totals.score)).toList.map (·.eth.toNat)).sum =
        partOfAll pot.toNat totals.score.toNat nodes := by
  refine ⟨?_, ?_⟩
  · unfold minipoolsOf partOfAll minipoolsOf
    rw [Array.toList_map, List.map_flatMap, List.map_flatMap, List.flatMap_map]
    congr 1
    refine List.flatMap_congr ?_
    intro node hnode
    exact h.shares_of_node hpot (Array.mem_toList_iff.mp hnode)
  · rw [Array.toList_map, List.map_map, ← sum_partOf]
    congr 1
    refine List.map_congr_left ?_
    intro node hnode
    exact h.toNat_eth htotal hpot (Array.mem_toList_iff.mp hnode)

/-- **The split accounts for all of the balance**, if no more minipools have a score than the
tolerance allows for. -/
theorem Tallied.conserved (h : Tallied nodes totals) (hbalance : balance.toNat < 2 ^ 128)
    (hfew : scoredCount nodes ≤ tolerance.toNat) :
    ∃ after allocation, splitBalance nodes balance totals tolerance = (after, .ok allocation) ∧
      Conserved balance after allocation := by
  unfold splitBalance
  split
  · exact ⟨nodes, ⟨balance, 0⟩, rfl, h.unpaid balance⟩
  · next hsome =>
    have htotal : 0 < totals.score.toNat := Amount.toNat_pos fun hzero => hsome (Or.inl hzero)
    let pot := operatorPot balance totals
    have hpot : pot.toNat ≤ balance.toNat := h.toNat_operatorPot_le hbalance
    have hsmall := hpot.trans_lt hbalance
    obtain ⟨hshares, hnodes⟩ := h.paid htotal hsmall
    obtain ⟨hlow, hhigh⟩ := h.partOfAll_le htotal pot.toNat
    let after := nodes.map (·.withShares pot totals.score)
    let paid := Amount.sum (after.toList.map (·.eth))
    have hpaid : paid.toNat = partOfAll pot.toNat totals.score.toNat nodes := by
      have hmap : (after.toList.map (·.eth)).map (·.toNat) = after.toList.map (·.eth.toNat) :=
        List.map_map
      show (Amount.sum (after.toList.map (·.eth))).toNat = _
      rw [Amount.sum_eq, Amount.toNat_sum_of_lt] <;> rw [hmap, hnodes]
      exact (hlow.trans_lt hsmall).trans (by decide)
    have hreconcile : reconcile "smoothing pool ETH" paid pot tolerance = .ok (pot - paid) := by
      apply reconcile_of_le
      · rw [BitVec.le_def, hpaid]
        exact hlow
      · rw [hpaid]
        omega
    have hwithin : paid ≤ balance := by
      rw [BitVec.le_def, hpaid]
      exact hlow.trans hpot
    refine ⟨after, ⟨balance - paid, paid⟩, ?_, hwithin, ?_, ?_, ?_⟩
    · show (after, reconcile "smoothing pool ETH" paid pot tolerance >>= fun _ =>
        pure (EthAllocation.mk (balance - paid) paid)) = _
      rw [hreconcile]
      rfl
    · show (balance - paid).toNat + paid.toNat = balance.toNat
      rw [BitVec.toNat_sub_of_le hwithin]
      have := BitVec.le_def.mp hwithin
      omega
    · exact hshares.trans hpaid.symm
    · exact hnodes.trans hpaid.symm

end PoolRewards
