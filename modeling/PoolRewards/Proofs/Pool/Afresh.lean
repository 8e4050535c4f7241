/-
A split says afresh what every node earns.

Whatever amounts the nodes come with, a split that has a score to go by replaces them: a node
that takes part earns what its minipools do, any other node earns nothing, and neither does a
minipool that had no duties or was inactive.  A minipool that earns nothing is marked inactive,
so a second split finds the same minipools to pay and says the same.

Without a score, or without an attestation, the balance is the stakers' and the nodes keep what
they came with.  So there the split answers for them only if they came with nothing.
-/
import PoolRewards.Proofs.Pool.Report

namespace PoolRewards

variable {nodes : Array PoolNode} {node before : PoolNode} {minipool : PoolMinipool}
  {balance tolerance pot totalScore : Amount} {totals : AttestationTotals} {allocation : EthAllocation}

/-- A minipool of a node that takes part, as a split is to leave it. -/
structure PoolMinipool.SharedFrom (minipool before : PoolMinipool) : Prop where
  kept : minipool.unshared = before.unshared
  idle : before.hadDuties = false ∨ before.wasActive = false → minipool.share = 0

/-- A node as a split is to leave it. -/
structure PoolNode.SharedFrom (node before : PoolNode) : Prop where
  kept : { node.bare with eth := 0 } = { before.bare with eth := 0 }
  eligible : before.eligible = true → node.eth = (node.minipools.toList.map (·.share)).sum ∧
    List.Forall₂ PoolMinipool.SharedFrom node.minipools.toList before.minipools.toList
  ineligible : before.eligible = false → node.eth = 0 ∧ node.minipools = before.minipools

/-- Nodes as a split is to leave them: nothing that they came with is left of what they earn. -/
structure SharedOut (nodes before : Array PoolNode) (allocation : EthAllocation) : Prop where
  total : (nodes.toList.map (·.eth)).sum = allocation.nodeOperators
  nodes : List.Forall₂ PoolNode.SharedFrom nodes.toList before.toList

/-! ### A share

A minipool gets its share or nothing, and never keeps what it had.  Whoever gets nothing is
marked, and the mark takes nothing from whoever gets something, so a second share is worked
out as the first one was.
-/

theorem PoolMinipool.sharedFrom_withShare (minipool : PoolMinipool) (pot totalScore : Amount) :
    (minipool.withShare pot totalScore).SharedFrom minipool where
  kept := minipool.unshared_withShare pot totalScore
  idle hidle := by
    have hearns : minipool.earns = false := by
      rcases hidle with hduties | hactive
      · simp [earns, hduties]
      · simp [earns, hactive]
    simp [withShare, hearns]

theorem PoolMinipool.earns_withShare (minipool : PoolMinipool) (pot totalScore : Amount) :
    (minipool.withShare pot totalScore).earns = minipool.earns := by
  unfold withShare
  split
  · rfl
  · next hearns =>
    show (minipool.hadDuties && false) = minipool.earns
    rw [Bool.and_false, Bool.eq_false_iff.mpr hearns]

theorem PoolMinipool.withShare_withShare (minipool : PoolMinipool) (pot totalScore : Amount) :
    (minipool.withShare pot totalScore).withShare pot totalScore = minipool.withShare pot totalScore := by
  have hearns := minipool.earns_withShare pot totalScore
  rw [withShare, hearns]
  unfold withShare
  split <;> rfl

/-! ### The shares of a node

A node that takes part earns the sum of its minipools' shares, and any other node earns
nothing.  Its own earlier amount is not looked at.
-/

/-- **Nothing is left of what a node came with.** -/
theorem PoolNode.sharedFrom_withShares (node : PoolNode) (pot totalScore : Amount) :
    (node.withShares pot totalScore).SharedFrom node := by
  unfold withShares
  by_cases heligible : node.eligible
  · rw [if_pos heligible]
    refine ⟨rfl, fun _ => ⟨Amount.sum_eq _, ?_⟩, fun h => absurd heligible (Bool.eq_false_iff.mp h)⟩
    show List.Forall₂ _ (node.minipools.map _).toList node.minipools.toList
    rw [Array.toList_map, List.forall₂_map_left_iff, List.forall₂_same]
    intro minipool _
    exact minipool.sharedFrom_withShare pot totalScore
  · rw [if_neg heligible]
    exact ⟨rfl, fun h => absurd h heligible, fun _ => ⟨rfl, rfl⟩⟩

theorem PoolNode.withShares_withShares (node : PoolNode) (pot totalScore : Amount) :
    (node.withShares pot totalScore).withShares pot totalScore = node.withShares pot totalScore := by
  by_cases heligible : node.eligible
  · simp [withShares, heligible, PoolMinipool.withShare_withShare, Function.comp_def]
  · simp [withShares, heligible]

theorem PoolNode.Unpaid.sharedFrom_self (h : node.Unpaid) : node.SharedFrom node where
  kept := rfl
  eligible _ := by
    refine ⟨h.paidFrom_self.eth, List.forall₂_same.mpr ?_⟩
    intro minipool hmem
    exact ⟨rfl, fun _ => h.share minipool (Array.mem_toList_iff.mp hmem)⟩
  ineligible _ := ⟨h.eth, rfl⟩

/-! ### The split

There are two paths.  With a score the shares are worked out anew; without one the balance
goes to the stakers, and the nodes are handed back as they came.  Only the first of them
answers for the amounts that the nodes leave with.
-/

/-- **A second split changes nothing**, whatever comes of the first. -/
theorem splitBalance_splitBalance (nodes : Array PoolNode) (balance tolerance : Amount)
    (totals : AttestationTotals) :
    splitBalance (splitBalance nodes balance totals tolerance).1 balance totals tolerance =
      splitBalance nodes balance totals tolerance := by
  unfold splitBalance
  by_cases hnone : totals.score = 0 ∨ totals.successful = 0
  · rw [if_pos hnone, if_pos hnone]
  · simp only [if_neg hnone, Array.map_map, Function.comp_def, PoolNode.withShares_withShares]

theorem sum_eth_splitBalance (hscore : ¬(totals.score = 0 ∨ totals.successful = 0))
    (h : (splitBalance nodes balance totals tolerance).2 = .ok allocation) :
    ((splitBalance nodes balance totals tolerance).1.toList.map (·.eth)).sum = allocation.nodeOperators := by
  unfold splitBalance at h ⊢
  rw [if_neg hscore] at h ⊢
  dsimp only at h ⊢
  rcases hreconcile : reconcile "smoothing pool ETH" _ _ tolerance with error | delta
  · rw [hreconcile] at h
    cases h
  · rw [hreconcile] at h
    cases h
    exact (Amount.sum_eq _).symm

theorem sharedOut_self (h : ∀ node ∈ nodes, node.Unpaid) : SharedOut nodes nodes ⟨balance, 0⟩ where
  total := by
    show (nodes.toList.map (·.eth)).sum = 0
    refine List.sum_eq_zero ?_
    intro eth heth
    obtain ⟨node, hmem, rfl⟩ := List.mem_map.mp heth
    exact (h node (Array.mem_toList_iff.mp hmem)).eth
  nodes := by
    refine List.forall₂_same.mpr ?_
    intro node hmem
    exact (h node (Array.mem_toList_iff.mp hmem)).sharedFrom_self

theorem sharedOut_of_score (hscore : ¬(totals.score = 0 ∨ totals.successful = 0))
    (h : (splitBalance nodes balance totals tolerance).2 = .ok allocation) :
    SharedOut (splitBalance nodes balance totals tolerance).1 nodes allocation where
  total := sum_eth_splitBalance hscore h
  nodes := by
    rw [splitBalance, if_neg hscore]
    show List.Forall₂ _ (nodes.map _).toList nodes.toList
    rw [Array.toList_map, List.forall₂_map_left_iff, List.forall₂_same]
    intro node _
    exact node.sharedFrom_withShares _ _

/-- **A split that comes to an end says afresh what every node earns**, and says the same when it is
made again.  Where there is no score to go by, the nodes must have come with nothing. -/
theorem splitBalance_sharedOut (h : (splitBalance nodes balance totals tolerance).2 = .ok allocation)
    (hnone : totals.score = 0 ∨ totals.successful = 0 → ∀ node ∈ nodes, node.Unpaid) :
    SharedOut (splitBalance nodes balance totals tolerance).1 nodes allocation ∧
      splitBalance (splitBalance nodes balance totals tolerance).1 balance totals tolerance =
        ((splitBalance nodes balance totals tolerance).1, .ok allocation) := by
  refine ⟨?_, ?_⟩
  · by_cases hscore : totals.score = 0 ∨ totals.successful = 0
    · have hsplit : splitBalance nodes balance totals tolerance = (nodes, .ok ⟨balance, 0⟩) := if_pos hscore
      rw [hsplit] at h ⊢
      cases h
      exact sharedOut_self (hnone hscore)
    · exact sharedOut_of_score hscore h
  · rw [splitBalance_splitBalance, ← h]

/-- A node whose one minipool attested once, at a score of one ether. -/
def attestedNode : PoolNode where
  address := 1
  rewardNetwork := 0
  optedIn := true
  joined := 0
  left := 100
  eligible := true
  minipools := #[{
    address := 11
    pubkey := 21
    validator := some 7
    bond := ⟨Amount.validatorDeposit, 0, 0, 0, 0⟩
    stakingSince := 0
    owed := {3}
    fulfilled := {3}
    completed := {3}
    wasActive := true
    score := Amount.oneEther
    share := 0 }]
  eth := 0

/-- The node after it earned one ether. -/
def earnedNodes : Array PoolNode := (splitBalance #[attestedNode] Amount.oneEther ⟨Amount.oneEther, 1⟩ 1).1

/-- Two ether take the place of the one that was there. -/
theorem splitBalance_sharedOut_earnedNodes :
    ∃ nodes, splitBalance earnedNodes (2 * Amount.oneEther) ⟨Amount.oneEther, 1⟩ 1 =
        (nodes, .ok ⟨0, 2 * Amount.oneEther⟩) ∧
      earnedNodes.toList.map (·.eth) = [Amount.oneEther] ∧
      SharedOut nodes earnedNodes ⟨0, 2 * Amount.oneEther⟩ ∧
      nodes.toList.map (·.eth) = [2 * Amount.oneEther] := by
  have hsplit : (splitBalance earnedNodes (2 * Amount.oneEther) ⟨Amount.oneEther, 1⟩ 1).2 =
      .ok ⟨0, 2 * Amount.oneEther⟩ := by decide +kernel
  have hscore : ¬((Amount.oneEther : Amount) = 0 ∨ (1 : UInt64) = 0) := by decide
  obtain ⟨hshared, -⟩ := splitBalance_sharedOut hsplit fun hnone => absurd hnone hscore
  refine ⟨_, Prod.ext rfl hsplit, by decide +kernel, hshared, by decide +kernel⟩

/-- Without a score the stakers get the whole ether, and the node is credited the one it came with. -/
theorem not_sharedOut_earnedNodes :
    (splitBalance earnedNodes Amount.oneEther ⟨0, 0⟩ 1).2 = .ok ⟨Amount.oneEther, 0⟩ ∧
      ¬SharedOut (splitBalance earnedNodes Amount.oneEther ⟨0, 0⟩ 1).1 earnedNodes ⟨Amount.oneEther, 0⟩ ∧
      (ethCredits (splitBalance earnedNodes Amount.oneEther ⟨0, 0⟩ 1).1).map (·.amount) =
        [Amount.oneEther] := by
  refine ⟨by decide +kernel, ?_, by decide +kernel⟩
  intro hshared
  have htotal := hshared.total
  revert htotal
  decide +kernel

end PoolRewards
