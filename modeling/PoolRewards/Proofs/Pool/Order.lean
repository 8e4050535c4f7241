/-
The order of nodes and of their minipools does not matter to the split.

Two lists of nodes are alike if the one has the other's nodes in some order, each with its
minipools in some order.  The shares are worked out minipool by minipool, what is paid is a
sum, and the report is by address; so alike nodes are paid alike.
-/
import Mathlib.Algebra.BigOperators.Group.Multiset.Basic
import Mathlib.Data.Multiset.Bind
import PoolRewards.Pool.Split
import PoolRewards.Proofs.Duties.Places

namespace PoolRewards

variable {nodes nodes' : Array PoolNode}

/-- A node, and its minipools whatever their order. -/
def PoolNode.contents (node : PoolNode) : PoolNode × Multiset PoolMinipool :=
  (node.bare, node.minipools.toList)

/-- The same nodes with the same minipools, in any order. -/
def NodesAlike (nodes nodes' : Array PoolNode) : Prop :=
  (nodes.toList.map (·.contents)).Perm (nodes'.toList.map (·.contents))

namespace NodesAlike

/-- What is told by contents comes in some order. -/
theorem map_perm {β : Type} (h : NodesAlike nodes nodes') (g : PoolNode × Multiset PoolMinipool → β) :
    (nodes.toList.map fun node => g node.contents).Perm (nodes'.toList.map fun node => g node.contents) := by
  have hmap := h.map g
  rw [List.map_map, List.map_map] at hmap
  exact hmap

theorem bare_perm (h : NodesAlike nodes nodes') :
    (nodes.toList.map (·.bare)).Perm (nodes'.toList.map (·.bare)) := h.map_perm Prod.fst

theorem flatMap_perm (h : NodesAlike nodes nodes') (keep : PoolNode → PoolMinipool → Bool) :
    (nodes.toList.flatMap fun node => node.minipools.toList.filter (keep node.bare)).Perm
      (nodes'.toList.flatMap fun node => node.minipools.toList.filter (keep node.bare)) := by
  have hbind : ∀ nodes : Array PoolNode,
      ((nodes.toList.flatMap fun node => node.minipools.toList.filter (keep node.bare) :
        List PoolMinipool) : Multiset PoolMinipool) =
      ((nodes.toList.map (·.contents) : List _) : Multiset (PoolNode × Multiset PoolMinipool)).bind
        fun c => c.2.filter fun minipool => keep c.1 minipool = true := by
    intro nodes
    rw [← Multiset.coe_bind, ← Multiset.map_coe, Multiset.bind_map]
    congr 1
    funext node
    show _ = Multiset.filter _ (node.minipools.toList : Multiset PoolMinipool)
    rw [Multiset.filter_coe]
    simp only [Bool.decide_eq_true]
    rfl
  rw [← Multiset.coe_eq_coe, hbind, hbind, Multiset.coe_eq_coe.mpr h]

theorem minipoolsOf_perm (h : NodesAlike nodes nodes') : (minipoolsOf nodes).Perm (minipoolsOf nodes') := by
  have hperm := h.flatMap_perm fun _ _ => true
  simp only [List.filter_true] at hperm
  exact hperm

end NodesAlike

/-! ### Shares

A share depends on the pot, the total score and the minipool itself.  So the contents of a
node with its shares are known from its contents before.
-/

/-- The contents of a node with shares, from those without. -/
def sharedContents (pot totalScore : Amount) (contents : PoolNode × Multiset PoolMinipool) :
    PoolNode × Multiset PoolMinipool :=
  if contents.1.eligible then
    let minipools := contents.2.map (·.withShare pot totalScore)
    ({ contents.1 with eth := (minipools.map (·.share)).sum }, minipools)
  else ({ contents.1 with eth := 0 }, contents.2)

theorem PoolNode.contents_withShares (node : PoolNode) (pot totalScore : Amount) :
    (node.withShares pot totalScore).contents = sharedContents pot totalScore node.contents := by
  unfold PoolNode.withShares sharedContents
  show _ = if node.eligible = true then _ else _
  split
  · simp only [PoolNode.contents, PoolNode.bare, Array.toList_map, Multiset.map_coe, Multiset.sum_coe,
      Amount.sum_eq]
  · rfl

theorem NodesAlike.withShares (h : NodesAlike nodes nodes') (pot totalScore : Amount) :
    NodesAlike (nodes.map (·.withShares pot totalScore)) (nodes'.map (·.withShares pot totalScore)) := by
  have hmap : ∀ nodes : Array PoolNode,
      (nodes.map (·.withShares pot totalScore)).toList.map (·.contents) =
        nodes.toList.map fun node => (node.withShares pot totalScore).contents := by
    intro nodes
    rw [Array.toList_map, List.map_map]
    rfl
  unfold NodesAlike
  rw [hmap, hmap]
  simp only [PoolNode.contents_withShares]
  exact h.map_perm (sharedContents pot totalScore)

theorem NodesAlike.sum_eth (h : NodesAlike nodes nodes') :
    Amount.sum (nodes.toList.map (·.eth)) = Amount.sum (nodes'.toList.map (·.eth)) :=
  Amount.sum_perm (h.map_perm fun c => c.1.eth)

/-- **Alike nodes are paid alike.** -/
theorem NodesAlike.splitBalance (h : NodesAlike nodes nodes') (balance tolerance : Amount)
    (totals : AttestationTotals) :
    NodesAlike (splitBalance nodes balance totals tolerance).1
        (PoolRewards.splitBalance nodes' balance totals tolerance).1 ∧
      (PoolRewards.splitBalance nodes balance totals tolerance).2 =
        (PoolRewards.splitBalance nodes' balance totals tolerance).2 := by
  unfold PoolRewards.splitBalance
  split
  · exact ⟨h, rfl⟩
  · have hshares := h.withShares (operatorPot balance totals) totals.score
    refine ⟨hshares, ?_⟩
    dsimp only
    rw [hshares.sum_eth]

/-! ### Credits and the report

Credits come in the order of the nodes, and only their order changes.  The report is a map
by address, which has no order as long as no two minipools have one address.
-/

theorem NodesAlike.ethCredits (h : NodesAlike nodes nodes') :
    (ethCredits nodes).Perm (PoolRewards.ethCredits nodes') := by
  have hbare : ∀ nodes : Array PoolNode, PoolRewards.ethCredits nodes =
      ((nodes.toList.map (·.bare)).filter (·.isPaid)).map fun node =>
        ⟨node.address, node.rewardNetwork, .smoothingPoolEth, node.eth⟩ := by
    intro nodes
    rw [List.filter_map, List.map_map]
    rfl
  rw [hbare, hbare]
  exact (h.bare_perm.filter _).map _

theorem reportedMinipools_eq (nodes : Array PoolNode) :
    reportedMinipools nodes = nodes.toList.flatMap fun node =>
      node.minipools.toList.filter fun minipool => node.bare.isPaid && minipool.hadDuties := by
  unfold reportedMinipools
  induction nodes.toList with
  | nil => rfl
  | cons node rest ih =>
      rw [List.flatMap_cons, ← ih, List.filter_cons]
      have hpaid : node.bare.isPaid = node.isPaid := rfl
      rw [hpaid]
      split
      · next hpaid =>
        rw [List.flatMap_cons, hpaid]
        simp only [Bool.true_and]
      · next hpaid =>
        rw [Bool.eq_false_of_not_eq_true hpaid]
        simp only [Bool.false_and, List.filter_false, List.nil_append]

theorem reportedMinipools_sublist (nodes : Array PoolNode) :
    (reportedMinipools nodes).Sublist (minipoolsOf nodes) := by
  rw [reportedMinipools_eq]
  unfold minipoolsOf
  induction nodes.toList with
  | nil => exact List.Sublist.refl _
  | cons node rest ih =>
      rw [List.flatMap_cons, List.flatMap_cons]
      exact List.filter_sublist.append ih

/-- **The report does not depend on any order**, where no two minipools have one address. -/
theorem NodesAlike.performanceReport (h : NodesAlike nodes nodes')
    (hdistinct : ((minipoolsOf nodes).map (·.address)).Nodup) :
    performanceReport nodes = PoolRewards.performanceReport nodes' := by
  have hperm : (reportedMinipools nodes).Perm (reportedMinipools nodes') := by
    rw [reportedMinipools_eq, reportedMinipools_eq]
    exact h.flatMap_perm fun node minipool => node.isPaid && minipool.hadDuties
  have hnodup := hdistinct.sublist ((reportedMinipools_sublist nodes).map _)
  refine hperm.foldl_eq' ?_ ∅
  intro minipool hmem minipool' hmem' report
  by_cases haddress : minipool.address = minipool'.address
  · rw [List.inj_on_of_nodup_map hnodup hmem hmem' haddress]
  · apply Std.ExtTreeMap.ext_getElem?
    intro address
    simp only [Std.ExtTreeMap.getElem?_insert, Std.LawfulEqCmp.compare_eq_iff_eq]
    by_cases hfirst : minipool.address = address
    · rw [if_neg fun hsecond => haddress (hfirst.trans hsecond.symm), if_pos hfirst, if_pos hfirst]
    · rw [if_neg hfirst, if_neg hfirst]

end PoolRewards
