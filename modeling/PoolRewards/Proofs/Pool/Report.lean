/-
What is reported of the minipools.

A split of the balance changes nothing of a node but what it and its minipools earn, and
only a minipool with duties and a score earns anything.  So the report, which leaves out
minipools without duties, leaves out no ether: what it says of a node's minipools comes to
what the node is paid, and no minipool of another node is in it.

The attestations that are reported are counts of sets of slots.  The slots seen and those
missed are the slots owed, and these lie within the interval, so no count wraps as long as
slot zero is not one of them.
-/
import Mathlib.Data.List.Nodup
import PoolRewards.Proofs.Duties.Soundness
import PoolRewards.Proofs.Maps
import PoolRewards.Proofs.Pool.Order

namespace PoolRewards

variable {nodes : Array PoolNode} {origin node : PoolNode} {minipool : PoolMinipool}
  {balance tolerance pot totalScore : Amount} {totals : AttestationTotals}

/-! ### What a split leaves

A split writes shares, marks and the nodes' ether.  What it leaves alone is told by
comparing the nodes without these, so that what the report says of duties can be taken from
before the split.
-/

/-- The minipool without what a split changes. -/
def PoolMinipool.unshared (minipool : PoolMinipool) : PoolMinipool :=
  { minipool with wasActive := true, share := 0 }

/-- Nothing has been shared out to a node. -/
structure PoolNode.Unpaid (node : PoolNode) : Prop where
  eth : node.eth = 0
  share : ∀ minipool ∈ node.minipools, minipool.share = 0

/-- A node as a split leaves it. -/
structure PoolNode.PaidFrom (node origin : PoolNode) : Prop where
  kept : { node.bare with eth := 0 } = { origin.bare with eth := 0 }
  minipools : node.minipools.toList.map (·.unshared) = origin.minipools.toList.map (·.unshared)
  eth : node.eth = (node.minipools.toList.map (·.share)).sum
  /-- Only a minipool with duties and a score earns anything. -/
  share : ∀ minipool ∈ node.minipools, minipool.share ≠ 0 →
    minipool.hadDuties = true ∧ minipool.score ≠ 0

theorem PoolNode.Unpaid.paidFrom_self (h : node.Unpaid) : node.PaidFrom node where
  kept := rfl
  minipools := rfl
  eth := by
    rw [h.eth, eq_comm]
    refine List.sum_eq_zero ?_
    intro share hshare
    obtain ⟨minipool, hmem, rfl⟩ := List.mem_map.mp hshare
    exact h.share minipool (Array.mem_toList_iff.mp hmem)
  share minipool hmem hshare := absurd (h.share minipool hmem) hshare

theorem PoolMinipool.unshared_withShare (minipool : PoolMinipool) (pot totalScore : Amount) :
    (minipool.withShare pot totalScore).unshared = minipool.unshared := by
  unfold PoolMinipool.withShare
  split <;> rfl

theorem PoolMinipool.share_withShare (hshare : (minipool.withShare pot totalScore).share ≠ 0) :
    (minipool.withShare pot totalScore).hadDuties = true ∧
      (minipool.withShare pot totalScore).score ≠ 0 := by
  unfold PoolMinipool.withShare at hshare ⊢
  split at hshare
  · next hearns =>
    rw [if_pos hearns]
    refine ⟨(Bool.and_eq_true_iff.mp hearns).1, ?_⟩
    intro hzero
    have hzero : minipool.score = 0 := hzero
    rw [hzero] at hshare
    simp at hshare
  · exact absurd rfl hshare

theorem PoolNode.Unpaid.paidFrom_withShares (h : origin.Unpaid) (pot totalScore : Amount) :
    (origin.withShares pot totalScore).PaidFrom origin := by
  unfold PoolNode.withShares
  split
  · refine ⟨rfl, ?_, Amount.sum_eq _, ?_⟩
    · show (origin.minipools.map _).toList.map _ = _
      rw [Array.toList_map, List.map_map]
      exact List.map_congr_left fun minipool _ => minipool.unshared_withShare pot totalScore
    · intro minipool hmem hshare
      obtain ⟨before, -, rfl⟩ := Array.mem_map.mp hmem
      exact PoolMinipool.share_withShare hshare
  · have hself := h.paidFrom_self
    exact ⟨rfl, rfl, h.eth.symm.trans hself.eth, hself.share⟩

/-- **A split pays each node by its minipools**, and leaves the rest of it. -/
theorem exists_paidFrom (h : ∀ node ∈ nodes, node.Unpaid)
    (hmem : node ∈ (splitBalance nodes balance totals tolerance).1) :
    ∃ origin ∈ nodes, node.PaidFrom origin := by
  unfold splitBalance at hmem
  split at hmem
  · exact ⟨node, hmem, (h node hmem).paidFrom_self⟩
  · obtain ⟨origin, horigin, rfl⟩ := Array.mem_map.mp hmem
    exact ⟨origin, horigin, (h origin horigin).paidFrom_withShares _ _⟩

theorem PoolNode.PaidFrom.exists_minipool (h : node.PaidFrom origin) (hmem : minipool ∈ node.minipools) :
    ∃ before ∈ origin.minipools, minipool.unshared = before.unshared := by
  have hmem : minipool.unshared ∈ origin.minipools.toList.map (·.unshared) := by
    rw [← h.minipools]
    exact List.mem_map_of_mem (Array.mem_toList_iff.mpr hmem)
  obtain ⟨before, hbefore, heq⟩ := List.mem_map.mp hmem
  exact ⟨before, Array.mem_toList_iff.mp hbefore, heq.symm⟩

theorem map_address_withShares (node : PoolNode) (pot totalScore : Amount) :
    (node.withShares pot totalScore).minipools.toList.map (·.address) =
      node.minipools.toList.map (·.address) := by
  unfold PoolNode.withShares
  split
  · show (node.minipools.map _).toList.map _ = _
    rw [Array.toList_map, List.map_map]
    refine List.map_congr_left ?_
    intro minipool _
    show (minipool.withShare pot totalScore).address = minipool.address
    unfold PoolMinipool.withShare
    split <;> rfl
  · rfl

theorem map_address_splitBalance (nodes : Array PoolNode) (balance tolerance : Amount)
    (totals : AttestationTotals) :
    (minipoolsOf (splitBalance nodes balance totals tolerance).1).map (·.address) =
      (minipoolsOf nodes).map (·.address) := by
  unfold splitBalance
  split
  · rfl
  · unfold minipoolsOf
    rw [Array.toList_map, List.map_flatMap, List.map_flatMap, List.flatMap_map]
    refine List.flatMap_congr ?_
    intro node _
    exact map_address_withShares node _ _

theorem map_nodeAddress_splitBalance (nodes : Array PoolNode) (balance tolerance : Amount)
    (totals : AttestationTotals) :
    (splitBalance nodes balance totals tolerance).1.toList.map (·.address) =
      nodes.toList.map (·.address) := by
  unfold splitBalance
  split
  · rfl
  · rw [Array.toList_map, List.map_map]
    refine List.map_congr_left ?_
    intro node _
    show (node.withShares (operatorPot balance totals) totals.score).address = node.address
    unfold PoolNode.withShares
    split <;> rfl

/-! ### What is reported comes to what is paid

The report leaves out minipools without duties, and nodes that are paid nothing.  Neither
earns anything, so the sums with and without them are the same.
-/

/-- The report lists each minipool that is reported, if no two of them have one address. -/
theorem toList_performanceReport_perm (h : ((minipoolsOf nodes).map (·.address)).Nodup) :
    (performanceReport nodes).toList.Perm
      ((reportedMinipools nodes).map fun minipool => (minipool.address, minipool.performance)) :=
  toList_foldl_insert_perm _ _ _ (h.sublist ((reportedMinipools_sublist nodes).map _))

theorem mem_reportedMinipools :
    minipool ∈ reportedMinipools nodes ↔ ∃ node ∈ nodes, node.isPaid = true ∧
      minipool ∈ node.minipools ∧ minipool.hadDuties = true := by
  unfold reportedMinipools
  simp only [List.mem_flatMap, List.mem_filter, Array.mem_toList_iff, and_assoc]

/-- An entry of the report is that of a minipool with duties whose node is paid. -/
theorem getElem?_performanceReport (h : ((minipoolsOf nodes).map (·.address)).Nodup) {address : Address}
    {entry : MinipoolPerformance} :
    (performanceReport nodes)[address]? = some entry ↔ ∃ node ∈ nodes, node.isPaid = true ∧
      ∃ minipool ∈ node.minipools, minipool.hadDuties = true ∧ minipool.address = address ∧
        minipool.performance = entry := by
  rw [← Std.ExtTreeMap.mem_toList_iff_getElem?_eq_some, (toList_performanceReport_perm h).mem_iff,
    List.mem_map]
  simp only [mem_reportedMinipools, Prod.mk.injEq]
  refine ⟨?_, ?_⟩
  · intro hentry
    obtain ⟨minipool, ⟨node, hnode, hpaid, hmem, hduties⟩, haddress, hperformance⟩ := hentry
    exact ⟨node, hnode, hpaid, minipool, hmem, hduties, haddress, hperformance⟩
  · intro hentry
    obtain ⟨node, hnode, hpaid, minipool, hmem, hduties, haddress, hperformance⟩ := hentry
    exact ⟨minipool, ⟨node, hnode, hpaid, hmem, hduties⟩, haddress, hperformance⟩

/-- **What is reported of the minipools of some nodes comes to what these nodes are paid.** -/
theorem sum_reportedMinipools {own : PoolMinipool → Bool} {keep : PoolNode → Bool}
    (heth : ∀ node ∈ nodes, node.eth = (node.minipools.toList.map (·.share)).sum)
    (hidle : ∀ node ∈ nodes, ∀ minipool ∈ node.minipools, minipool.hadDuties = false → minipool.share = 0)
    (hown : ∀ node ∈ nodes, ∀ minipool ∈ node.minipools, own minipool = keep node) :
    (((reportedMinipools nodes).filter own).map (·.share)).sum =
      (((nodes.toList.filter (·.isPaid)).filter keep).map (·.eth)).sum := by
  unfold reportedMinipools
  have hpaid : ∀ node ∈ nodes.toList.filter (·.isPaid), node ∈ nodes := fun node hmem =>
    Array.mem_toList_iff.mp (List.mem_of_mem_filter hmem)
  generalize nodes.toList.filter (·.isPaid) = paid at hpaid ⊢
  induction paid with
  | nil => rfl
  | cons node rest ih =>
      have hnode := hpaid node List.mem_cons_self
      have hrest := ih fun other hmem => hpaid other (List.mem_cons_of_mem _ hmem)
      have hself : (node.minipools.toList.filter (·.hadDuties)).filter own =
          if keep node then node.minipools.toList.filter (·.hadDuties) else [] := by
        split
        · next hkeep =>
          refine List.filter_eq_self.mpr ?_
          intro minipool hmem
          rw [hown node hnode minipool (Array.mem_toList_iff.mp (List.mem_of_mem_filter hmem))]
          exact hkeep
        · next hkeep =>
          refine List.filter_eq_nil_iff.mpr ?_
          intro minipool hmem
          rw [hown node hnode minipool (Array.mem_toList_iff.mp (List.mem_of_mem_filter hmem))]
          exact hkeep
      rw [List.flatMap_cons, List.filter_append, List.map_append, List.sum_append, hrest, hself,
        List.filter_cons]
      split
      · rw [List.map_cons, List.sum_cons, heth node hnode, sum_map_filter_of_zero]
        intro minipool hmem
        exact hidle node hnode minipool (Array.mem_toList_iff.mp hmem)
      · rw [List.map_nil, List.sum_nil, zero_add]

/-! ### Counts of slots

A count is a word, while the sets of slots could have any size.  They have not: their
members lie within the interval, and an interval that does not begin at slot zero has fewer
slots than there are words.
-/

/-- A list of different words between two bounds is no longer than there are words between them. -/
theorem length_le_of_between {words : List UInt64} {first last : UInt64} (hnodup : words.Nodup)
    (hbetween : ∀ word ∈ words, first ≤ word ∧ word ≤ last) :
    words.length ≤ last.toNat + 1 - first.toNat := by
  have hnumbers : (words.map (·.toNat)).Nodup := hnodup.map fun a b h => UInt64.toNat_inj.mp h
  have hsub : words.map (·.toNat) ⊆ List.range' first.toNat (last.toNat + 1 - first.toNat) := by
    intro n hn
    obtain ⟨word, hword, rfl⟩ := List.mem_map.mp hn
    obtain ⟨hfirst, hlast⟩ := hbetween word hword
    rw [UInt64.le_iff_toNat_le] at hfirst hlast
    rw [List.mem_range'_1]
    omega
  have hle := (List.subperm_of_subset hnumbers hsub).length_le
  rwa [List.length_map, List.length_range'] at hle

/-- The attestations of an entry are counted: the missing slots are listed once each, in order and
within the interval, and there is at least one slot and no more than the interval has. -/
structure MinipoolPerformance.Counted (bounds : IntervalBounds) (entry : MinipoolPerformance) : Prop where
  ascending : entry.missingSlots.Pairwise (· < ·)
  within : ∀ slot ∈ entry.missingSlots, bounds.firstSlot ≤ slot ∧ slot ≤ bounds.lastSlot
  missed : entry.missingSlots.length = entry.missed.toNat
  some : 1 ≤ entry.successful.toNat + entry.missed.toNat
  fits : entry.successful.toNat + entry.missed.toNat ≤ bounds.lastSlot.toNat - bounds.firstSlot.toNat + 1

theorem PoolMinipool.Sound.size_owed {config : BeaconConfig} {bounds : IntervalBounds}
    (h : minipool.Sound config bounds node) :
    minipool.completed.size + minipool.missing.length = minipool.owed.size := by
  have hseen : (minipool.owed.toList.filter minipool.fulfilled.contains).Perm minipool.fulfilled.toList := by
    refine (List.perm_ext_iff_of_nodup ((SlotSet.nodup_toList _).filter _) (SlotSet.nodup_toList _)).mpr ?_
    intro slot
    rw [List.mem_filter, Std.ExtTreeSet.mem_toList, Std.ExtTreeSet.mem_toList,
      Std.ExtTreeSet.contains_iff_mem]
    exact ⟨And.right, fun hs => ⟨h.fulfilled slot hs, hs⟩⟩
  have hsplit := List.length_eq_length_filter_add (l := minipool.owed.toList) minipool.fulfilled.contains
  rw [hseen.length_eq, Std.ExtTreeSet.length_toList, Std.ExtTreeSet.length_toList] at hsplit
  rw [h.completed]
  exact hsplit.symm

theorem PoolMinipool.Sound.of_unshared {config : BeaconConfig} {bounds : IntervalBounds}
    {before : PoolMinipool} (h : before.Sound config bounds node) (hsame : minipool.unshared = before.unshared) :
    minipool.Sound config bounds node := by
  have howed : minipool.owed = before.owed := congrArg (·.owed) hsame
  have hfulfilled : minipool.fulfilled = before.fulfilled := congrArg (·.fulfilled) hsame
  have hcompleted : minipool.completed = before.completed := congrArg (·.completed) hsame
  have hscore : minipool.score = before.score := congrArg (·.score) hsame
  have hbond : minipool.bond = before.bond := congrArg (·.bond) hsame
  have hstaking : minipool.stakingSince = before.stakingSince := congrArg (·.stakingSince) hsame
  refine ⟨?_, ?_, ?_, ?_⟩
  · rw [howed]
    intro slot hs
    obtain ⟨hin, htime, hopt, hstake⟩ := h.owed slot hs
    exact ⟨hin, htime, hopt, hstaking ▸ hstake⟩
  · rw [howed, hfulfilled]
    exact h.fulfilled
  · rw [hcompleted, hfulfilled]
    exact h.completed
  · rw [hscore, hbond, hcompleted]
    exact h.score

/-- **What is reported of a minipool with duties is counted.** -/
theorem PoolMinipool.Sound.counted {config : BeaconConfig} {bounds : IntervalBounds}
    (h : minipool.Sound config bounds node) (hduties : minipool.hadDuties = true)
    (hfirst : 1 ≤ bounds.firstSlot) : minipool.performance.Counted bounds := by
  have hbetween : ∀ slot ∈ minipool.owed, bounds.firstSlot ≤ slot ∧ slot ≤ bounds.lastSlot := by
    intro slot hs
    have hin := (h.owed slot hs).inBounds
    rw [IntervalBounds.contains, Bool.and_eq_true, decide_eq_true_eq, decide_eq_true_eq] at hin
    exact hin
  have howed : minipool.owed.size ≤ bounds.lastSlot.toNat + 1 - bounds.firstSlot.toNat := by
    rw [← Std.ExtTreeSet.length_toList]
    exact length_le_of_between (SlotSet.nodup_toList _) fun slot hs =>
      hbetween slot (Std.ExtTreeSet.mem_toList.mp hs)
  have hsome : 1 ≤ minipool.completed.size + minipool.missing.length := by
    unfold PoolMinipool.hadDuties at hduties
    rcases Bool.or_eq_true_iff.mp hduties with hcompleted | hmissing
    · have hne : minipool.completed.size ≠ 0 := by
        intro hzero
        rw [Std.ExtTreeSet.isEmpty_eq_size_beq_zero, hzero] at hcompleted
        cases hcompleted
      omega
    · have hne : minipool.missing.length ≠ 0 := by
        intro hzero
        rw [List.length_eq_zero_iff.mp hzero] at hmissing
        cases hmissing
      omega
  have hsize := h.size_owed
  have hlast := bounds.lastSlot.toNat_lt_size
  rw [UInt64.le_iff_toNat_le, UInt64.toNat_one] at hfirst
  have hcompleted : (UInt64.ofNat minipool.completed.size).toNat = minipool.completed.size :=
    UInt64.toNat_ofNat_of_lt' (by omega)
  have hmissing : (UInt64.ofNat minipool.missing.length).toNat = minipool.missing.length :=
    UInt64.toNat_ofNat_of_lt' (by omega)
  refine ⟨?_, ?_, hmissing.symm, ?_, ?_⟩
  · refine List.Pairwise.filter _ (minipool.owed.ordered_toList.imp ?_)
    intro a b hlt
    exact compareOfLessAndEq_eq_lt.mp hlt
  · intro slot hs
    exact hbetween slot (Std.ExtTreeSet.mem_toList.mp (List.mem_of_mem_filter hs))
  · show 1 ≤ (UInt64.ofNat minipool.completed.size).toNat + (UInt64.ofNat minipool.missing.length).toNat
    omega
  · show (UInt64.ofNat minipool.completed.size).toNat + (UInt64.ofNat minipool.missing.length).toNat ≤ _
    omega

end PoolRewards
