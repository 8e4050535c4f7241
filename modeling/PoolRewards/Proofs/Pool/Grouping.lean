/-
Grouping by node loses no row and repeats none.

The pool has one entry for each node.  Its minipools are those of the node's rows that are
at work, in the order of the snapshot; but if one of these rows is penalized, wherever it
stands among the others, the entry has none.  Rows are told apart by their positions and not
by what they say, so that of two rows that are alike neither stands for the other.

The lookup by address finds the rows of a node as a search through the snapshot would
(`getElem?_groupBy`), and whether they come in is decided for all of them at once; so an
entry is made of the positions at which the snapshot has an admitted row of its node.  A row
has one address.  Where no two nodes share theirs, it is therefore under one entry.
-/
import PoolRewards.Proofs.Pool.Rows

namespace PoolRewards

/-- A minipool says what its row says, and nothing has happened to it. -/
structure PoolMinipool.MadeOf (minipool : PoolMinipool) (row : MinipoolDetails) : Prop where
  address : minipool.address = row.address
  pubkey : minipool.pubkey = row.pubkey
  validator : minipool.validator = none
  bond : minipool.bond = ⟨row.bond, row.fee, row.bondReduced, row.previousBond, row.previousFee⟩
  stakingSince : minipool.stakingSince = row.statusTime
  owed : minipool.owed = ∅
  fulfilled : minipool.fulfilled = ∅
  completed : minipool.completed = ∅
  wasActive : minipool.wasActive = true
  score : minipool.score = 0
  share : minipool.share = 0

/-- The minipools of an entry are made of the rows at some positions: the admitted rows of its
node, each once and in the order of the snapshot. -/
structure PoolNode.HoldsRows (node : PoolNode) (snapshot : Snapshot) (positions : List Nat) : Prop where
  ascending : positions.Pairwise (· < ·)
  mem_iff : ∀ k, k ∈ positions ↔
    ∃ row, snapshot.minipools[k]? = some row ∧ row.node = node.address ∧ snapshot.Admits row
  minipools : List.Forall₂ (fun minipool k => ∃ row, snapshot.minipools[k]? = some row ∧
    minipool.MadeOf row) node.minipools.toList positions

/-- The row at a position is under an entry. -/
def PoolNode.HasRow (node : PoolNode) (snapshot : Snapshot) (k : Nat) : Prop :=
  ∃ positions, node.HoldsRows snapshot positions ∧ k ∈ positions

/-- The rows of a snapshot are grouped under entries. -/
structure Snapshot.GroupedUnder (snapshot : Snapshot) (nodes : Array PoolNode) : Prop where
  /-- There is one entry for each node, in the order of the snapshot. -/
  entries : nodes.toList.map (·.address) = snapshot.nodes.map (·.address)
  /-- It has the admitted rows of its node, -/
  rows : ∀ node ∈ nodes, ∃ positions, node.HoldsRows snapshot positions
  /-- and no row at all if one that is at work is penalized. -/
  penalized : ∀ node ∈ nodes, ∀ row ∈ snapshot.minipools, row.node = node.address →
    row.AtWork → penaltyThreshold ≤ row.penalties → node.minipools = #[]
  /-- It takes part exactly if it has a minipool. -/
  eligible : ∀ node ∈ nodes, node.eligible = true ↔ node.minipools ≠ #[]
  /-- An admitted row of a node on record is under exactly one entry. -/
  once : ∀ (k : Nat) (row : MinipoolDetails), snapshot.minipools[k]? = some row → snapshot.Admits row →
    row.node ∈ snapshot.nodes.map (·.address) →
      ∃! i : Nat, ∃ node : PoolNode, nodes[i]? = some node ∧ node.HasRow snapshot k

variable {snapshot : Snapshot} {node : PoolNode} {k : Nat}

/-! ### The rows of an entry

A filter keeps the order of what it keeps, so the positions of the rows that pass are
ascending, and the minipools follow them one by one.  Whether the rows come in at all is one
decision for the whole node.
-/

theorem MinipoolDetails.madeOf_ofDetails (row : MinipoolDetails) : (PoolMinipool.ofDetails row).MadeOf row :=
  ⟨rfl, rfl, rfl, rfl, rfl, rfl, rfl, rfl, rfl, rfl, rfl⟩

theorem forall₂_findIdxs {α β : Type} (p : α → Bool) (f : α → β) (members : List α) :
    List.Forall₂ (fun image k => ∃ member, members[k]? = some member ∧ image = f member)
      ((members.filter p).map f) (members.findIdxs p) := by
  rw [List.forall₂_map_left_iff, List.forall₂_iff_get]
  refine ⟨by simp [List.countP_eq_length_filter], ?_⟩
  intro i hi hi'
  refine ⟨(members.filter p)[i], ?_, rfl⟩
  rw [List.getElem_filter_eq_getElem_getElem_findIdxs hi]
  exact List.getElem?_eq_getElem _

/-- A node brings in its admitted rows: whether any of them comes in is the same for all. -/
theorem poolMinipools_admitted (snapshot : Snapshot) (address : Address) :
    (poolMinipools (snapshot.minipools.filter fun row => row.node == address)).toList =
      (snapshot.minipools.filter fun row => row.node = address ∧ snapshot.Admits row).map .ofDetails := by
  by_cases hclean : ∀ row ∈ snapshot.minipools, row.node = address → row.isStaking = true →
      row.penalties < penaltyThreshold
  · rw [poolMinipools_eq_map (by simpa using hclean), List.toList_toArray, List.filter_filter]
    congr 1
    refine List.filter_congr ?_
    intro row hmem
    by_cases hown : row.node = address
    · have hadmits : snapshot.Admits row ↔ row.isStaking = true := by
        rw [Snapshot.admits_iff]
        refine ⟨fun h => h.2.1, fun h => ⟨hmem, h, ?_⟩⟩
        rw [hown]
        exact hclean
      simp [hown, hadmits]
    · simp [hown]
  · push Not at hclean
    obtain ⟨row, hmem, hown, hstaking, hcount⟩ := hclean
    rw [poolMinipools_eq_empty (by simp [hmem, hown]) hstaking (UInt64.not_lt.mp hcount)]
    symm
    rw [List.map_eq_nil_iff, List.filter_eq_nil_iff]
    intro other _ hadmitted
    obtain ⟨hother, hadmits⟩ := of_decide_eq_true hadmitted
    exact hcount (hadmits.unpenalized row hmem (hown.trans hother.symm)
      (MinipoolDetails.isStaking_iff.mp hstaking))

/-- **An entry holds the admitted rows of its node.** -/
theorem exists_holdsRows (hnode : node ∈ snapshot.poolNodes) :
    ∃ positions, node.HoldsRows snapshot positions := by
  obtain ⟨details, -, rfl⟩ := mem_poolNodes.mp hnode
  refine ⟨snapshot.minipools.findIdxs fun row => row.node = details.address ∧ snapshot.Admits row,
    List.pairwise_findIdxs, ?_, ?_⟩
  · intro k
    rw [List.mem_findIdxs_iff_exists_getElem_pos]
    simp only [decide_eq_true_eq, List.getElem?_eq_some_iff]
    refine ⟨?_, ?_⟩
    · intro h
      obtain ⟨hk, hrow⟩ := h
      exact ⟨_, ⟨hk, rfl⟩, hrow⟩
    · intro h
      obtain ⟨row, ⟨hk, rfl⟩, hrow⟩ := h
      exact ⟨hk, hrow⟩
  · show List.Forall₂ _ (poolMinipools _).toList _
    rw [poolMinipools_admitted]
    refine (forall₂_findIdxs _ _ _).imp ?_
    intro minipool k h
    obtain ⟨row, hrow, rfl⟩ := h
    exact ⟨row, hrow, row.madeOf_ofDetails⟩

/-- A penalized row that is at work empties the entry of its node. -/
theorem minipools_eq_empty {row : MinipoolDetails} (hnode : node ∈ snapshot.poolNodes)
    (hmem : row ∈ snapshot.minipools) (hown : row.node = node.address) (hatWork : row.AtWork)
    (hcount : penaltyThreshold ≤ row.penalties) : node.minipools = #[] := by
  obtain ⟨details, -, rfl⟩ := mem_poolNodes.mp hnode
  have hrow : row ∈ snapshot.minipools.filter fun row => row.node == details.address :=
    List.mem_filter.mpr ⟨hmem, beq_iff_eq.mpr hown⟩
  exact poolMinipools_eq_empty hrow (MinipoolDetails.isStaking_iff.mpr hatWork) hcount

theorem eligible_iff (hnode : node ∈ snapshot.poolNodes) :
    node.eligible = true ↔ node.minipools ≠ #[] := by
  obtain ⟨details, -, rfl⟩ := mem_poolNodes.mp hnode
  simp [PoolNode.ofDetails]

/-! ### The entry of a row

Two nodes of one address would both hold the rows of that address.  With distinct addresses
a row has one entry, and with none of its node it has none.
-/

theorem PoolNode.HasRow.address {row : MinipoolDetails} (h : node.HasRow snapshot k)
    (hrow : snapshot.minipools[k]? = some row) : row.node = node.address := by
  obtain ⟨positions, hholds, hk⟩ := h
  obtain ⟨found, hfound, hown, -⟩ := (hholds.mem_iff k).mp hk
  rw [hrow] at hfound
  cases hfound
  exact hown

/-- **Grouping loses no row and repeats none**, if no two nodes have one address. -/
theorem poolNodes_grouped (hnodes : (snapshot.nodes.map (·.address)).Nodup) :
    snapshot.GroupedUnder snapshot.poolNodes where
  entries := map_address_poolNodes snapshot
  rows _ hnode := exists_holdsRows hnode
  penalized _ hnode _ hmem hown hatWork hcount := minipools_eq_empty hnode hmem hown hatWork hcount
  eligible _ hnode := eligible_iff hnode
  once k row hrow hadmits hlisted := by
    rw [← map_address_poolNodes, List.mem_map] at hlisted
    obtain ⟨node, hnode, haddress⟩ := hlisted
    obtain ⟨i, hi⟩ := Array.getElem?_of_mem (Array.mem_toList_iff.mp hnode)
    obtain ⟨positions, hholds⟩ := exists_holdsRows (Array.mem_of_getElem? hi)
    have hk : k ∈ positions := (hholds.mem_iff k).mpr ⟨row, hrow, haddress.symm, hadmits⟩
    refine ⟨i, ⟨node, hi, positions, hholds, hk⟩, ?_⟩
    intro j hother
    obtain ⟨node', hj, hhas⟩ := hother
    refine index_eq_of_key (nodup_addresses hnodes) hj hi ?_
    rw [haddress, hhas.address hrow]

/-- The rows of three nodes and a stranger, in no order.  One of node 1 is penalized but dissolved;
the second of node 2's three is penalized and at work. -/
def interleaved : Snapshot where
  executionBlock := 3
  beaconSlot := 3
  config := ⟨0, 12, 2⟩
  network := ⟨1, 24, 0, 0, 0, 0, 0⟩
  nodes := [⟨1, 0, true, 0, 3, 1⟩, ⟨2, 0, true, 0, 1, 1⟩, ⟨3, 0, false, 5, 1, 1⟩]
  minipools := [
    ⟨11, 1, 21, true, .staking, 0, 0, 0, 0, 0, 0, 0⟩,
    ⟨12, 2, 22, true, .staking, 0, 0, 0, 0, 0, 0, 0⟩,
    ⟨13, 1, 23, true, .dissolved, 0, 3, 0, 0, 0, 0, 0⟩,
    ⟨14, 9, 24, true, .staking, 0, 0, 0, 0, 0, 0, 0⟩,
    ⟨15, 2, 25, true, .staking, 0, 3, 0, 0, 0, 0, 0⟩,
    ⟨16, 1, 26, true, .staking, 0, 2, 0, 0, 0, 0, 0⟩,
    ⟨17, 3, 27, true, .staking, 0, 0, 0, 0, 0, 0, 0⟩,
    ⟨18, 2, 28, true, .staking, 0, 0, 0, 0, 0, 0, 0⟩]
  oracleMembers := []
  validators := ∅

theorem poolNodes_grouped_interleaved :
    (interleaved.nodes.map (·.address)).Nodup ∧ interleaved.GroupedUnder interleaved.poolNodes ∧
      ∃! i : Nat, ∃ node : PoolNode, interleaved.poolNodes[i]? = some node ∧ node.HasRow interleaved 5 := by
  have hnodes : (interleaved.nodes.map (·.address)).Nodup := by decide
  have hgrouped := poolNodes_grouped hnodes
  have hrow : interleaved.minipools[5]? = some ⟨16, 1, 26, true, .staking, 0, 2, 0, 0, 0, 0, 0⟩ := rfl
  have hadmits := Snapshot.Admits.mk (List.mem_of_getElem? hrow) ⟨rfl, rfl⟩ (by decide)
  exact ⟨hnodes, hgrouped, hgrouped.once 5 _ hrow hadmits (by decide)⟩

example : interleaved.poolNodes.toList.map (fun node => node.minipools.toList.map (·.address)) =
    [[11, 16], [], [17]] := by decide

end PoolRewards
