/-
Every payout conserves the balance.

The totals of a payout come from a walk over the interval, whatever the client says, or
from counting every current minipool once.  Either way the totals add up the minipools, so
the split of the balance accounts for all of it and is never rejected.  After a walk only
tracked minipools have a score, and no two of them have one public key; that there are no
more of them than rows needs nothing else, however many rows repeat a node, a key or a
validator.
-/
import PoolRewards.Proofs.Duties.AnyClient
import PoolRewards.Proofs.Duties.Attested
import PoolRewards.Proofs.Pool.Conservation
import PoolRewards.Proofs.Pool.Rows

namespace PoolRewards

open Std (ExtTreeMap)

/-- A snapshot with modest bonds, of fewer rows than there are words. -/
structure Snapshot.Modest (snapshot : Snapshot) : Prop where
  minipools : ∀ row ∈ snapshot.minipools, (BondHistory.ofMinipool row).Modest
  nodeRows : snapshot.nodes.length < UInt64.size
  minipoolRows : snapshot.minipools.length < UInt64.size

variable {snapshot : Snapshot} {bounds : IntervalBounds}

theorem Snapshot.Modest.length_le_tolerance (h : snapshot.Modest) :
    snapshot.minipools.length ≤ snapshot.tolerance.toNat := by
  have hsize : UInt64.size = 2 ^ 64 := rfl
  have hnodes := h.nodeRows
  have hminipools := h.minipoolRows
  rw [Snapshot.tolerance, BitVec.toNat_ofNat, Nat.mod_eq_of_lt (by omega)]
  omega

/-! ### After a walk

A minipool with a score is tracked, and tracked minipools stand for different rows.  So
there are no more of them than the tolerance allows for, however the rows repeat each other.
-/

section walk

open Tracker

variable {start after : Tracker} {place : Place} {node : PoolNode} {minipool : PoolMinipool}
  {validator : UInt64}

/-- The totals of a sound tracker add up what its minipools have reached. -/
theorem Tracker.Sound.tallied (hmodest : snapshot.Modest)
    (hstarted : Started snapshot bounds snapshot.poolNodes start) (hframe : after.frame = start.frame)
    (h : after.Sound) : Tallied after.nodes after.totals where
  score := h.score
  successful := h.successful
  worth minipool hmem := by
    obtain ⟨node, hnode, hmem⟩ := mem_minipoolsOf.mp hmem
    obtain ⟨place, hat⟩ := exists_place hnode hmem
    obtain ⟨row, hrow, hof⟩ := hstarted.origin hframe hat
    have hbond : minipool.bond.Modest := by
      rw [hof.bond]
      exact hmodest.minipools row hrow
    rw [(h.minipool hat).score]
    exact hbond.toNat_scoreOver_le _ _
  earns node hnode minipool hmem hscore := by
    obtain ⟨place, hat⟩ := exists_place hnode hmem
    obtain ⟨validator, hv⟩ := h.tracked_of_score hat hscore
    obtain ⟨node', minipool', hat', -, hactive, helig⟩ := h.linked hv
    rw [hat] at hat'
    cases hat'
    have hcompleted : minipool.completed.isEmpty = false := by
      rw [(h.minipool hat).completed, Std.ExtTreeSet.isEmpty_eq_false_iff]
      exact (h.minipool hat).fulfilled_ne_empty hscore
    refine ⟨?_, helig⟩
    rw [PoolMinipool.earns, PoolMinipool.hadDuties, hcompleted, hactive]
    rfl
  share minipool hmem := by
    obtain ⟨node, hnode, hmem⟩ := mem_minipoolsOf.mp hmem
    obtain ⟨place, hat⟩ := exists_place hnode hmem
    obtain ⟨row, -, hof⟩ := hstarted.origin hframe hat
    exact hof.share
  eth node hnode := hstarted.eth hframe hnode

/-- No more minipools have a score than the snapshot has rows. -/
theorem Tracker.Sound.scoredCount_le (hstarted : Started snapshot bounds snapshot.poolNodes start)
    (hframe : after.frame = start.frame) (h : after.Sound) :
    scoredCount after.nodes ≤ snapshot.minipools.length := by
  -- The public key of a minipool with a score leads to its validator, and that to its place.
  have hdistinct : (minipoolsOf after.nodes).Pairwise fun minipool minipool' =>
      minipool.score ≠ 0 → minipool'.score ≠ 0 → minipool.pubkey ≠ minipool'.pubkey := by
    refine pairwise_minipoolsOf ?_
    intro place other node minipool node' minipool' hne hat hat' hscore hscore' hpubkey
    obtain ⟨validator, hv⟩ := h.tracked_of_score hat hscore
    obtain ⟨validator', hv'⟩ := h.tracked_of_score hat' hscore'
    have hfound := hstarted.resolves hframe hv hat
    rw [hpubkey, hstarted.resolves hframe hv' hat'] at hfound
    cases hfound
    rw [hv] at hv'
    exact hne (Option.some.inj hv')
  have hnodup : (((minipoolsOf after.nodes).filter (·.score ≠ 0)).map (·.pubkey)).Nodup := by
    rw [List.Nodup, List.pairwise_map, List.pairwise_filter]
    refine hdistinct.imp ?_
    intro minipool minipool' hne hscore hscore'
    exact hne (of_decide_eq_true hscore) (of_decide_eq_true hscore')
  have hsubset : ((minipoolsOf after.nodes).filter (·.score ≠ 0)).map (·.pubkey) ⊆
      snapshot.minipools.map (·.pubkey) := by
    intro pubkey hmem
    obtain ⟨minipool, hscored, rfl⟩ := List.mem_map.mp hmem
    obtain ⟨node, hnode, hminipool⟩ := mem_minipoolsOf.mp (List.mem_of_mem_filter hscored)
    obtain ⟨place, hat⟩ := exists_place hnode hminipool
    obtain ⟨row, hrow, hof⟩ := hstarted.origin hframe hat
    exact List.mem_map.mpr ⟨row, hrow, hof.pubkey.symm⟩
  have hlength := (List.subperm_of_subset hnodup hsubset).length_le
  rw [List.length_map, List.length_map, ← List.countP_eq_length_filter] at hlength
  exact hlength

end walk

/-! ### Without looking at the chain

The estimate counts every current minipool once, tracked or not.  Here rows that are under
two nodes would be counted twice, so this half needs the addresses of nodes to be distinct.
-/

theorem sum_ite_eq_count (address : Address) (addresses : List Address) :
    (addresses.map fun other => if address == other then 1 else 0).sum = addresses.count address := by
  induction addresses with
  | nil => rfl
  | cons other rest ih =>
      rw [List.map_cons, List.sum_cons, List.count_cons, ih, Nat.add_comm, BEq.comm]

/-- Where no two nodes have one address, each row is in at most one node's group. -/
theorem sum_groups_le (rows : List MinipoolDetails) (addresses : List Address)
    (hdistinct : addresses.Nodup) :
    (addresses.map fun address => (rows.filter fun row => row.node == address).length).sum ≤
      rows.length := by
  induction rows with
  | nil => simp
  | cons row rest ih =>
      have hone : (addresses.map fun address => if row.node == address then 1 else 0).sum ≤ 1 := by
        rw [sum_ite_eq_count]
        exact List.nodup_iff_count_le_one.mp hdistinct row.node
      have hsplit : (addresses.map fun address =>
            ((row :: rest).filter fun row => row.node == address).length).sum =
          (addresses.map fun address => if row.node == address then 1 else 0).sum +
            (addresses.map fun address => (rest.filter fun row => row.node == address).length).sum := by
        rw [← List.sum_map_add]
        congr 1
        refine List.map_congr_left ?_
        intro address _
        rw [List.filter_cons]
        split
        · rw [List.length_cons, Nat.add_comm]
        · rw [Nat.zero_add]
      rw [hsplit, List.length_cons]
      omega

theorem length_minipoolsOf_poolNodes (hdistinct : (snapshot.nodes.map (·.address)).Nodup) :
    (minipoolsOf snapshot.poolNodes).length ≤ snapshot.minipools.length := by
  refine le_trans ?_ (sum_groups_le snapshot.minipools _ hdistinct)
  unfold minipoolsOf Snapshot.poolNodes
  rw [List.length_flatMap, List.map_map, List.map_map]
  refine List.sum_le_sum ?_
  intro details _
  obtain ⟨kept, hsub, hkept⟩ :=
    poolMinipools_sublist (snapshot.minipools.filter fun row => row.node == details.address)
  show (poolMinipools ((groupBy MinipoolDetails.node snapshot.minipools)[details.address]?.getD [])).toList.length ≤
    (snapshot.minipools.filter fun row => row.node == details.address).length
  rw [getElem?_groupBy, hkept, List.length_map]
  exact hsub.length_le

section unseen

variable {time : UInt64}

theorem sum_attestUnseen {M : Type*} [AddCommMonoid M] (time : UInt64) (g h : PoolMinipool → M)
    (nodes : List PoolNode)
    (hgain : ∀ node ∈ nodes, ∀ minipool ∈ node.minipools,
      g minipool = 0 ∧ g (minipool.attestUnseen time) = h minipool) :
    (((nodes.map (·.attestUnseen time)).flatMap fun node => node.minipools.toList).map g).sum =
      (((nodes.filter (·.isCurrent time)).flatMap fun node => node.minipools.toList).map h).sum := by
  induction nodes with
  | nil => rfl
  | cons node rest ih =>
      have hrest := ih fun other hm => hgain other (List.mem_cons_of_mem _ hm)
      have hnode := hgain node List.mem_cons_self
      rw [List.map_cons, List.flatMap_cons, List.map_append, List.sum_append, hrest, List.filter_cons]
      unfold PoolNode.attestUnseen
      by_cases hcurrent : node.isCurrent time = true
      · rw [if_pos hcurrent, if_pos hcurrent, List.flatMap_cons, List.map_append, List.sum_append,
          Array.toList_map, List.map_map]
        congr 2
        refine List.map_congr_left ?_
        intro minipool hmem
        exact (hnode minipool (Array.mem_toList_iff.mp hmem)).2
      · rw [if_neg hcurrent, if_neg hcurrent, List.sum_eq_zero, zero_add]
        intro x hx
        obtain ⟨minipool, hmem, rfl⟩ := List.mem_map.mp hx
        exact (hnode minipool (Array.mem_toList_iff.mp hmem)).1

theorem PoolMinipool.Fresh.attestUnseen {minipool : PoolMinipool} (h : minipool.Fresh) (time : UInt64) :
    (minipool.attestUnseen time).score = minipool.bond.scoreAt time ∧
      (minipool.attestUnseen time).completed.size = 1 ∧ (minipool.attestUnseen time).earns = true := by
  have hscore : minipool.score = 0 := (congrArg (·.score) h.cleared).symm
  have hcompleted : minipool.completed = ∅ := (congrArg (·.completed) h.cleared).symm
  have hsize : (minipool.attestUnseen time).completed.size = 1 := by
    show (minipool.completed.insert 0).size = 1
    rw [hcompleted, SlotSet.size_insert Std.ExtTreeSet.not_mem_empty]
    rfl
  refine ⟨?_, hsize, ?_⟩
  · show minipool.score + _ = _
    rw [hscore]
    exact BitVec.zero_add _
  · have hsome : (minipool.attestUnseen time).completed.isEmpty = false := by
      rw [Std.ExtTreeSet.isEmpty_eq_size_beq_zero, hsize]
      rfl
    have hactive : (minipool.attestUnseen time).wasActive = true := h.active
    rw [PoolMinipool.earns, PoolMinipool.hadDuties, hsome, hactive]
    rfl

theorem mem_attestUnseen {node : PoolNode} {minipool : PoolMinipool}
    (hnode : node ∈ (attestUnseen snapshot.poolNodes time).1) (hmem : minipool ∈ node.minipools) :
    ∃ origin ∈ snapshot.poolNodes, ∃ row ∈ origin.minipools, node.eligible = origin.eligible ∧
      (minipool = row ∨ minipool = row.attestUnseen time) := by
  obtain ⟨origin, horigin, rfl⟩ := Array.mem_map.mp hnode
  have helig : (origin.attestUnseen time).eligible = origin.eligible := by
    unfold PoolNode.attestUnseen
    split <;> rfl
  unfold PoolNode.attestUnseen at hmem
  split at hmem
  · obtain ⟨row, hrow, rfl⟩ := Array.mem_map.mp hmem
    exact ⟨origin, horigin, row, hrow, helig, Or.inr rfl⟩
  · exact ⟨origin, horigin, minipool, hmem, helig, Or.inl rfl⟩

theorem minipoolsOf_attestUnseen (nodes : Array PoolNode) :
    minipoolsOf (attestUnseen nodes time).1 =
      (nodes.toList.map (·.attestUnseen time)).flatMap fun node => node.minipools.toList := by
  unfold minipoolsOf
  rw [← Array.toList_map]
  rfl

theorem Snapshot.Modest.successful_unseenTotals (h : snapshot.Modest)
    (hdistinct : (snapshot.nodes.map (·.address)).Nodup) :
    (unseenTotals snapshot.poolNodes time).successful.toNat =
      ((snapshot.poolNodes.toList.filter (·.isCurrent time)).flatMap
        fun node => node.minipools.toList).length := by
  have hcount : (unseenTotals snapshot.poolNodes time).successful =
      UInt64.ofNat ((snapshot.poolNodes.toList.filter (·.isCurrent time)).flatMap
        fun node => node.minipools.toList).length := by
    unfold unseenTotals
    dsimp only
    rw [← List.map_flatMap, List.length_map]
  have hsub : ((snapshot.poolNodes.toList.filter (·.isCurrent time)).flatMap
      fun node => node.minipools.toList).Sublist (minipoolsOf snapshot.poolNodes) :=
    List.filter_sublist.flatMap _
  have hrows := length_minipoolsOf_poolNodes hdistinct
  rw [hcount, UInt64.toNat_ofNat_of_lt' ((hsub.length_le.trans hrows).trans_lt h.minipoolRows)]

/-- One attestation for each current minipool adds up to the totals of the estimate. -/
theorem Snapshot.Modest.tallied_attestUnseen (h : snapshot.Modest)
    (hdistinct : (snapshot.nodes.map (·.address)).Nodup) :
    Tallied (attestUnseen snapshot.poolNodes time).1 (attestUnseen snapshot.poolNodes time).2 where
  score := by
    have hsum := sum_attestUnseen time (·.score) (fun minipool => minipool.bond.scoreAt time)
      snapshot.poolNodes.toList (by
        intro node hnode minipool hmem
        have hfresh := fresh_poolNodes snapshot node (Array.mem_toList_iff.mp hnode) minipool hmem
        exact ⟨(congrArg (·.score) hfresh.cleared).symm, (hfresh.attestUnseen time).1⟩)
    rw [minipoolsOf_attestUnseen, hsum, List.map_flatMap]
    exact Amount.sum_eq _
  successful := by
    have hsum := sum_attestUnseen time (·.completed.size) (fun _ => 1) snapshot.poolNodes.toList (by
      intro node hnode minipool hmem
      have hfresh := fresh_poolNodes snapshot node (Array.mem_toList_iff.mp hnode) minipool hmem
      exact ⟨(congrArg (·.completed.size) hfresh.cleared).symm, (hfresh.attestUnseen time).2.1⟩)
    rw [List.map_const', List.sum_replicate, Nat.nsmul_eq_mul, Nat.mul_one] at hsum
    rw [minipoolsOf_attestUnseen, hsum]
    exact h.successful_unseenTotals hdistinct
  worth minipool hmem := by
    obtain ⟨node, hnode, hmem⟩ := mem_minipoolsOf.mp hmem
    obtain ⟨origin, horigin, row, hrow, -, hcase⟩ := mem_attestUnseen hnode hmem
    have hfresh := fresh_poolNodes snapshot origin horigin row hrow
    obtain ⟨⟨details, hdetails, hof⟩, -⟩ := ofRow_of_mem_poolNodes horigin hrow
    rcases hcase with rfl | rfl
    · rw [← hfresh.cleared]
      exact Nat.zero_le _
    · obtain ⟨hscore, hsize, -⟩ := hfresh.attestUnseen time
      rw [hscore, hsize, Nat.one_mul, hof.bond]
      exact (h.minipools details hdetails).toNat_scoreAt_le time
  earns node hnode minipool hmem hscore := by
    obtain ⟨origin, horigin, row, hrow, helig, hcase⟩ := mem_attestUnseen hnode hmem
    have hfresh := fresh_poolNodes snapshot origin horigin row hrow
    obtain ⟨-, horiginElig, -⟩ := ofRow_of_mem_poolNodes horigin hrow
    rcases hcase with rfl | rfl
    · rw [← hfresh.cleared] at hscore
      exact absurd rfl hscore
    · exact ⟨(hfresh.attestUnseen time).2.2, helig.trans horiginElig⟩
  share minipool hmem := by
    obtain ⟨node, hnode, hmem⟩ := mem_minipoolsOf.mp hmem
    obtain ⟨origin, horigin, row, hrow, -, hcase⟩ := mem_attestUnseen hnode hmem
    obtain ⟨⟨details, -, hof⟩, -⟩ := ofRow_of_mem_poolNodes horigin hrow
    rcases hcase with rfl | rfl <;> exact hof.share
  eth node hnode := by
    obtain ⟨origin, horigin, rfl⟩ := Array.mem_map.mp hnode
    rw [← eth_of_mem_poolNodes horigin]
    unfold PoolNode.attestUnseen
    split <;> rfl

theorem scoredCount_attestUnseen_le (time : UInt64)
    (hdistinct : (snapshot.nodes.map (·.address)).Nodup) :
    scoredCount (attestUnseen snapshot.poolNodes time).1 ≤ snapshot.minipools.length := by
  refine (List.countP_le_length).trans (le_trans ?_ (length_minipoolsOf_poolNodes hdistinct))
  rw [minipoolsOf_attestUnseen]
  unfold minipoolsOf
  rw [List.length_flatMap, List.length_flatMap, List.map_map]
  refine List.sum_le_sum ?_
  intro node _
  show (node.attestUnseen time).minipools.toList.length ≤ node.minipools.toList.length
  unfold PoolNode.attestUnseen
  split
  · rw [Array.toList_map, List.length_map]
  · exact Nat.le_refl _

end unseen

/-! ### The payout

Both halves come to the same two facts, that the totals add up the minipools and that few of
them have a score, and the split takes over from there.
-/

/-- **Every payout conserves the balance, and none is rejected.** -/
theorem payout_conserved {m : Type → Type} [Monad m] [LawfulMonad m] (h : snapshot.Modest)
    {balance : Amount} (hbalance : balance.toNat < 2 ^ 128) :
    (∀ (bounds : IntervalBounds) (client : ConsensusClient m) (start : Tracker),
      Tracker.new snapshot bounds snapshot.poolNodes = (.ok (), start) →
      Tracker.Leaves (Tracker.walk client) start fun totals after =>
        ∃ nodes allocation,
          splitBalance after.nodes balance totals snapshot.tolerance = (nodes, .ok allocation) ∧
          Conserved balance nodes allocation) ∧
    ((snapshot.nodes.map (·.address)).Nodup → ∀ time, ∃ nodes allocation,
      splitBalance (attestUnseen snapshot.poolNodes time).1 balance
        (attestUnseen snapshot.poolNodes time).2 snapshot.tolerance = (nodes, .ok allocation) ∧
      Conserved balance nodes allocation) := by
  refine ⟨?_, ?_⟩
  · intro bounds client start hnew
    have hstarted := (Tracker.new_ends snapshot bounds snapshot.poolNodes).post_of_ok hnew
    have hsound := hstarted.sound (fresh_poolNodes snapshot)
    refine hsound.walk.mono ?_
    intro totals after h'
    obtain ⟨hkeeps, rfl⟩ := h'
    have htallied := hkeeps.sound.tallied h hstarted hkeeps.frame
    have hcount := hkeeps.sound.scoredCount_le hstarted hkeeps.frame
    exact htallied.conserved hbalance (hcount.trans h.length_le_tolerance)
  · intro hdistinct time
    have hcount := scoredCount_attestUnseen_le time hdistinct
    exact (h.tallied_attestUnseen hdistinct).conserved hbalance (hcount.trans h.length_le_tolerance)

theorem modest_twoNodes : twoNodes.Modest where
  minipools row hmem := by
    rcases List.mem_pair.mp hmem with rfl | rfl <;> constructor <;> decide
  nodeRows := by decide
  minipoolRows := by decide

theorem payout_conserved_twoNodes :
    (∃ start totals after nodes allocation,
      Tracker.new twoNodes secondEpoch twoNodes.poolNodes = (.ok (), start) ∧
      Id.run ((Tracker.walk twoCommittees).run.run start) = (.ok totals, after) ∧
      splitBalance after.nodes Amount.oneEther totals twoNodes.tolerance = (nodes, .ok allocation) ∧
      Conserved Amount.oneEther nodes allocation) ∧
    ∃ nodes allocation,
      splitBalance (attestUnseen twoNodes.poolNodes 1).1 Amount.oneEther
        (attestUnseen twoNodes.poolNodes 1).2 twoNodes.tolerance = (nodes, .ok allocation) ∧
      Conserved Amount.oneEther nodes allocation := by
  have hbalance : Amount.oneEther.toNat < 2 ^ 128 := by decide
  obtain ⟨hwalks, hestimates⟩ := payout_conserved (m := Id) modest_twoNodes hbalance
  refine ⟨?_, ?_⟩
  · obtain ⟨start, totals, after, -, -, hnew, hrun, -⟩ := Tracker.walk_twoCommittees
    obtain ⟨nodes, allocation, hsplit, hconserved⟩ :=
      always_id.mp (hwalks secondEpoch twoCommittees start hnew) totals (by rw [hrun])
    rw [hrun] at hsplit
    exact ⟨start, totals, after, nodes, allocation, hnew, hrun, hsplit, hconserved⟩
  · exact hestimates (by decide) 1

end PoolRewards
