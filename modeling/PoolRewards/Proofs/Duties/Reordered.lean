/-
Reordered snapshots, told in either order, have the same duties.

A validator's public key is one row's, and that row has one place in each tracker; so a
validator is tracked in one tracker if it is in the other, for the same minipool.  After two
walks in step the minipool at the one place is the minipool at the other: it is told by the
row that it stands for and by what its validator owes and has met.
-/
import PoolRewards.Proofs.Duties.Lockstep
import PoolRewards.Proofs.Pool.Order
import PoolRewards.Proofs.Snapshot.Order

namespace PoolRewards

variable {snapshot snapshot' : Snapshot} {bounds : IntervalBounds} {place other : Place}
  {node node' : PoolNode} {minipool minipool' : PoolMinipool} {validator : UInt64}

/-! ### Public keys

Neither linking nor duties change public keys, and those of a snapshot are distinct.  So a
validator is tracked at one place, and the key says which.
-/

theorem map_pubkey_cleared (node : PoolNode) :
    node.cleared.minipools.toList.map (·.pubkey) = node.minipools.toList.map (·.pubkey) := by
  show (node.minipools.map _).toList.map _ = _
  rw [Array.toList_map, List.map_map]
  rfl

theorem map_pubkey_linked (node : PoolNode) :
    (node.linked snapshot bounds).minipools.toList.map (·.pubkey) =
      node.minipools.toList.map (·.pubkey) := by
  unfold PoolNode.linked
  split
  · show (node.minipools.map _).toList.map _ = _
    rw [Array.toList_map, List.map_map]
    exact List.map_congr_left fun minipool _ => minipool.pubkey_linked
  · rfl

namespace Tracker

variable {start start' : Tracker}

/-- A validator is tracked at the place of its public key. -/
theorem Started.validators_eq_some (h : Started snapshot bounds snapshot.poolNodes start)
    (hdistinct : snapshot.Distinct) :
    start.validators[validator]? = some place ↔
      ∃ node minipool, EligibleAt snapshot.poolNodes place node minipool ∧
        trackedValidator snapshot bounds minipool.pubkey = .ok (some validator) := by
  refine ⟨h.tracked validator place, ?_⟩
  intro h'
  obtain ⟨node, minipool, hat, hfound⟩ := h'
  obtain ⟨other, hv⟩ := Option.isSome_iff_exists.mp
    (Std.ExtTreeMap.isSome_getElem?_iff_mem.mpr (h.reached place node minipool validator hat hfound))
  obtain ⟨node', minipool', hat', hfound'⟩ := h.tracked validator other hv
  obtain ⟨status, hstatus, -, -, hindex⟩ := status_of_trackedValidator hfound
  obtain ⟨status', hstatus', -, -, hindex'⟩ := status_of_trackedValidator hfound'
  have hpubkey := hdistinct.validators _ _ _ _ hstatus hstatus' (hindex.trans hindex'.symm)
  rw [hat.unique (·.pubkey) hdistinct.nodes hdistinct.pubkeys hat' hpubkey]
  exact hv

/-! ### Before the walk

A row has a place in either tracker, under the node of its own.  What its minipool is before
the walk comes from the row.
-/

/-- A minipool that can be tracked has a place in either snapshot. -/
theorem EligibleAt.exists_reordered (h : snapshot.Reordered snapshot')
    (hat : EligibleAt snapshot.poolNodes place node minipool) :
    ∃ place' node', EligibleAt snapshot'.poolNodes place' node' minipool ∧ node'.bare = node.bare := by
  obtain ⟨hn, helig, hm⟩ := hat
  obtain ⟨node', hnode', hbare, hperm⟩ := h.exists_node (Array.mem_of_getElem? hn)
  have hm' : minipool ∈ node'.minipools :=
    Array.mem_toList_iff.mp (hperm.mem_iff.mp (Array.mem_toList_iff.mpr (Array.mem_of_getElem? hm)))
  obtain ⟨i, hi⟩ := Array.getElem?_of_mem hnode'
  obtain ⟨j, hj⟩ := Array.getElem?_of_mem hm'
  have helig' : node'.eligible = node.eligible := congrArg (·.eligible) hbare
  exact ⟨⟨i, j⟩, node', ⟨hi, helig'.trans helig, hj⟩, hbare⟩

/-- Who owes an attestation at a time, told by rows. -/
theorem Started.isOwing_iff (h : Started snapshot bounds snapshot.poolNodes start)
    (hdistinct : snapshot.Distinct) {time : UInt64} :
    start.isOwing time validator = true ↔
      ∃ place node minipool, EligibleAt snapshot.poolNodes place node minipool ∧
        trackedValidator snapshot bounds minipool.pubkey = .ok (some validator) ∧
        node.isOptedInAt time = true ∧ minipool.stakingSince ≤ time := by
  rw [Tracker.isOwing_iff]
  refine ⟨?_, ?_⟩
  · intro h'
    obtain ⟨node, minipool, hlinked, hopt, hstake⟩ := h'
    obtain ⟨place, hv, hat⟩ := Option.bind_eq_some_iff.mp hlinked
    obtain ⟨origin, row, hrow, hfound⟩ := (h.validators_eq_some hdistinct).mp hv
    rw [h.at?_of_eligibleAt hrow] at hat
    cases hat
    rw [row.stakingSince_linked] at hstake
    rw [isOptedInAt_of_bare (bare_linked origin)] at hopt
    exact ⟨place, origin, row, hrow, hfound, hopt, hstake⟩
  · intro h'
    obtain ⟨place, node, minipool, hat, hfound, hopt, hstake⟩ := h'
    have hv := (h.validators_eq_some hdistinct).mpr ⟨node, minipool, hat, hfound⟩
    refine ⟨_, _, (linked?_of_validators hv).trans (h.at?_of_eligibleAt hat), ?_, ?_⟩
    · rw [isOptedInAt_of_bare (bare_linked node)]
      exact hopt
    · rw [minipool.stakingSince_linked]
      exact hstake

theorem Started.isOwing_reordered (h : Started snapshot bounds snapshot.poolNodes start)
    (h' : Started snapshot' bounds snapshot'.poolNodes start') (hdistinct : snapshot.Distinct)
    (hreordered : snapshot.Reordered snapshot') {time : UInt64}
    (howing : start.isOwing time validator = true) : start'.isOwing time validator = true := by
  obtain ⟨place, node, minipool, hat, hfound, hopt, hstake⟩ := (h.isOwing_iff hdistinct).mp howing
  obtain ⟨place', node', hat', hbare⟩ := hat.exists_reordered hreordered
  refine (h'.isOwing_iff (hdistinct.reordered hreordered)).mpr
    ⟨place', node', minipool, hat', ?_, ?_, hstake⟩
  · rw [hreordered.trackedValidator]
    exact hfound
  · rw [isOptedInAt_of_bare hbare]
    exact hopt

/-- **The trackers that the walks start from agree.** -/
theorem Started.agree (h : Started snapshot bounds snapshot.poolNodes start)
    (h' : Started snapshot' bounds snapshot'.poolNodes start') (hdistinct : snapshot.Distinct)
    (hreordered : snapshot.Reordered snapshot') : Agree start start' where
  sound := h.sound (fresh_poolNodes snapshot)
  sound' := h'.sound (fresh_poolNodes snapshot')
  config := by rw [h.config, h'.config, hreordered.config]
  bounds := by rw [h.bounds, h'.bounds]
  isOwing := by
    funext time validator
    rw [Bool.eq_iff_iff]
    refine ⟨?_, ?_⟩
    · exact h'.isOwing_reordered h (hdistinct.reordered hreordered) hreordered.symm
    · exact h.isOwing_reordered h' hdistinct hreordered
  owed := by
    rw [Tracker.owed, Tracker.owed, h.slotsOf_eq_empty (fresh_poolNodes snapshot) fun _ => rfl,
      h'.slotsOf_eq_empty (fresh_poolNodes snapshot') fun _ => rfl]
  met := by
    rw [met, met, h.slotsOf_eq_empty (fresh_poolNodes snapshot) fun _ => rfl,
      h'.slotsOf_eq_empty (fresh_poolNodes snapshot') fun _ => rfl]
  pending := by
    funext key position
    rw [h.pending, h'.pending]

theorem Started.exists_reordered (h : Started snapshot bounds snapshot.poolNodes start)
    (hreordered : snapshot.Reordered snapshot') :
    ∃ start', Tracker.new snapshot' bounds snapshot'.poolNodes = (.ok (), start') ∧
      Started snapshot' bounds snapshot'.poolNodes start' := by
  obtain ⟨⟨⟩, start', hnew, hstarted⟩ := (new_ends snapshot' bounds snapshot'.poolNodes).exists_ok (by
    intro h'
    obtain ⟨place, node, minipool, hat, fault, hfault⟩ := h'
    obtain ⟨place', node', hat', -⟩ := hat.exists_reordered hreordered.symm
    obtain ⟨found, hfound⟩ := h.resolved place' node' minipool hat'
    rw [hreordered.trackedValidator, hfound] at hfault
    cases hfault)
  exact ⟨start', hnew, hstarted⟩

end Tracker

/-! ### After the walk

The two walks agree on what each validator owes and has met.  With the row this tells the
minipool, and the minipools tell the node.
-/

namespace Tracker

variable {start start' after after' : Tracker} {row : PoolMinipool}

/-- A minipool whose row leads to no validator has no duties. -/
theorem Sound.noDuties (hsound : after.Sound) (h : Started snapshot bounds snapshot.poolNodes start)
    (hframe : after.frame = start.frame) (hrow : EligibleAt snapshot.poolNodes place node row)
    (hfound : trackedValidator snapshot bounds row.pubkey = .ok none)
    (hat : after.at? place = some (node', minipool)) : minipool.owed = ∅ ∧ minipool.fulfilled = ∅ := by
  have howed : minipool.owed = ∅ := by
    refine hsound.untracked hat ?_
    intro validator hv
    have hv' : start.validators[validator]? = some place := by
      rw [← show after.validators = start.validators from congrArg (·.validators) hframe]
      exact hv
    obtain ⟨origin, row', hrow', hfound'⟩ := h.tracked validator place hv'
    obtain ⟨-, rfl⟩ := hrow.same hrow'
    rw [hfound] at hfound'
    cases hfound'
  exact ⟨howed, ((hsound.minipool hat).of_owed_empty howed).1⟩

variable (h : Started snapshot bounds snapshot.poolNodes start)
  (h' : Started snapshot' bounds snapshot'.poolNodes start') (hdistinct : snapshot.Distinct)
  (hreordered : snapshot.Reordered snapshot') (hstep : InStep start start' after after')
include h h' hdistinct hreordered hstep

/-- **The minipools that stand for one row are one minipool.** -/
theorem InStep.minipool_eq {origin origin' : PoolNode}
    (hrow : EligibleAt snapshot.poolNodes place origin row)
    (hrow' : EligibleAt snapshot'.poolNodes other origin' row)
    (hat : after.at? place = some (node, minipool)) (hat' : after'.at? other = some (node', minipool')) :
    minipool' = minipool := by
  have hagree := hstep.agree
  have hclear : minipool'.cleared = minipool.cleared := by
    obtain ⟨_, row₁, hrow₁, hclear⟩ := h.at?_of_frame hstep.frame hat
    obtain ⟨_, row₂, hrow₂, hclear'⟩ := h'.at?_of_frame hstep.frame' hat'
    rw [hclear, hclear', (hrow.same hrow₁).2, (hrow'.same hrow₂).2, hreordered.linked]
  have hsound := hagree.sound.minipool hat
  have hsound' := hagree.sound'.minipool hat'
  rw [hagree.config, hagree.bounds] at hsound'
  obtain ⟨found, hfound⟩ := h.resolved place origin row hrow
  have hfound' : trackedValidator snapshot' bounds row.pubkey = .ok found := by
    rw [hreordered.trackedValidator]
    exact hfound
  rcases found with _ | validator
  · obtain ⟨howed, hfulfilled⟩ := hagree.sound.noDuties h hstep.frame hrow hfound hat
    obtain ⟨howed', hfulfilled'⟩ := hagree.sound'.noDuties h' hstep.frame' hrow' hfound' hat'
    exact hsound.eq_of_cleared hsound' hclear (howed'.trans howed.symm) (hfulfilled'.trans hfulfilled.symm)
  · have hv : after.validators[validator]? = some place := by
      rw [show after.validators = start.validators from congrArg (·.validators) hstep.frame]
      exact (h.validators_eq_some hdistinct).mpr ⟨origin, row, hrow, hfound⟩
    have hv' : after'.validators[validator]? = some other := by
      rw [show after'.validators = start'.validators from congrArg (·.validators) hstep.frame']
      exact (h'.validators_eq_some (hdistinct.reordered hreordered)).mpr ⟨origin', row, hrow', hfound'⟩
    refine hsound.eq_of_cleared hsound' hclear ?_ ?_
    · refine Std.ExtTreeSet.ext_mem fun slot => ?_
      rw [← mem_slotsOf_of_tracked hv hat (·.owed), ← mem_slotsOf_of_tracked hv' hat' (·.owed)]
      exact Set.ext_iff.mp hagree.owed (validator, slot)
    · refine Std.ExtTreeSet.ext_mem fun slot => ?_
      rw [← mem_slotsOf_of_tracked hv hat (·.fulfilled), ← mem_slotsOf_of_tracked hv' hat' (·.fulfilled)]
      exact Set.ext_iff.mp hagree.met (validator, slot)

theorem InStep.mem_minipools {i i' : Nat} {origin origin' : PoolNode}
    (hn : after.nodes[i]? = some node) (hn' : after'.nodes[i']? = some node')
    (ho : snapshot.poolNodes[i]? = some origin) (ho' : snapshot'.poolNodes[i']? = some origin')
    (hperm : origin.minipools.toList.Perm origin'.minipools.toList) (hmem : minipool ∈ node.minipools) :
    minipool ∈ node'.minipools := by
  obtain ⟨j, hm⟩ := Array.getElem?_of_mem hmem
  have hat : after.at? ⟨i, j⟩ = some (node, minipool) := at?_eq_some.mpr ⟨hn, hm⟩
  obtain ⟨_, row, hrow, -⟩ := h.at?_of_frame hstep.frame hat
  obtain ⟨hn₁, -, hrow₁⟩ := id hrow
  rw [ho] at hn₁
  cases hn₁
  have hmem' : row ∈ origin'.minipools := Array.mem_toList_iff.mp
    (hperm.mem_iff.mp (Array.mem_toList_iff.mpr (Array.mem_of_getElem? hrow₁)))
  obtain ⟨j', hj'⟩ := Array.getElem?_of_mem hmem'
  have hrow' : EligibleAt snapshot'.poolNodes ⟨i', j'⟩ origin' row :=
    ⟨ho', eligible_of_mem (Array.mem_of_getElem? ho') hmem', hj'⟩
  obtain ⟨_, minipool', hat', -⟩ := Tracker.at?_of_frame hstep.frame' (h'.at?_of_eligibleAt hrow')
  obtain ⟨hn₂, hm'⟩ := at?_eq_some.mp hat'
  rw [hn'] at hn₂
  cases hn₂
  rw [← hstep.minipool_eq h h' hdistinct hreordered hrow hrow' hat hat']
  exact Array.mem_of_getElem? hm'

omit hdistinct hreordered hstep h' in
theorem Started.nodup_minipools {i : Nat} {origin : PoolNode} (hdistinct : snapshot.Distinct)
    (hframe : after.frame = start.frame) (hn : after.nodes[i]? = some node)
    (ho : snapshot.poolNodes[i]? = some origin) : node.minipools.toList.Nodup := by
  have hcleared := h.cleared_nodes hframe i
  rw [hn, ho] at hcleared
  have hcleared : node.cleared = (origin.linked snapshot bounds).cleared := Option.some.inj hcleared
  have hnodup := nodup_keys (·.pubkey) hdistinct.pubkeys (Array.mem_of_getElem? ho)
  rw [← map_pubkey_linked, ← map_pubkey_cleared, ← hcleared, map_pubkey_cleared] at hnodup
  exact hnodup.of_map _

theorem InStep.exists_contents (hnode : node ∈ after.nodes) :
    ∃ node' ∈ after'.nodes, node'.contents = node.contents := by
  obtain ⟨i, hn⟩ := Array.getElem?_of_mem hnode
  have hcleared := h.cleared_nodes hstep.frame i
  rw [hn] at hcleared
  obtain ⟨origin, ho, hcleared⟩ := Option.map_eq_some_iff.mp hcleared.symm
  obtain ⟨origin', horigin', hbare, hperm⟩ := hreordered.exists_node (Array.mem_of_getElem? ho)
  obtain ⟨i', ho'⟩ := Array.getElem?_of_mem horigin'
  have hcleared' := h'.cleared_nodes hstep.frame' i'
  rw [ho'] at hcleared'
  obtain ⟨node', hn', hcleared'⟩ := Option.map_eq_some_iff.mp hcleared'
  refine ⟨node', Array.mem_of_getElem? hn', Prod.ext ?_ ?_⟩
  · have hbare₁ : node.bare = (origin.linked snapshot bounds).bare := (congrArg (·.bare) hcleared).symm
    have hbare₂ : node'.bare = (origin'.linked snapshot' bounds).bare := congrArg (·.bare) hcleared'
    rw [bare_linked] at hbare₁ hbare₂
    exact hbare₂.trans (hbare.trans hbare₁.symm)
  · show (node'.minipools.toList : Multiset PoolMinipool) = node.minipools.toList
    rw [Multiset.coe_eq_coe, List.perm_ext_iff_of_nodup
      (h'.nodup_minipools (hdistinct.reordered hreordered) hstep.frame' hn' ho')
      (h.nodup_minipools hdistinct hstep.frame hn ho)]
    intro minipool
    rw [Array.mem_toList_iff, Array.mem_toList_iff]
    refine ⟨?_, ?_⟩
    · exact hstep.symm.mem_minipools h' h (hdistinct.reordered hreordered) hreordered.symm hn' hn ho' ho
        hperm.symm
    · exact hstep.mem_minipools h h' hdistinct hreordered hn hn' ho ho' hperm

omit hdistinct hreordered hstep h' in
theorem Started.nodup_contents (hdistinct : snapshot.Distinct) (hframe : after.frame = start.frame) :
    (after.nodes.toList.map (·.contents)).Nodup := by
  have hnodup := nodup_addresses hdistinct.nodes
  rw [← h.map_address hframe] at hnodup
  refine List.Nodup.of_map (fun c => c.1.address) ?_
  rw [List.map_map]
  exact hnodup

/-- **After two walks in step the nodes are alike.** -/
theorem InStep.nodesAlike : NodesAlike after.nodes after'.nodes := by
  have hdistinct' := hdistinct.reordered hreordered
  unfold NodesAlike
  rw [List.perm_ext_iff_of_nodup (h.nodup_contents hdistinct hstep.frame)
    (h'.nodup_contents hdistinct' hstep.frame')]
  intro contents
  simp only [List.mem_map, Array.mem_toList_iff]
  refine ⟨?_, ?_⟩
  · intro hx
    obtain ⟨node, hnode, rfl⟩ := hx
    exact hstep.exists_contents h h' hdistinct hreordered hnode
  · intro hx
    obtain ⟨node', hnode', rfl⟩ := hx
    exact hstep.symm.exists_contents h' h hdistinct' hreordered.symm hnode'

/-- **And the totals are the same.** -/
theorem InStep.totals_eq : after'.totals = after.totals := by
  have hagree := hstep.agree
  have hscore : after'.totals.score = after.totals.score := by
    have hperm := (hstep.nodesAlike h h' hdistinct hreordered).minipoolsOf_perm
    rw [hagree.sound'.score, hagree.sound.score, (hperm.map _).sum_eq]
  have hsuccessful : after'.totals.successful = after.totals.successful := by
    apply UInt64.toNat_inj.mp
    rw [hagree.sound'.counted, hagree.sound.counted, hagree.met]
  have hmk : ∀ totals : AttestationTotals, totals = ⟨totals.score, totals.successful⟩ := fun _ => rfl
  rw [hmk after'.totals, hmk after.totals, hscore, hsuccessful]

end Tracker

end PoolRewards
