/-
The pool's nodes, row by row.

A node of the pool stands for a node's row of the snapshot and has a minipool for each of
that node's rows that is at work, unless one of these is penalized; linking and duties
change nothing of what comes from the rows.  Where node addresses are distinct, no row has
two places.
-/
import PoolRewards.Proofs.Duties.Links

namespace PoolRewards

variable {snapshot : Snapshot} {bounds : IntervalBounds}

/-- What a minipool of the pool keeps of its row. -/
structure PoolMinipool.OfRow (minipool : PoolMinipool) (row : MinipoolDetails) : Prop where
  pubkey : minipool.pubkey = row.pubkey
  bond : minipool.bond = .ofMinipool row
  share : minipool.share = 0

theorem PoolMinipool.OfRow.linked {minipool : PoolMinipool} {row : MinipoolDetails}
    (h : minipool.OfRow row) : (minipool.linked snapshot bounds).OfRow row := by
  obtain ⟨hpubkey, hbond, hshare⟩ := h
  unfold PoolMinipool.linked
  split <;> exact ⟨hpubkey, hbond, hshare⟩

theorem PoolMinipool.OfRow.of_cleared {minipool minipool' : PoolMinipool} {row : MinipoolDetails}
    (h : minipool.OfRow row) (hclear : minipool'.cleared = minipool.cleared) : minipool'.OfRow row where
  pubkey := (congrArg (·.pubkey) hclear).trans h.pubkey
  bond := (congrArg (·.bond) hclear).trans h.bond
  share := (congrArg (·.share) hclear).trans h.share

theorem poolMinipools_sublist (rows : List MinipoolDetails) :
    ∃ kept : List MinipoolDetails, kept.Sublist rows ∧
      (poolMinipools rows).toList = kept.map .ofDetails := by
  rw [toList_poolMinipools]
  split
  · exact ⟨[], List.nil_sublist _, rfl⟩
  · exact ⟨_, List.filter_sublist, rfl⟩

theorem mem_poolNodes {node : PoolNode} :
    node ∈ snapshot.poolNodes ↔ ∃ details ∈ snapshot.nodes,
      node = .ofDetails details (snapshot.minipools.filter fun row => row.node == details.address) := by
  unfold Snapshot.poolNodes
  rw [List.mem_toArray, List.mem_map]
  simp only [getElem?_groupBy, eq_comm]

/-- A row of a minipool that is there and staking. -/
structure MinipoolDetails.AtWork (row : MinipoolDetails) : Prop where
  present : row.present = true
  staking : row.status = .staking

theorem MinipoolDetails.isStaking_iff {row : MinipoolDetails} : row.isStaking = true ↔ row.AtWork := by
  unfold MinipoolDetails.isStaking
  rw [Bool.and_eq_true, beq_iff_eq]
  exact ⟨fun h => ⟨h.1, h.2⟩, fun h => ⟨h.present, h.staking⟩⟩

instance (row : MinipoolDetails) : Decidable row.AtWork :=
  decidable_of_iff _ MinipoolDetails.isStaking_iff

/-- A row that brings a minipool into the pool: it is at work, and no row of its node that is
at work is penalized. -/
structure Snapshot.Admits (snapshot : Snapshot) (row : MinipoolDetails) : Prop where
  mem : row ∈ snapshot.minipools
  atWork : row.AtWork
  unpenalized : ∀ other ∈ snapshot.minipools, other.node = row.node → other.AtWork →
    other.penalties < penaltyThreshold

theorem Snapshot.admits_iff {row : MinipoolDetails} :
    snapshot.Admits row ↔ row ∈ snapshot.minipools ∧ row.isStaking = true ∧
      ∀ other ∈ snapshot.minipools, other.node = row.node → other.isStaking = true →
        other.penalties < penaltyThreshold := by
  simp only [MinipoolDetails.isStaking_iff]
  exact ⟨fun h => ⟨h.mem, h.atWork, h.unpenalized⟩, fun h => ⟨h.1, h.2.1, h.2.2⟩⟩

instance (snapshot : Snapshot) (row : MinipoolDetails) : Decidable (snapshot.Admits row) :=
  decidable_of_iff _ Snapshot.admits_iff.symm

theorem mem_poolMinipools {rows : List MinipoolDetails} {minipool : PoolMinipool} :
    minipool ∈ poolMinipools rows ↔ ∃ row ∈ rows, row.isStaking = true ∧
      (∀ other ∈ rows, other.isStaking = true → other.penalties < penaltyThreshold) ∧
        minipool = .ofDetails row := by
  by_cases hclean : ∀ other ∈ rows, other.isStaking = true → other.penalties < penaltyThreshold
  · rw [poolMinipools_eq_map hclean]
    simp only [List.mem_toArray, List.mem_map, List.mem_filter, and_assoc, eq_comm (a := minipool)]
    refine exists_congr fun row => and_congr_right fun _ => and_congr_right fun _ => ?_
    exact (and_iff_right hclean).symm
  · refine ⟨?_, ?_⟩
    · intro h
      push Not at hclean
      obtain ⟨other, hmem, hstaking, hcount⟩ := hclean
      rw [poolMinipools_eq_empty hmem hstaking (UInt64.not_lt.mp hcount)] at h
      exact absurd h (Array.not_mem_empty minipool)
    · intro h
      obtain ⟨-, -, -, h, -⟩ := h
      exact absurd h hclean

/-- A minipool of the pool stands for an admitted row of its node. -/
theorem exists_admitted {node : PoolNode} {minipool : PoolMinipool} (hnode : node ∈ snapshot.poolNodes)
    (hmem : minipool ∈ node.minipools) :
    ∃ row, snapshot.Admits row ∧ row.node = node.address ∧ minipool = .ofDetails row := by
  obtain ⟨details, -, rfl⟩ := mem_poolNodes.mp hnode
  obtain ⟨row, hrow, hstaking, hclean, rfl⟩ := mem_poolMinipools.mp hmem
  obtain ⟨hrow, hown⟩ := List.mem_filter.mp hrow
  have hown : row.node = details.address := beq_iff_eq.mp hown
  refine ⟨row, Snapshot.admits_iff.mpr ⟨hrow, hstaking, ?_⟩, hown, rfl⟩
  intro other hother hsame
  exact hclean other (List.mem_filter.mpr ⟨hother, beq_iff_eq.mpr (hsame.trans hown)⟩)

theorem exists_row {node : PoolNode} {minipool : PoolMinipool} (hnode : node ∈ snapshot.poolNodes)
    (hmem : minipool ∈ node.minipools) :
    ∃ row ∈ snapshot.minipools, row.node = node.address ∧ minipool = .ofDetails row := by
  obtain ⟨row, hrow, hown⟩ := exists_admitted hnode hmem
  exact ⟨row, hrow.mem, hown⟩

/-- A node that takes part has an admitted row. -/
theorem exists_admitted_of_eligible {node : PoolNode} (hnode : node ∈ snapshot.poolNodes)
    (helig : node.eligible = true) : ∃ row, snapshot.Admits row ∧ row.node = node.address := by
  obtain ⟨details, -, rfl⟩ := mem_poolNodes.mp hnode
  have hsome : (!(poolMinipools _).isEmpty) = true := helig
  rw [Bool.not_eq_true', Array.isEmpty_eq_false_iff_exists_mem] at hsome
  obtain ⟨minipool, hmem⟩ := hsome
  obtain ⟨row, hrow, hown, -⟩ := exists_admitted hnode hmem
  exact ⟨row, hrow, hown⟩

theorem eligible_of_mem {node : PoolNode} {minipool : PoolMinipool} (hnode : node ∈ snapshot.poolNodes)
    (hmem : minipool ∈ node.minipools) : node.eligible = true := by
  obtain ⟨details, -, rfl⟩ := mem_poolNodes.mp hnode
  show (!(poolMinipools _).isEmpty) = true
  rw [Bool.not_eq_true', Array.isEmpty_eq_false_iff_exists_mem]
  exact ⟨minipool, hmem⟩

theorem ofRow_of_mem_poolNodes {node : PoolNode} {minipool : PoolMinipool}
    (hnode : node ∈ snapshot.poolNodes) (hmem : minipool ∈ node.minipools) :
    (∃ row ∈ snapshot.minipools, minipool.OfRow row) ∧ node.eligible = true ∧ minipool.wasActive = true := by
  obtain ⟨row, hrow, -, rfl⟩ := exists_row hnode hmem
  exact ⟨⟨row, hrow, rfl, rfl, rfl⟩, eligible_of_mem hnode hmem, rfl⟩

theorem eth_of_mem_poolNodes {node : PoolNode} (hnode : node ∈ snapshot.poolNodes) : node.eth = 0 := by
  obtain ⟨details, -, rfl⟩ := mem_poolNodes.mp hnode
  rfl

/-! ### One place for each row

A place is a pair of positions in the tracker, and a row is known by its address or its key.
Where these are distinct the two ways of naming a minipool come to the same.
-/

theorem map_address_poolNodes (snapshot : Snapshot) :
    snapshot.poolNodes.toList.map (·.address) = snapshot.nodes.map (·.address) := by
  unfold Snapshot.poolNodes
  rw [List.map_map]
  rfl

theorem nodup_addresses (h : (snapshot.nodes.map (·.address)).Nodup) :
    (snapshot.poolNodes.toList.map (·.address)).Nodup := by
  rw [map_address_poolNodes]
  exact h

theorem index_eq_of_key {α κ : Type} {key : α → κ} {members : Array α} {i j : Nat} {member member' : α}
    (hkeys : (members.toList.map key).Nodup) (hi : members[i]? = some member)
    (hj : members[j]? = some member') (hkey : key member = key member') : i = j := by
  have hfound : ∀ (k : Nat) (member : α), members[k]? = some member →
      (members.toList.map key)[k]? = some (key member) := by
    intro k member hk
    rw [List.getElem?_map, Array.getElem?_toList, hk]
    rfl
  have hlt := (List.getElem?_eq_some_iff.mp (hfound i member hi)).1
  refine (List.getElem?_inj hlt hkeys).mp ?_
  rw [hfound i member hi, hfound j member' hj, hkey]

section keys

variable {κ : Type} (key : PoolMinipool → κ)

/-- What tells rows apart tells the minipools of a node apart. -/
theorem nodup_keys {node : PoolNode}
    (hkeys : (snapshot.minipools.map fun row => key (.ofDetails row)).Nodup)
    (hnode : node ∈ snapshot.poolNodes) : (node.minipools.toList.map key).Nodup := by
  obtain ⟨details, -, rfl⟩ := mem_poolNodes.mp hnode
  obtain ⟨kept, hsub, hkept⟩ :=
    poolMinipools_sublist (snapshot.minipools.filter fun row => row.node == details.address)
  have hmap : ((PoolNode.ofDetails details (snapshot.minipools.filter fun row =>
      row.node == details.address)).minipools.toList.map key) =
        kept.map fun row => key (.ofDetails row) := by
    show (poolMinipools _).toList.map key = _
    rw [hkept, List.map_map]
    rfl
  rw [hmap]
  exact hkeys.sublist ((hsub.trans List.filter_sublist).map _)

/-- What tells rows apart tells places apart. -/
theorem Tracker.EligibleAt.unique {place other : Place} {node node' : PoolNode}
    {minipool minipool' : PoolMinipool} (hnodes : (snapshot.nodes.map (·.address)).Nodup)
    (hkeys : (snapshot.minipools.map fun row => key (.ofDetails row)).Nodup)
    (hat : Tracker.EligibleAt snapshot.poolNodes place node minipool)
    (hat' : Tracker.EligibleAt snapshot.poolNodes other node' minipool')
    (hkey : key minipool = key minipool') : place = other := by
  obtain ⟨hn, -, hm⟩ := hat
  obtain ⟨hn', -, hm'⟩ := hat'
  have hnode := Array.mem_of_getElem? hn
  obtain ⟨row, hrow, hown, rfl⟩ := exists_row hnode (Array.mem_of_getElem? hm)
  obtain ⟨row', hrow', hown', rfl⟩ :=
    exists_row (Array.mem_of_getElem? hn') (Array.mem_of_getElem? hm')
  -- One row, so one node; within the node the key comes once.
  obtain rfl : row = row' := List.inj_on_of_nodup_map hkeys hrow hrow' hkey
  have hi : place.node = other.node :=
    index_eq_of_key (nodup_addresses hnodes) hn hn' (hown.symm.trans hown')
  rw [← hi, hn] at hn'
  cases hn'
  have hj : place.minipool = other.minipool := index_eq_of_key (nodup_keys key hkeys hnode) hm hm' hkey
  cases place
  cases other
  rw [Place.mk.injEq]
  exact ⟨hi, hj⟩

end keys

/-! ### Rows of the minipools in a tracker

The walk changes links and duties and nothing else, and `cleared` is what is left of a node
without them.  So what is known of the nodes before the walk (their rows, their addresses,
that nothing was paid) is known of those behind it by comparing frames.
-/

namespace Tracker

variable {start after : Tracker} {place : Place} {node node' : PoolNode} {minipool : PoolMinipool}
  {validator : UInt64}

theorem isOptedInAt_of_bare (h : node'.bare = node.bare) : node'.isOptedInAt = node.isOptedInAt := by
  have hjoined : node'.joined = node.joined := congrArg (·.joined) h
  have hleft : node'.left = node.left := congrArg (·.left) h
  funext time
  rw [PoolNode.isOptedInAt, PoolNode.isOptedInAt, hjoined, hleft]

theorem bare_linked (node : PoolNode) : (node.linked snapshot bounds).bare = node.bare := by
  unfold PoolNode.linked
  split <;> rfl

/-- The nodes after the walk are those of the snapshot but for links and duties. -/
theorem Started.map_cleared (h : Started snapshot bounds snapshot.poolNodes start)
    (hframe : after.frame = start.frame) :
    after.nodes.map (·.cleared) =
      snapshot.poolNodes.map fun origin => (origin.linked snapshot bounds).cleared := by
  have hnodes : after.nodes.map (·.cleared) = start.nodes.map (·.cleared) := congrArg (·.nodes) hframe
  rw [h.nodes, Array.map_map] at hnodes
  exact hnodes

theorem Started.cleared_nodes (h : Started snapshot bounds snapshot.poolNodes start)
    (hframe : after.frame = start.frame) (i : Nat) :
    after.nodes[i]?.map (·.cleared) =
      snapshot.poolNodes[i]?.map fun origin => (origin.linked snapshot bounds).cleared := by
  rw [← Array.getElem?_map, ← Array.getElem?_map, h.map_cleared hframe]

theorem Started.bare_of_getElem? {i : Nat} {origin : PoolNode}
    (h : Started snapshot bounds snapshot.poolNodes start) (hframe : after.frame = start.frame)
    (hn : after.nodes[i]? = some node) (ho : snapshot.poolNodes[i]? = some origin) :
    node.bare = origin.bare := by
  have hcleared := h.cleared_nodes hframe i
  rw [hn, ho] at hcleared
  have hcleared : node.cleared = (origin.linked snapshot bounds).cleared := Option.some.inj hcleared
  exact (congrArg (·.bare) hcleared).trans (bare_linked origin)

theorem Started.exists_poolNode (h : Started snapshot bounds snapshot.poolNodes start)
    (hframe : after.frame = start.frame) (hnode : node ∈ after.nodes) :
    ∃ origin ∈ snapshot.poolNodes, node.bare = origin.bare := by
  obtain ⟨i, hn⟩ := Array.getElem?_of_mem hnode
  have hcleared := h.cleared_nodes hframe i
  rw [hn] at hcleared
  obtain ⟨origin, ho, -⟩ := Option.map_eq_some_iff.mp hcleared.symm
  exact ⟨origin, Array.mem_of_getElem? ho, h.bare_of_getElem? hframe hn ho⟩

/-- What stands at a place after the walk stands for what was there before. -/
theorem Started.at?_of_frame (h : Started snapshot bounds snapshot.poolNodes start)
    (hframe : after.frame = start.frame) (hat : after.at? place = some (node, minipool)) :
    ∃ origin row, EligibleAt snapshot.poolNodes place origin row ∧
      minipool.cleared = (row.linked snapshot bounds).cleared := by
  obtain ⟨node', minipool', hat', -, hminipool⟩ := Tracker.at?_of_frame hframe.symm hat
  obtain ⟨origin, row, hn, hm, rfl, rfl⟩ := h.at?_eq_some.mp hat'
  have helig := eligible_of_mem (Array.mem_of_getElem? hn) (Array.mem_of_getElem? hm)
  rw [if_pos helig] at hminipool
  exact ⟨origin, row, ⟨hn, helig, hm⟩, hminipool.symm⟩

theorem Started.map_address (h : Started snapshot bounds snapshot.poolNodes start)
    (hframe : after.frame = start.frame) :
    after.nodes.toList.map (·.address) = snapshot.poolNodes.toList.map (·.address) := by
  have hmap := congrArg (fun nodes : Array PoolNode => nodes.toList.map (·.address)) (h.map_cleared hframe)
  simp only [Array.toList_map, List.map_map] at hmap
  refine hmap.trans (List.map_congr_left ?_)
  intro origin _
  show (origin.linked snapshot bounds).bare.address = origin.bare.address
  rw [bare_linked]

theorem Started.bounds_of_frame {nodes : Array PoolNode} (h : Started snapshot bounds nodes start)
    (hframe : after.frame = start.frame) : after.bounds = bounds :=
  (congrArg (·.bounds) hframe).trans h.bounds

theorem Started.config_of_frame {nodes : Array PoolNode} (h : Started snapshot bounds nodes start)
    (hframe : after.frame = start.frame) : after.config = snapshot.config :=
  (congrArg (·.config) hframe).trans h.config

theorem Started.eth (h : Started snapshot bounds snapshot.poolNodes start)
    (hframe : after.frame = start.frame) (hnode : node ∈ after.nodes) : node.eth = 0 := by
  obtain ⟨origin, horigin, hbare⟩ := h.exists_poolNode hframe hnode
  have heth : node.eth = origin.eth := congrArg (·.eth) hbare
  exact heth.trans (eth_of_mem_poolNodes horigin)

/-- A minipool of the tracker stands for an admitted row of its node. -/
theorem Started.exists_admitted (h : Started snapshot bounds snapshot.poolNodes start)
    (hframe : after.frame = start.frame) (hat : after.at? place = some (node, minipool)) :
    ∃ row, snapshot.Admits row ∧ row.node = node.address ∧
      minipool.cleared = ((PoolMinipool.ofDetails row).linked snapshot bounds).cleared := by
  obtain ⟨origin, standing, ⟨hn, -, hm⟩, hclear⟩ := h.at?_of_frame hframe hat
  obtain ⟨row, hrow, hown, rfl⟩ := PoolRewards.exists_admitted (Array.mem_of_getElem? hn) (Array.mem_of_getElem? hm)
  have haddress : node.address = origin.address :=
    congrArg (·.address) (h.bare_of_getElem? hframe (Tracker.at?_eq_some.mp hat).1 hn)
  exact ⟨row, hrow, hown.trans haddress.symm, hclear⟩

theorem Started.nodup_minipoolsOf (h : Started snapshot bounds snapshot.poolNodes start)
    (hnodes : (snapshot.nodes.map (·.address)).Nodup)
    (hminipools : (snapshot.minipools.map (·.address)).Nodup) (hframe : after.frame = start.frame) :
    ((minipoolsOf after.nodes).map (·.address)).Nodup := by
  rw [List.Nodup, List.pairwise_map]
  refine pairwise_minipoolsOf ?_
  intro place other node minipool node' minipool' hne hat hat' haddress
  obtain ⟨origin, row, hrow, hclear⟩ := h.at?_of_frame hframe hat
  obtain ⟨origin', row', hrow', hclear'⟩ := h.at?_of_frame hframe hat'
  have hfirst : minipool.address = row.address :=
    (congrArg (·.address) hclear).trans row.address_linked
  have hsecond : minipool'.address = row'.address :=
    (congrArg (·.address) hclear').trans row'.address_linked
  exact hne (hrow.unique (·.address) hnodes hminipools hrow'
    (hfirst.symm.trans (haddress.trans hsecond)))

/-- Where a minipool of the tracker comes from. -/
theorem Started.origin (h : Started snapshot bounds snapshot.poolNodes start)
    (hframe : after.frame = start.frame) (hat : after.at? place = some (node, minipool)) :
    ∃ row ∈ snapshot.minipools, minipool.OfRow row := by
  obtain ⟨origin, row, ⟨hn, -, hm⟩, hclear⟩ := h.at?_of_frame hframe hat
  obtain ⟨⟨details, hdetails, hrow⟩, -⟩ :=
    ofRow_of_mem_poolNodes (Array.mem_of_getElem? hn) (Array.mem_of_getElem? hm)
  exact ⟨details, hdetails, hrow.linked.of_cleared hclear⟩

/-- A validator that a public key leads to is the one on record, which has been due to become active. -/
theorem status_of_trackedValidator {pubkey : PublicKey}
    (h : trackedValidator snapshot bounds pubkey = .ok (some validator)) :
    ∃ status, snapshot.validators[pubkey]? = some status ∧ status.state.isPending = false ∧
      status.activationEpoch ≠ farEpoch ∧ status.index = validator := by
  unfold trackedValidator at h
  rcases hstatus : snapshot.validators[pubkey]? with _ | status
  · rw [hstatus] at h
    cases h
  · rw [hstatus] at h
    dsimp only at h
    split at h
    · cases h
    · next hdue =>
      obtain ⟨hactive, hscheduled⟩ := not_or.mp hdue
      refine ⟨status, rfl, Bool.eq_false_of_not_eq_true hactive, hscheduled, ?_⟩
      rcases hfirst : snapshot.config.firstSlotOf status.activationEpoch with fault | first
      · rw [hfirst] at h
        cases h
      · rw [hfirst] at h
        simp only [bind, Except.bind, pure, Except.pure] at h
        split at h
        · cases h
        · split at h
          · rcases hexit : snapshot.config.firstSlotOf status.exitEpoch with fault | exit
            · rw [hexit] at h
              cases h
            · rw [hexit] at h
              dsimp only at h
              split at h
              · cases h
              · cases h
                rfl
          · cases h
            rfl

/-- A tracked minipool's public key leads to its validator. -/
theorem Started.resolves (h : Started snapshot bounds snapshot.poolNodes start)
    (hframe : after.frame = start.frame) (hv : after.validators[validator]? = some place)
    (hat : after.at? place = some (node, minipool)) :
    trackedValidator snapshot bounds minipool.pubkey = .ok (some validator) := by
  have hvalidators : after.validators = start.validators := congrArg (·.validators) hframe
  obtain ⟨origin, row, hrow, hfound⟩ := h.tracked validator place (hvalidators ▸ hv)
  obtain ⟨origin', row', hrow', hclear⟩ := h.at?_of_frame hframe hat
  obtain ⟨rfl, rfl⟩ := hrow.same hrow'
  have hpubkey : minipool.pubkey = (row'.linked snapshot bounds).pubkey := congrArg (·.pubkey) hclear
  rw [hpubkey, row'.pubkey_linked]
  exact hfound

end Tracker

end PoolRewards
