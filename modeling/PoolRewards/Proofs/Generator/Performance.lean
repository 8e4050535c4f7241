/-
The performance file accounts for the rewards file.

The two files are filled from the nodes that a split of the ether has paid, each by a rule
of its own: nodes without ether have no entry, and neither have minipools without duties.
What is left out has earned nothing, because only a minipool with duties and a score has a
share.  So the entries of a node's minipools come to the node's ether, and an entry tells
its node by the row of the snapshot that it stands for.
-/
import PoolRewards.Proofs.Generator.Records
import PoolRewards.Proofs.Pool.Report

namespace PoolRewards

open Ledger

/-- What is reported of the minipools of a node, added up. -/
def PerformanceFile.earnedBy (file : PerformanceFile) (snapshot : Snapshot) (node : Address) : Amount :=
  ((file.minipools.toList.filter fun entry =>
    snapshot.minipools.any fun row => row.address == entry.1 && row.node == node).map (·.2.ethEarned)).sum

/-- What is reported of all minipools, added up. -/
def PerformanceFile.earned (file : PerformanceFile) : Amount :=
  (file.minipools.toList.map (·.2.ethEarned)).sum

/-- What is reported of the minipools of a snapshot accounts for what its nodes have on record. -/
structure Generated.Accounted (snapshot : Snapshot) (generated : Generated) : Prop where
  earned : ∀ node, generated.performance.earnedBy snapshot node =
    generated.rewards.amountOf node .smoothingPoolEth
  whole : generated.performance.earned = generated.rewards.totals.nodeOperatorEth
  /-- Every entry is that of a minipool of the snapshot. -/
  rows : ∀ address ∈ generated.performance.minipools, ∃ row ∈ snapshot.minipools, row.address = address
  /-- A node without ether has no entries. -/
  unpaid : ∀ row ∈ snapshot.minipools, generated.rewards.amountOf row.node .smoothingPoolEth = 0 →
    row.address ∉ generated.performance.minipools
  counted : ∀ (address : Address) (entry : MinipoolPerformance),
    generated.performance.minipools[address]? = some entry → entry.Counted generated.performance.interval

variable {request : Request} {snapshot : Snapshot} {bounds : IntervalBounds} {told : Committee → Prop}
  {seen : Attestation → Prop} {tracker : Tracker} {node : PoolNode} {minipool : PoolMinipool}
  {eth : EthOutcome}

/-! ### The nodes that a split pays

The paid nodes stand where those of the walk did, and these where the rows of the snapshot
are.  So a minipool in the report leads back to its row, and a row to the one node whose
address it has.
-/

/-- The nodes as the split of the request's balance pays them. -/
def Request.paidNodes (request : Request) (nodes : Array PoolNode) (totals : AttestationTotals) :
    Array PoolNode :=
  (splitBalance nodes request.snapshot.network.smoothingPoolBalance totals request.snapshot.tolerance).1

/-- Both the credits and the report are those of the nodes that are paid. -/
theorem Request.shareEth_eq_ok {nodes : Array PoolNode} {totals : AttestationTotals}
    (h : request.shareEth nodes totals = .ok eth) :
    eth.performance = performanceReport (request.paidNodes nodes totals) ∧
      eth.credits = ethCredits (request.paidNodes nodes totals) := by
  unfold Request.paidNodes
  unfold Request.shareEth at h
  dsimp only at h
  rcases hsplit : splitBalance nodes request.snapshot.network.smoothingPoolBalance totals
    request.snapshot.tolerance with ⟨paid, _ | allocation⟩
  · rw [hsplit] at h
    cases h
  · rw [hsplit] at h
    cases h
    exact ⟨rfl, rfl⟩

theorem Tracker.Left.unpaid (h : tracker.Left snapshot bounds told seen) (hnode : node ∈ tracker.nodes) :
    node.Unpaid where
  eth := h.eth hnode
  share minipool hmem := by
    obtain ⟨start, hstarted, hframe⟩ := h.rows
    obtain ⟨place, hat⟩ := Tracker.exists_place hnode hmem
    obtain ⟨row, -, hof⟩ := hstarted.origin hframe hat
    exact hof.share

/-- A minipool of a paid node with what it was before the split and the row that it stands for. -/
structure PoolMinipool.PaidFor (snapshot : Snapshot) (bounds : IntervalBounds) (tracker : Tracker)
    (place : Place) (row : MinipoolDetails) (node : PoolNode) (minipool : PoolMinipool) : Prop where
  before : ∃ origin standing, tracker.at? place = some (origin, standing) ∧ node.PaidFrom origin ∧
    minipool.unshared = standing.unshared ∧
      standing.cleared = ((PoolMinipool.ofDetails row).linked snapshot bounds).cleared
  admitted : snapshot.Admits row
  own : row.node = node.address
  address : minipool.address = row.address

/-- **A minipool that is paid stands for an admitted row of its node.** -/
theorem Tracker.Left.exists_paidFor (h : tracker.Left request.snapshot bounds told seen)
    {totals : AttestationTotals} (hnode : node ∈ request.paidNodes tracker.nodes totals)
    (hmem : minipool ∈ node.minipools) :
    ∃ place row, minipool.PaidFor request.snapshot bounds tracker place row node := by
  obtain ⟨start, hstarted, hframe⟩ := h.rows
  obtain ⟨origin, horigin, hpaid⟩ := exists_paidFrom (fun _ hmem => h.unpaid hmem) hnode
  obtain ⟨standing, hstanding, hsame⟩ := hpaid.exists_minipool hmem
  obtain ⟨place, hat⟩ := Tracker.exists_place horigin hstanding
  obtain ⟨row, hrow, hown, hclear⟩ := hstarted.exists_admitted hframe hat
  have hnodes : node.address = origin.address := congrArg (·.address) hpaid.kept
  have haddress : minipool.address = standing.address := congrArg (·.address) hsame
  have hrows : standing.address = row.address :=
    (congrArg (·.address) hclear).trans (PoolMinipool.address_linked _)
  exact ⟨place, row, ⟨origin, standing, hat, hpaid, hsame, hclear⟩, hrow, hown.trans hnodes.symm,
    haddress.trans hrows⟩

theorem Tracker.Left.exists_poolNode (h : tracker.Left request.snapshot bounds told seen)
    {totals : AttestationTotals} (hnode : node ∈ request.paidNodes tracker.nodes totals) :
    ∃ standing ∈ request.snapshot.poolNodes, { node.bare with eth := 0 } = { standing.bare with eth := 0 } := by
  obtain ⟨start, hstarted, hframe⟩ := h.rows
  obtain ⟨origin, horigin, hpaid⟩ := exists_paidFrom (fun _ hmem => h.unpaid hmem) hnode
  obtain ⟨standing, hstanding, hbare⟩ := hstarted.exists_poolNode hframe horigin
  exact ⟨standing, hstanding, by rw [← hbare]; exact hpaid.kept⟩

/-- What the two files need to know of the nodes that are paid. -/
structure PaidNodes (snapshot : Snapshot) (bounds : IntervalBounds) (nodes : Array PoolNode) : Prop where
  addresses : (nodes.toList.map (·.address)).Nodup
  minipools : ((minipoolsOf nodes).map (·.address)).Nodup
  row : ∀ node ∈ nodes, ∀ minipool ∈ node.minipools, ∃ row ∈ snapshot.minipools,
    row.address = minipool.address ∧ row.node = node.address
  eth : ∀ node ∈ nodes, node.eth = (node.minipools.toList.map (·.share)).sum
  idle : ∀ node ∈ nodes, ∀ minipool ∈ node.minipools, minipool.hadDuties = false → minipool.share = 0
  counted : ∀ node ∈ nodes, ∀ minipool ∈ node.minipools, minipool.hadDuties = true →
    1 ≤ bounds.firstSlot → minipool.performance.Counted bounds

theorem Tracker.Left.paidNodes (h : tracker.Left request.snapshot bounds told seen)
    (hnodes : (request.snapshot.nodes.map (·.address)).Nodup)
    (hminipools : (request.snapshot.minipools.map (·.address)).Nodup) (totals : AttestationTotals) :
    PaidNodes request.snapshot bounds (request.paidNodes tracker.nodes totals) := by
  obtain ⟨start, hstarted, hframe⟩ := id h.rows
  refine ⟨?_, ?_, ?_, ?_, ?_, ?_⟩
  · unfold Request.paidNodes
    rw [map_nodeAddress_splitBalance, hstarted.map_address hframe]
    exact nodup_addresses hnodes
  · unfold Request.paidNodes
    rw [map_address_splitBalance]
    exact hstarted.nodup_minipoolsOf hnodes hminipools hframe
  · intro node hnode minipool hmem
    obtain ⟨place, row, hpaid⟩ := h.exists_paidFor hnode hmem
    exact ⟨row, hpaid.admitted.mem, hpaid.address.symm, hpaid.own⟩
  · intro node hnode
    obtain ⟨origin, -, hpaid⟩ := exists_paidFrom (fun _ hmem => h.unpaid hmem) hnode
    exact hpaid.eth
  · intro node hnode minipool hmem hidle
    obtain ⟨origin, -, hpaid⟩ := exists_paidFrom (fun _ hmem => h.unpaid hmem) hnode
    by_contra hshare
    rw [(hpaid.share minipool hmem hshare).1] at hidle
    cases hidle
  · intro node hnode minipool hmem hduties hfirst
    obtain ⟨place, row, ⟨origin, standing, hat, -, hsame, -⟩, -⟩ := h.exists_paidFor hnode hmem
    have hsound := (h.sound.minipool hat).of_unshared hsame
    rw [hstarted.bounds_of_frame hframe] at hsound
    exact hsound.counted hduties hfirst

/-! ### What is reported and what is credited

The report is keyed by the addresses of minipools and the credits by those of nodes.  A row
names both, which is how the entries of a node are told from the others.
-/

section paid

variable {nodes : Array PoolNode} (h : PaidNodes snapshot bounds nodes)
include h

theorem PaidNodes.exists_reported {address : Address} {entry : MinipoolPerformance}
    (hentry : (performanceReport nodes)[address]? = some entry) :
    ∃ node ∈ nodes, node.isPaid = true ∧ ∃ minipool ∈ node.minipools, minipool.hadDuties = true ∧
      minipool.address = address ∧ minipool.performance = entry :=
  (getElem?_performanceReport h.minipools).mp hentry

theorem PaidNodes.own_eq (hminipools : (snapshot.minipools.map (·.address)).Nodup) (address : Address)
    (hnode : node ∈ nodes) (hmem : minipool ∈ node.minipools) :
    (snapshot.minipools.any fun row => row.address == minipool.address && row.node == address) =
      decide (node.address = address) := by
  obtain ⟨row, hrow, haddress, hown⟩ := h.row node hnode minipool hmem
  rw [Bool.eq_iff_iff, List.any_eq_true, decide_eq_true_eq]
  simp only [Bool.and_eq_true, beq_iff_eq]
  refine ⟨?_, ?_⟩
  · intro hany
    obtain ⟨other, hother, hsame, hnodeOf⟩ := hany
    obtain rfl := List.inj_on_of_nodup_map hminipools hother hrow (hsame.trans haddress.symm)
    exact hown.symm.trans hnodeOf
  · intro heq
    exact ⟨row, hrow, haddress, hown.trans heq⟩

/-- What is reported, as far as it is of some nodes, comes to what these nodes are paid. -/
theorem PaidNodes.sum_report (own : Address → Bool) (keep : PoolNode → Bool)
    (hown : ∀ node ∈ nodes, ∀ minipool ∈ node.minipools, own minipool.address = keep node) :
    (((performanceReport nodes).toList.filter fun entry => own entry.1).map (·.2.ethEarned)).sum =
      (((nodes.toList.filter (·.isPaid)).filter keep).map (·.eth)).sum := by
  have hperm := (toList_performanceReport_perm h.minipools).filter fun entry => own entry.1
  rw [(hperm.map _).sum_eq, List.filter_map, List.map_map, ← sum_reportedMinipools h.eth h.idle hown]
  rfl

omit h in
theorem sum_ethCredits_filter (nodes : Array PoolNode) (address : Address) :
    credited ((ethCredits nodes).filter (·.node = address)) .smoothingPoolEth =
      (((nodes.toList.filter (·.isPaid)).filter (·.address = address)).map (·.eth)).sum := by
  rw [credited_filter_eq_sum]
  · unfold ethCredits
    rw [List.filter_map, List.map_map]
    rfl
  · intro credit hmem
    obtain ⟨node, -, rfl⟩ := List.mem_map.mp hmem
    rfl

theorem PaidNodes.credited_eq (hnode : node ∈ nodes) (hpaid : node.isPaid = true) :
    credited ((ethCredits nodes).filter (·.node = node.address)) .smoothingPoolEth = node.eth := by
  have hmem : node ∈ nodes.toList.filter (·.isPaid) :=
    List.mem_filter.mpr ⟨Array.mem_toList_iff.mpr hnode, hpaid⟩
  rw [sum_ethCredits_filter,
    filter_key_eq_singleton (·.address) (h.addresses.sublist (List.filter_sublist.map _)) hmem]
  exact add_zero _

end paid

/-- What is reported of minipools accounts for the credits of their nodes. -/
structure EthOutcome.Reported (snapshot : Snapshot) (bounds : IntervalBounds) (eth : EthOutcome) : Prop where
  earned : ∀ node, ((eth.performance.toList.filter fun entry =>
      snapshot.minipools.any fun row => row.address == entry.1 && row.node == node).map (·.2.ethEarned)).sum =
    credited (eth.credits.filter (·.node = node)) .smoothingPoolEth
  whole : (eth.performance.toList.map (·.2.ethEarned)).sum = (eth.credits.map (·.amount)).sum
  rows : ∀ address ∈ eth.performance, ∃ row ∈ snapshot.minipools, row.address = address
  unpaid : ∀ row ∈ snapshot.minipools,
    credited (eth.credits.filter (·.node = row.node)) .smoothingPoolEth = 0 → row.address ∉ eth.performance
  counted : 1 ≤ bounds.firstSlot → ∀ (address : Address) (entry : MinipoolPerformance),
    eth.performance[address]? = some entry → entry.Counted bounds

theorem EthOutcome.performance_nothing (address : Address) :
    EthOutcome.nothing.performance[address]? = none := Std.ExtTreeMap.getElem?_empty

theorem EthOutcome.nothing_reported : EthOutcome.nothing.Reported snapshot bounds where
  earned node := rfl
  whole := rfl
  rows address hmem := absurd hmem Std.ExtTreeMap.not_mem_empty
  unpaid row _ _ := Std.ExtTreeMap.not_mem_empty
  counted _ address entry hentry := by
    rw [performance_nothing] at hentry
    cases hentry

/-- **The report of paid nodes accounts for their credits.** -/
theorem PaidNodes.reported {nodes : Array PoolNode} (h : PaidNodes snapshot bounds nodes)
    (hminipools : (snapshot.minipools.map (·.address)).Nodup)
    (hperformance : eth.performance = performanceReport nodes) (hcredits : eth.credits = ethCredits nodes) :
    eth.Reported snapshot bounds := by
  have hentry : ∀ address ∈ performanceReport nodes, ∃ node ∈ nodes, node.isPaid = true ∧
      ∃ minipool ∈ node.minipools, minipool.address = address := by
    intro address hmem
    obtain ⟨entry, hentry⟩ := Option.isSome_iff_exists.mp (Std.ExtTreeMap.isSome_getElem?_iff_mem.mpr hmem)
    obtain ⟨node, hnode, hpaid, minipool, hminipool, -, haddress, -⟩ := h.exists_reported hentry
    exact ⟨node, hnode, hpaid, minipool, hminipool, haddress⟩
  refine ⟨?_, ?_, ?_, ?_, ?_⟩
  · intro node
    rw [hperformance, hcredits, sum_ethCredits_filter]
    exact h.sum_report
      (fun address => snapshot.minipools.any fun row => row.address == address && row.node == node)
      (fun other => decide (other.address = node)) fun _ hnode _ hmem => h.own_eq hminipools node hnode hmem
  · have hsum := h.sum_report (fun _ => true) (fun _ => true) fun _ _ _ _ => rfl
    rw [List.filter_true, List.filter_true] at hsum
    rw [hperformance, hcredits, hsum]
    unfold ethCredits
    rw [List.map_map]
    rfl
  · rw [hperformance]
    intro address hmem
    obtain ⟨node, hnode, -, minipool, hminipool, rfl⟩ := hentry address hmem
    obtain ⟨row, hrow, haddress, -⟩ := h.row node hnode minipool hminipool
    exact ⟨row, hrow, haddress⟩
  · rw [hperformance, hcredits]
    intro row hrow hnone hmem
    obtain ⟨node, hnode, hpaid, minipool, hminipool, haddress⟩ := hentry row.address hmem
    obtain ⟨other, hother, hsame, hown⟩ := h.row node hnode minipool hminipool
    obtain rfl := List.inj_on_of_nodup_map hminipools hother hrow (hsame.trans haddress)
    rw [hown, h.credited_eq hnode hpaid] at hnone
    rw [PoolNode.isPaid, hnone] at hpaid
    simp at hpaid
  · rw [hperformance]
    intro hfirst address entry hentry
    obtain ⟨node, hnode, -, minipool, hmem, hduties, -, rfl⟩ := h.exists_reported hentry
    exact h.counted node hnode minipool hmem hduties hfirst

/-- However the ether comes about, the report accounts for it. -/
theorem EthOutcome.Arises.reported (h : eth.Arises request bounds told seen)
    (hnodes : (request.snapshot.nodes.map (·.address)).Nodup)
    (hminipools : (request.snapshot.minipools.map (·.address)).Nodup) :
    eth.Reported request.snapshot bounds := by
  cases h with
  | nothing hshares => exact nothing_reported
  | shared hshares hleft hshare =>
      obtain ⟨hperformance, hcredits⟩ := Request.shareEth_eq_ok hshare
      exact (hleft.paidNodes hnodes hminipools _).reported hminipools hperformance hcredits

/-! ### The files

Both files take over what is reported and what is credited without a change.
-/

/-- **Whatever ledger the files are written from, the one accounts for the other.** -/
theorem EthOutcome.Reported.accounted {rpl : RplAllocation} {ledger : Ledger}
    {hash : List UInt8 → Digest} {file : RewardsFile} (h : eth.Reported request.snapshot bounds)
    (hpaid : eth.Paid request) (hfirst : request.index ≠ 0 → 1 ≤ bounds.firstSlot)
    (hnone : ledger.Untouched .smoothingPoolEth)
    (hfile : (request.rewardsFile bounds rpl eth (ledger.creditAll eth.credits)).withTree hash = .ok file)
    (invalid : Std.ExtTreeMap Address UInt64) :
    Generated.Accounted request.snapshot ⟨file, request.performanceFile bounds eth, invalid⟩ where
  earned node := by
    show PerformanceFile.earnedBy _ _ _ = file.amountOf node .smoothingPoolEth
    rw [etherOf_withTree hnone hfile]
    exact h.earned node
  whole := by
    show PerformanceFile.earned _ = file.totals.nodeOperatorEth
    rw [(RewardsFile.of_withTree hfile).1]
    exact h.whole.trans hpaid.paid
  rows := h.rows
  unpaid row hrow hnothing := by
    have hnothing : file.amountOf row.node .smoothingPoolEth = 0 := hnothing
    rw [etherOf_withTree hnone hfile] at hnothing
    exact h.unpaid row hrow hnothing
  counted address entry hentry := by
    have hentry : eth.performance[address]? = some entry := hentry
    refine h.counted (hfirst ?_) address entry hentry
    -- The first interval shares nothing out and so reports nothing.
    intro hindex
    rw [hpaid.genesis hindex, performance_nothing] at hentry
    cases hentry

/-- **The performance file accounts for the rewards file**, whatever the clients answer, if no two
nodes and no two minipools have one address. -/
theorem generate_accounted {m : Type → Type} [Monad m] [LawfulMonad m] (request : Request)
    (consensus : ConsensusClient m) (execution : ExecutionClient m)
    (hnodes : (request.snapshot.nodes.map (·.address)).Nodup)
    (hminipools : (request.snapshot.minipools.map (·.address)).Nodup) :
    Answers (Generated.Accounted request.snapshot) (request.generate consensus execution) := by
  refine request.answers_generate consensus.tells_anything (answers_true _) ?_
  intro enabled bounds rpl ledger eth file _ hfirst hrpl heth hfile
  have hheld := (allocateRpl_ends request.snapshot request.header.timestamp enabled).post_of_ok hrpl
  exact (heth.reported hnodes hminipools).accounted heth.paid hfirst hheld.ether hfile _

theorem generate_accounted_secondInterval :
    (twoNodes.nodes.map (·.address)).Nodup ∧ (twoNodes.minipools.map (·.address)).Nodup ∧
      ∃ generated, Id.run (secondInterval.generate twoCommittees openNetworks).run = .ok generated ∧
        Generated.Accounted twoNodes generated := by
  have hnodes : (twoNodes.nodes.map (·.address)).Nodup := by decide
  have hminipools : (twoNodes.minipools.map (·.address)).Nodup := by decide
  obtain ⟨generated, hgenerated⟩ := exists_generated
  exact ⟨hnodes, hminipools, generated, hgenerated, always_id.mp
    (generate_accounted secondInterval twoCommittees openNetworks hnodes hminipools) generated hgenerated⟩

end PoolRewards
