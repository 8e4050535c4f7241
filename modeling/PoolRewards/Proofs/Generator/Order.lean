/-
The order in which data arrives does not matter.

Two requests whose snapshots have the same rows in other orders, put to clients that tell
the same things in other orders, have the same answer: the same files, with the same Merkle
root and proofs, and the same nodes whose network is not enabled.  Rows and committees must
be told apart by what names them, since of two with one name the order picks one.
-/
import PoolRewards.Proofs.Duties.Reordered
import PoolRewards.Proofs.Generator.Steps
import PoolRewards.Proofs.Ledger.Networks
import PoolRewards.Proofs.Ledger.Reordered
import PoolRewards.Proofs.Pool.Report

namespace PoolRewards

open Std (ExtTreeSet)

/-- The second request is the first one about a reordered snapshot. -/
structure Request.Reordered (request request' : Request) : Prop where
  snapshot : request.snapshot.Reordered request'.snapshot
  rest : request' = { request with snapshot := request'.snapshot }

theorem Request.Reordered.symm {request request' : Request} (h : request.Reordered request') :
    request'.Reordered request where
  snapshot := h.snapshot.symm
  rest := by rw [h.rest]

theorem AnsweredAlike.symm {α : Type} {related : α → α → Prop} {answer answer' : Except ClientError α}
    (hsymm : ∀ a b, related a b → related b a) (h : AnsweredAlike related answer answer') :
    AnsweredAlike related answer' answer := by
  cases h with
  | found hrelated => exact .found (hsymm _ _ hrelated)
  | failed error error' => exact .failed error' error

namespace ConsensusClient

variable {client client' : ConsensusClient Id}

theorem Reordered.symm (h : client.Reordered client') : client'.Reordered client where
  config := h.config.symm
  block := h.block.symm
  committees epoch := (h.committees epoch).symm fun _ _ => List.Perm.symm
  attestations slot := by
    refine (h.attestations slot).symm ?_
    intro answer answer' hrelated
    cases hrelated with
    | some hperm => exact .some hperm.symm
    | none => exact .none

theorem DistinctCommittees.reordered (hdistinct : client.DistinctCommittees) (h : client.Reordered client') :
    client'.DistinctCommittees := by
  intro epoch committees' hanswer'
  obtain ⟨committees, hanswer, hperm⟩ := (h.symm.committees epoch).exists_ok hanswer'
  exact (hperm.map _).nodup_iff.mpr (hdistinct epoch committees hanswer)

end ConsensusClient

/-! ### Networks and bounds

Which networks are asked about is a set, and the bounds of the interval come from blocks, of
which there is one a slot.  Neither has an order that could change.
-/

namespace Snapshot

variable {snapshot snapshot' : Snapshot}

theorem Reordered.isCreditable (h : snapshot.Reordered snapshot') :
    snapshot'.isCreditable = snapshot.isCreditable := by
  funext node
  rw [Snapshot.isCreditable, Snapshot.isCreditable, h.oracleMembers.any_eq, h.minipools.any_eq]

theorem Reordered.creditableNetworks (h : snapshot.Reordered snapshot') :
    snapshot'.creditableNetworks = snapshot.creditableNetworks := by
  refine Std.ExtTreeSet.ext_mem fun network => ?_
  rw [mem_creditableNetworks, mem_creditableNetworks, h.isCreditable]
  simp only [h.nodes.mem_iff]

end Snapshot

theorem firstBlock_congr {consensus consensus' : ConsensusClient Id} (h : consensus'.block = consensus.block)
    (first last slot : UInt64) :
    firstBlock consensus' first last slot = firstBlock consensus first last slot := by
  induction hleft : last.toNat + 1 - slot.toNat using Nat.strongRecOn generalizing slot with
  | ind left ih =>
    rw [firstBlock_eq, firstBlock_eq, h]
    by_cases hbehind : last < slot
    · rw [if_pos hbehind, if_pos hbehind]
    · rw [if_neg hbehind, if_neg hbehind]
      refine bind_congr fun answer => ?_
      rcases answer with _ | block
      · rcases hnext : Word.add slot 1 with fault | next
        · rfl
        · dsimp only
          rw [Halt.arithmetic_ok_bind, Halt.arithmetic_ok_bind]
          exact ih _ (hleft ▸ nextSlot_fewer hbehind hnext) next rfl
      · rfl

theorem resolveInterval_congr {consensus consensus' : ConsensusClient Id}
    (h : consensus'.block = consensus.block) (execution : ExecutionClient Id) :
    resolveInterval consensus' execution = resolveInterval consensus execution := by
  funext config previous snapshotEnd
  unfold resolveInterval
  simp only [h, firstBlock_congr h]

variable {request request' : Request} {consensus consensus' : ConsensusClient Id}

theorem Request.Reordered.bounds (h : request.Reordered request') (hclient : consensus.Reordered consensus')
    (execution : ExecutionClient Id) :
    request'.bounds consensus' execution = request.bounds consensus execution := by
  unfold Request.bounds Request.findBounds
  rw [resolveInterval_congr hclient.block, h.snapshot.config, h.rest]

/-! ### The walk and the split

What is found out over a reordered snapshot stands in another order but is the same for
every node.  The split, the credits and the report take their nodes in that order and make
of them sums and maps.
-/

/-- What the split of the ether needs to know of the nodes of a snapshot. -/
structure Observed (snapshot : Snapshot) (nodes : Array PoolNode) : Prop where
  addresses : ((minipoolsOf nodes).map (·.address)).Nodup
  networks : ∀ node ∈ nodes, node.rewardNetwork = snapshot.networkOf node.address

theorem Tracker.Started.observed {snapshot : Snapshot} {bounds : IntervalBounds} {start after : Tracker}
    (h : Tracker.Started snapshot bounds snapshot.poolNodes start) (hdistinct : snapshot.Distinct)
    (hframe : after.frame = start.frame) : Observed snapshot after.nodes where
  addresses := h.nodup_minipoolsOf hdistinct.nodes hdistinct.minipools hframe
  networks node hnode := by
    obtain ⟨origin, horigin, hbare⟩ := h.exists_poolNode hframe hnode
    obtain ⟨details, hdetails, rfl⟩ := mem_poolNodes.mp horigin
    have haddress : node.address = details.address := congrArg (·.address) hbare
    have hnetwork : node.rewardNetwork = details.rewardNetwork := congrArg (·.rewardNetwork) hbare
    rw [hnetwork, haddress, Snapshot.networkOf_eq hdistinct.nodes hdetails]

/-- **The walks over reordered requests come to alike nodes and the same totals.** -/
theorem Request.Reordered.observe (h : request.Reordered request')
    (hdistinct : request.snapshot.Distinct) (hclient : consensus.Reordered consensus')
    (hcommittees : consensus.DistinctCommittees) {bounds : IntervalBounds} {nodes : Array PoolNode}
    {totals : AttestationTotals} (hrun : Returns (request.observe consensus bounds) (nodes, totals)) :
    Observed request.snapshot nodes ∧
      ∃ nodes', Returns (request'.observe consensus' bounds) (nodes', totals) ∧ NodesAlike nodes nodes' := by
  obtain ⟨start, after, hnew, hwalk, rfl⟩ := returns_observe.mp hrun
  have hstarted := (Tracker.new_ends request.snapshot bounds request.snapshot.poolNodes).post_of_ok hnew
  obtain ⟨start', hnew', hstarted'⟩ := hstarted.exists_reordered h.snapshot
  have hagree := hstarted.agree hstarted' hdistinct h.snapshot
  obtain ⟨after', hwalk', hstep, htotals⟩ := hagree.walk hclient hcommittees hwalk
  refine ⟨hstarted.observed hdistinct hstep.frame, after'.nodes, ?_,
    hstep.nodesAlike hstarted hstarted' hdistinct h.snapshot⟩
  rw [hstep.totals_eq hstarted hstarted' hdistinct h.snapshot, ← htotals] at hwalk'
  exact returns_observe.mpr ⟨start', after', hnew', hwalk', rfl⟩

/-- A split changes neither the addresses of minipools nor where nodes claim. -/
theorem Observed.splitBalance {snapshot : Snapshot} {nodes : Array PoolNode} (h : Observed snapshot nodes)
    (balance tolerance : Amount) (totals : AttestationTotals) :
    Observed snapshot (splitBalance nodes balance totals tolerance).1 := by
  refine ⟨(map_address_splitBalance nodes balance tolerance totals).symm ▸ h.addresses, ?_⟩
  intro node hnode
  unfold PoolRewards.splitBalance at hnode
  split at hnode
  · exact h.networks node hnode
  · obtain ⟨origin, horigin, rfl⟩ := Array.mem_map.mp hnode
    have hkept : (origin.withShares (operatorPot balance totals) totals.score).rewardNetwork =
        origin.rewardNetwork ∧
        (origin.withShares (operatorPot balance totals) totals.score).address = origin.address := by
      unfold PoolNode.withShares
      split <;> exact ⟨rfl, rfl⟩
    rw [hkept.1, hkept.2]
    exact h.networks origin horigin

/-- Two outcomes for the ether that differ in the order of credits. -/
structure EthOutcome.Alike (eth eth' : EthOutcome) : Prop where
  total : eth'.total = eth.total
  allocation : eth'.allocation = eth.allocation
  performance : eth'.performance = eth.performance
  credits : eth.credits.Perm eth'.credits

theorem Request.Reordered.shareEth (h : request.Reordered request') {nodes nodes' : Array PoolNode}
    {totals : AttestationTotals} {eth : EthOutcome} (hnodes : NodesAlike nodes nodes')
    (hobserved : Observed request.snapshot nodes) (hshare : request.shareEth nodes totals = .ok eth) :
    request.snapshot.Asks eth.credits ∧
      ∃ eth', request'.shareEth nodes' totals = .ok eth' ∧ eth.Alike eth' := by
  have hobserved := hobserved.splitBalance request.snapshot.network.smoothingPoolBalance
    request.snapshot.tolerance totals
  obtain ⟨halike, hallocation⟩ := hnodes.splitBalance request.snapshot.network.smoothingPoolBalance
    request.snapshot.tolerance totals
  unfold Request.shareEth at hshare ⊢
  dsimp only at hshare ⊢
  rw [h.snapshot.network, h.snapshot.tolerance]
  rcases hsplit : splitBalance nodes request.snapshot.network.smoothingPoolBalance totals
    request.snapshot.tolerance with ⟨paid, _ | allocation⟩
  · rw [hsplit] at hshare
    cases hshare
  · rcases hsplit' : splitBalance nodes' request.snapshot.network.smoothingPoolBalance totals
      request.snapshot.tolerance with ⟨paid', outcome⟩
    rw [hsplit, hsplit'] at halike hallocation
    rw [hsplit] at hshare hobserved
    have hallocation : outcome = .ok allocation := hallocation.symm
    subst hallocation
    cases hshare
    refine ⟨?_, ⟨_, allocation, performanceReport paid', ethCredits paid'⟩, rfl, rfl, rfl,
      (halike.performanceReport hobserved.addresses).symm, halike.ethCredits⟩
    intro credit hmem
    obtain ⟨node, hnode, rfl⟩ := List.mem_map.mp hmem
    exact hobserved.networks node (Array.mem_toList_iff.mp (List.mem_of_mem_filter hnode))

theorem Request.Reordered.sharesEth (h : request.Reordered request') :
    request'.sharesEth = request.sharesEth := by
  rw [Request.sharesEth, Request.sharesEth, h.snapshot.network, h.rest]

/-- **The ether comes to the same.** -/
theorem Request.Reordered.earnEth (h : request.Reordered request') (hdistinct : request.snapshot.Distinct)
    (hclient : consensus.Reordered consensus') (hcommittees : consensus.DistinctCommittees)
    {bounds : IntervalBounds} {eth : EthOutcome} (hrun : Returns (request.earnEth consensus bounds) eth) :
    request.snapshot.Asks eth.credits ∧
      ∃ eth', Returns (request'.earnEth consensus' bounds) eth' ∧ eth.Alike eth' := by
  unfold Request.earnEth at hrun ⊢
  rw [h.sharesEth]
  split at hrun
  · next hshares =>
    rw [if_pos hshares]
    obtain ⟨⟨nodes, totals⟩, hobserve, hshare⟩ := returns_bind.mp hrun
    obtain ⟨hobserved, nodes', hobserve', hnodes⟩ := h.observe hdistinct hclient hcommittees hobserve
    obtain ⟨hasks, eth', hshare', halike⟩ := h.shareEth hnodes hobserved (returns_check.mp hshare)
    exact ⟨hasks, eth', returns_bind.mpr ⟨_, hobserve', returns_check.mpr hshare'⟩, halike⟩
  · next hshares =>
    rw [returns_pure] at hrun
    rw [if_neg hshares]
    subst hrun
    exact ⟨fun _ hmem => absurd hmem List.not_mem_nil, _, returns_pure.mpr rfl, rfl, rfl, rfl,
      List.Perm.refl _⟩

/-! ### The files

A file lists its records by address, so from equal ledgers come equal files.  One direction
is enough, for a request is also a reordering of its own reordering.
-/

/-- One direction: what the first request is answered the second one is, too. -/
theorem Request.Reordered.generate (h : request.Reordered request') (hdistinct : request.snapshot.Distinct)
    (hclient : consensus.Reordered consensus') (hcommittees : consensus.DistinctCommittees)
    {execution : ExecutionClient Id} {generated : Generated}
    (hrun : Returns (request.generate consensus execution) generated) :
    Returns (request'.generate consensus' execution) generated := by
  obtain ⟨enabled, bounds, rpl, ledger, eth, file, henabled, hbounds, hrpl, heth, hfile, rfl⟩ :=
    returns_generate.mp hrun
  obtain ⟨hasks, eth', heth', halike⟩ := h.earnEth hdistinct hclient hcommittees heth
  have hheader : request'.header = request.header := congrArg (·.header) h.rest
  have hledger : ledger.creditAll eth'.credits = ledger.creditAll eth.credits :=
    (Ledger.creditAll_perm halike.credits hasks.agree).symm
  have hrewards : request'.rewardsFile bounds rpl eth' (ledger.creditAll eth.credits) =
      request.rewardsFile bounds rpl eth (ledger.creditAll eth.credits) := by
    rw [h.rest, Request.rewardsFile, Request.rewardsFile, halike.total, halike.allocation]
  have hperformance : request'.performanceFile bounds eth' = request.performanceFile bounds eth := by
    rw [h.rest, Request.performanceFile, Request.performanceFile, halike.performance]
  refine returns_generate.mpr ⟨enabled, bounds, rpl, ledger, eth', file, ?_, ?_, ?_, heth', ?_, ?_⟩
  · rw [hheader, enabledNetworks, h.snapshot.creditableNetworks]
    exact henabled
  · rw [h.bounds hclient]
    exact hbounds
  · rw [hheader, h.snapshot.allocateRpl hdistinct]
    exact hrpl
  · rw [hledger, hrewards]
    exact hfile
  · rw [hledger, hperformance]

/-- **What is generated does not depend on the order of rows, committees and attestations.** -/
theorem generate_reordered (h : request.Reordered request') (hdistinct : request.snapshot.Distinct)
    (hclient : consensus.Reordered consensus') (hcommittees : consensus.DistinctCommittees)
    (execution : ExecutionClient Id) (generated : Generated) :
    Id.run (request.generate consensus execution).run = .ok generated ↔
      Id.run (request'.generate consensus' execution).run = .ok generated := by
  refine ⟨?_, ?_⟩
  · exact h.generate hdistinct hclient hcommittees
  · exact h.symm.generate (hdistinct.reordered h.snapshot) hclient.symm (hcommittees.reordered hclient)

/-! ### Every list backwards

Both requests have an answer here, and it is the same one.
-/

/-- The rows of a snapshot from last to first. -/
def Snapshot.reversed (snapshot : Snapshot) : Snapshot :=
  { snapshot with
    nodes := snapshot.nodes.reverse
    minipools := snapshot.minipools.reverse
    oracleMembers := snapshot.oracleMembers.reverse }

theorem Snapshot.reordered_reversed (snapshot : Snapshot) : snapshot.Reordered snapshot.reversed where
  nodes := (List.reverse_perm _).symm
  minipools := (List.reverse_perm _).symm
  oracleMembers := (List.reverse_perm _).symm
  rest := rfl

/-- A client that tells every list from last to first. -/
def ConsensusClient.reversed (client : ConsensusClient Id) : ConsensusClient Id :=
  { client with
    committees := fun epoch => (Id.run (client.committees epoch)).map List.reverse
    attestations := fun slot => (Id.run (client.attestations slot)).map (·.map List.reverse) }

theorem ConsensusClient.reordered_reversed (client : ConsensusClient Id) :
    client.Reordered client.reversed where
  config := rfl
  block := rfl
  committees epoch := by
    show AnsweredAlike List.Perm _ ((Id.run (client.committees epoch)).map List.reverse)
    cases Id.run (client.committees epoch) with
    | error error => exact .failed error error
    | ok committees => exact .found (List.reverse_perm _).symm
  attestations slot := by
    show AnsweredAlike (Option.Rel List.Perm) _ ((Id.run (client.attestations slot)).map (·.map List.reverse))
    cases Id.run (client.attestations slot) with
    | error error => exact .failed error error
    | ok answer =>
        cases answer with
        | none => exact .found .none
        | some attestations => exact .found (.some (List.reverse_perm _).symm)

theorem distinct_twoNodes : twoNodes.Distinct where
  nodes := by decide
  minipools := by decide
  pubkeys := by decide +kernel
  validators pubkey pubkey' status status' h h' hindex := by
    rcases validators_twoNodes h with ⟨hkey, rfl⟩ | ⟨hkey, rfl⟩ <;>
      rcases validators_twoNodes h' with ⟨hkey', rfl⟩ | ⟨hkey', rfl⟩
    · exact hkey.trans hkey'.symm
    · cases hindex
    · cases hindex
    · exact hkey.trans hkey'.symm

theorem generate_reordered_reversed :
    ∃ generated, Id.run (secondInterval.generate twoCommittees openNetworks).run = .ok generated ∧
      Id.run ({ secondInterval with snapshot := twoNodes.reversed }.generate twoCommittees.reversed
        openNetworks).run = .ok generated := by
  obtain ⟨generated, hgenerated⟩ := exists_generated
  have hreordered : secondInterval.Reordered { secondInterval with snapshot := twoNodes.reversed } :=
    ⟨twoNodes.reordered_reversed, rfl⟩
  have hcommittees : twoCommittees.DistinctCommittees := fun _ _ => distinct_twoCommittees
  exact ⟨generated, hgenerated, (generate_reordered hreordered distinct_twoNodes
    twoCommittees.reordered_reversed hcommittees openNetworks generated).mp hgenerated⟩

end PoolRewards
