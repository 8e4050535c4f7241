/-
A node claims where it asks to, unless its network really is disabled.

Which networks are enabled is asked once, before any credit is made, and only of those that
creditable nodes ask for.  Three phases credit nodes later, each by a rule of its own: for
collateral if there is stake and weight, as oracle members, and for ether.  Whomever one of
them credits is creditable, so no credit asks for a network that nobody asked about, and a
ledger sends a node elsewhere only if its network was reported to be disabled.
-/
import PoolRewards.Proofs.Generator.Performance
import PoolRewards.Proofs.Ledger.Networks
import PoolRewards.Proofs.Ledger.Reordered

namespace PoolRewards

open Ledger

/-- Every node on record claims where it asks to if it can, and on the default network otherwise,
with the network that it asked for on record. -/
structure Generated.Placed (snapshot : Snapshot) (enabled : UInt64 → Bool) (generated : Generated) : Prop where
  node : ∀ record ∈ generated.rewards.nodeRewards, ∀ node ∈ snapshot.nodes, node.address = record.address →
    if node.rewardNetwork = defaultNetwork ∨ enabled node.rewardNetwork = true then
      record.network = node.rewardNetwork ∧ record.address ∉ generated.invalid
    else record.network = defaultNetwork ∧
      generated.invalid[record.address]? = some node.rewardNetwork
  /-- An address that is no node's claims on the default network. -/
  stranger : ∀ record ∈ generated.rewards.nodeRewards,
    (∀ node ∈ snapshot.nodes, node.address ≠ record.address) → record.network = defaultNetwork
  /-- Nothing else is on record as disabled. -/
  invalid : ∀ (address : Address) (network : UInt64), generated.invalid[address]? = some network →
    ∃ record ∈ generated.rewards.nodeRewards, ∃ node ∈ snapshot.nodes, record.address = address ∧
      node.address = address ∧ node.rewardNetwork = network ∧
        network ≠ defaultNetwork ∧ enabled network = false

variable {request : Request} {snapshot : Snapshot} {bounds : IntervalBounds} {told : Committee → Prop}
  {seen : Attestation → Prop} {node : NodeDetails} {time : UInt64} {eth : EthOutcome}
  {credits others : List Credit} {enabled : UInt64 → Bool}

/-! ### Whom the three phases credit

Each phase has its own reason to credit a node, and `isCreditable` was asked about all three
of them before.  So for every credit there is a node of the snapshot that was found
creditable, and it asks for that node's network.
-/

namespace Snapshot

/-- Credits that were foreseen: each asks for the network of its node, and the node is creditable. -/
structure Foresees (snapshot : Snapshot) (credits : List Credit) : Prop where
  asks : snapshot.Asks credits
  creditable : ∀ credit ∈ credits, ∀ node ∈ snapshot.nodes, node.address = credit.node →
    snapshot.isCreditable node = true

theorem foresees_nil : snapshot.Foresees [] where
  asks _ hmem := absurd hmem List.not_mem_nil
  creditable _ hmem := absurd hmem List.not_mem_nil

theorem Foresees.append (h : snapshot.Foresees credits) (h' : snapshot.Foresees others) :
    snapshot.Foresees (credits ++ others) where
  asks credit hmem := by
    rcases List.mem_append.mp hmem with hmem | hmem
    · exact h.asks credit hmem
    · exact h'.asks credit hmem
  creditable credit hmem := by
    rcases List.mem_append.mp hmem with hmem | hmem
    · exact h.creditable credit hmem
    · exact h'.creditable credit hmem

/-- Without stake or weight there is no reward for collateral. -/
theorem isCreditable_of_reward {reward : Amount} (h : snapshot.collateralRewardOf node = .ok reward)
    (hreward : reward ≠ 0) : snapshot.isCreditable node = true := by
  have hshares : ¬ (node.effectiveStake = 0 ∨ node.weight = 0) := by
    intro hzero
    rw [collateralRewardOf, collateralReward, if_pos hzero] at h
    cases h
    exact hreward rfl
  rw [not_or] at hshares
  have hcollateral : (node.effectiveStake != 0 && node.weight != 0) = true := by
    rw [Bool.and_eq_true, bne_iff_ne, bne_iff_ne]
    exact hshares
  rw [isCreditable, hcollateral]
  rfl

theorem isCreditable_of_member {member : OracleMember} (hmember : member ∈ snapshot.oracleMembers)
    (haddress : member.address = node.address) : snapshot.isCreditable node = true := by
  have hany : (snapshot.oracleMembers.any (·.address == node.address)) = true :=
    List.any_eq_true.mpr ⟨member, hmember, beq_iff_eq.mpr haddress⟩
  rw [isCreditable, hany, Bool.or_true, Bool.true_or]

/-- Whoever takes part in the smoothing pool has a minipool at work. -/
theorem Admits.isCreditable {row : MinipoolDetails} (h : snapshot.Admits row)
    (hown : row.node = node.address) : snapshot.isCreditable node = true := by
  have hany : (snapshot.minipools.any fun minipool =>
      minipool.isStaking && minipool.node == node.address) = true := by
    refine List.any_eq_true.mpr ⟨row, h.mem, ?_⟩
    rw [MinipoolDetails.isStaking_iff.mpr h.atWork, Bool.true_and]
    exact beq_iff_eq.mpr hown
  rw [Snapshot.isCreditable, hany, Bool.or_true]

theorem foresees_collateral (hnodes : (snapshot.nodes.map (·.address)).Nodup)
    (h : snapshot.collateralCredits = .ok credits) : snapshot.Foresees credits where
  asks := asks_collateralCreditsOf hnodes (fun _ hmem => hmem) h
  creditable credit hmem node hnode haddress := by
    obtain ⟨other, hother, reward, hreward, hnonzero, rfl⟩ := exists_node_of_collateralCredit h credit hmem
    obtain rfl := List.inj_on_of_nodup_map hnodes hnode hother haddress
    exact isCreditable_of_reward hreward hnonzero

theorem foresees_oracle : snapshot.Foresees (snapshot.oracleCredits time) where
  asks := asks_oracleCredits
  creditable credit hmem node _ haddress := by
    obtain ⟨member, hmember, rfl⟩ := List.mem_map.mp hmem
    exact isCreditable_of_member hmember haddress.symm

theorem RplCredits.foresees {collateral oracle : List Credit}
    (h : snapshot.RplCredits time collateral oracle) (hnodes : (snapshot.nodes.map (·.address)).Nodup) :
    snapshot.Foresees (collateral ++ oracle) := by
  refine Foresees.append ?_ ?_
  · have hcollateral := h.collateral
    split at hcollateral
    · exact foresees_collateral hnodes hcollateral
    · rw [hcollateral]
      exact foresees_nil
  · rw [h.oracle]
    split
    · exact foresees_nil
    · exact foresees_oracle

end Snapshot

theorem EthOutcome.Arises.foresees (h : eth.Arises request bounds told seen)
    (hnodes : (request.snapshot.nodes.map (·.address)).Nodup) : request.snapshot.Foresees eth.credits := by
  cases h with
  | nothing hshares => exact Snapshot.foresees_nil
  | shared hshares hleft hshare =>
      rw [(Request.shareEth_eq_ok hshare).2]
      refine ⟨?_, ?_⟩
      · intro credit hmem
        obtain ⟨paid, hpaid, rfl⟩ := List.mem_map.mp hmem
        obtain ⟨standing, hstanding, hbare⟩ :=
          hleft.exists_poolNode (Array.mem_toList_iff.mp (List.mem_of_mem_filter hpaid))
        obtain ⟨details, hdetails, rfl⟩ := mem_poolNodes.mp hstanding
        have haddress : paid.address = details.address := congrArg (·.address) hbare
        have hnetwork : paid.rewardNetwork = details.rewardNetwork := congrArg (·.rewardNetwork) hbare
        show paid.rewardNetwork = request.snapshot.networkOf paid.address
        rw [hnetwork, haddress, Snapshot.networkOf_eq hnodes hdetails]
      · intro credit hmem node _ hnode
        obtain ⟨paid, hpaid, rfl⟩ := List.mem_map.mp hmem
        obtain ⟨hpaid, hearns⟩ := List.mem_filter.mp hpaid
        obtain ⟨standing, hstanding, hbare⟩ := hleft.exists_poolNode (Array.mem_toList_iff.mp hpaid)
        have haddress : paid.address = standing.address := congrArg (·.address) hbare
        have helig : paid.eligible = standing.eligible := congrArg (·.eligible) hbare
        obtain ⟨row, hrow, hown⟩ :=
          exists_admitted_of_eligible hstanding (helig ▸ (Bool.and_eq_true_iff.mp hearns).1)
        exact hrow.isCreditable (hown.trans (haddress.symm.trans hnode.symm))

/-! ### Where foreseen credits put a node

The ledger knows the networks that were found enabled.  For the network of a creditable node
that is what the client reports, and for any other network it does not matter, since nobody
is credited who asks for it.
-/

/-- The network of a creditable node can be claimed on exactly if it is the default one or enabled. -/
theorem isEnabled_of_creditable {found : Std.ExtTreeSet UInt64}
    (hfound : ∀ network, network ∈ found ↔ network = defaultNetwork ∨
      network ∈ snapshot.creditableNetworks ∧ enabled network = true)
    (hnode : node ∈ snapshot.nodes) (hcreditable : snapshot.isCreditable node = true) :
    (new found).isEnabled node.rewardNetwork = true ↔
      node.rewardNetwork = defaultNetwork ∨ enabled node.rewardNetwork = true := by
  show (found.insert defaultNetwork).contains node.rewardNetwork = true ↔ _
  rw [Std.ExtTreeSet.contains_iff_mem, Std.ExtTreeSet.mem_insert, Std.LawfulEqCmp.compare_eq_iff_eq, hfound]
  refine ⟨?_, ?_⟩
  · intro h
    rcases h with hdefault | hdefault | ⟨-, henabled⟩
    · exact Or.inl hdefault.symm
    · exact Or.inl hdefault
    · exact Or.inr henabled
  · intro h
    by_cases hdefault : node.rewardNetwork = defaultNetwork
    · exact Or.inl hdefault.symm
    · exact Or.inr (Or.inr ⟨Snapshot.mem_creditableNetworks.mpr
        ⟨node, hnode, hcreditable, hdefault, rfl⟩, h.resolve_left hdefault⟩)

theorem networkOf_of_stranger {address : Address} (h : ∀ node ∈ snapshot.nodes, node.address ≠ address) :
    snapshot.networkOf address = defaultNetwork := by
  have hnone : (lastBy NodeDetails.address snapshot.nodes)[address]? = none := by
    rw [getElem?_lastBy, List.find?_eq_none]
    intro node hnode haddress
    exact h node (List.mem_reverse.mp hnode) (beq_iff_eq.mp haddress)
  rw [Snapshot.networkOf, hnone]
  rfl

section foreseen

variable {found : Std.ExtTreeSet UInt64} (h : snapshot.Foresees credits)
  (hnodes : (snapshot.nodes.map (·.address)).Nodup)
  (hfound : ∀ network, network ∈ found ↔ network = defaultNetwork ∨
    network ∈ snapshot.creditableNetworks ∧ enabled network = true)
include h

theorem Snapshot.Foresees.settled : ((new found).creditAll credits).Settled snapshot.networkOf :=
  (settled_new found).creditAll credits h.asks

include hfound

/-- Whoever is credited can claim where it asks to exactly if the client says so. -/
theorem Snapshot.Foresees.isEnabled_iff (hnode : node ∈ snapshot.nodes)
    (hmem : node.address ∈ ((new found).creditAll credits).nodes) :
    ((new found).creditAll credits).isEnabled node.rewardNetwork = true ↔
      node.rewardNetwork = defaultNetwork ∨ enabled node.rewardNetwork = true := by
  obtain ⟨credit, hcredit, haddress⟩ :=
    ((mem_nodes_creditAll_iff credits).mp hmem).resolve_left Std.ExtTreeMap.not_mem_empty
  rw [isEnabled_creditAll]
  exact isEnabled_of_creditable hfound hnode (h.creditable credit hcredit node hnode haddress.symm)

include hnodes

/-- The account of a node stands where the node asks to be, unless that network is disabled. -/
theorem Snapshot.Foresees.account {account : NodeAccount} (hnode : node ∈ snapshot.nodes)
    (haccount : ((new found).creditAll credits).nodes[node.address]? = some account) :
    if node.rewardNetwork = defaultNetwork ∨ enabled node.rewardNetwork = true then
      account.network = node.rewardNetwork ∧ node.address ∉ ((new found).creditAll credits).invalid
    else account.network = defaultNetwork ∧
      ((new found).creditAll credits).invalid[node.address]? = some node.rewardNetwork := by
  have hwanted := Snapshot.networkOf_eq hnodes hnode
  have hmem := Std.ExtTreeMap.isSome_getElem?_iff_mem.mp (Option.isSome_iff_exists.mpr ⟨account, haccount⟩)
  have hopen := h.isEnabled_iff hfound hnode hmem
  have hnetwork := h.settled.network node.address account haccount
  rw [hwanted] at hnetwork
  split
  · next hclaims =>
    rw [if_pos (hopen.mpr hclaims)] at hnetwork
    refine ⟨hnetwork, ?_⟩
    intro hdisabled
    obtain ⟨network, hentry⟩ := Option.isSome_iff_exists.mp
      (Std.ExtTreeMap.isSome_getElem?_iff_mem.mpr hdisabled)
    obtain ⟨-, rfl, hclosed⟩ := (h.settled.invalid node.address network).mp hentry
    rw [hwanted, hopen.mpr hclaims] at hclosed
    cases hclosed
  · next hdisabled =>
    have hclosed : ((new found).creditAll credits).isEnabled node.rewardNetwork = false :=
      Bool.eq_false_of_not_eq_true fun hc => hdisabled (hopen.mp hc)
    rw [hclosed, if_neg (by decide)] at hnetwork
    exact ⟨hnetwork, (h.settled.invalid node.address _).mpr ⟨hmem, hwanted, hclosed⟩⟩

/-- What is on record as disabled is what a node asked for. -/
theorem Snapshot.Foresees.exists_disabled {address : Address} {network : UInt64}
    (hentry : ((new found).creditAll credits).invalid[address]? = some network) :
    address ∈ ((new found).creditAll credits).nodes ∧ ∃ node ∈ snapshot.nodes, node.address = address ∧
      node.rewardNetwork = network ∧ network ≠ defaultNetwork ∧ enabled network = false := by
  obtain ⟨hmem, rfl, hclosed⟩ := (h.settled.invalid address network).mp hentry
  refine ⟨hmem, ?_⟩
  by_cases hstranger : ∀ node ∈ snapshot.nodes, node.address ≠ address
  · -- On the default network rewards can always be claimed.
    have hopen : (new found).isEnabled defaultNetwork = true := Std.ExtTreeSet.contains_insert_self
    rw [networkOf_of_stranger hstranger, isEnabled_creditAll, hopen] at hclosed
    cases hclosed
  · obtain ⟨node, hnode, rfl⟩ : ∃ node ∈ snapshot.nodes, node.address = address := by
      by_contra hnone
      exact hstranger fun node hnode heq => hnone ⟨node, hnode, heq⟩
    have hopen := h.isEnabled_iff hfound hnode hmem
    rw [Snapshot.networkOf_eq hnodes hnode] at hclosed ⊢
    rw [hclosed] at hopen
    refine ⟨node, hnode, rfl, rfl, ?_, ?_⟩
    · intro hdefault
      exact absurd (hopen.mpr (Or.inl hdefault)) (by decide)
    · refine Bool.eq_false_of_not_eq_true ?_
      intro hreported
      exact absurd (hopen.mpr (Or.inr hreported)) (by decide)

/-- **Foreseen credits put every node where it asks to be, unless its network is disabled.** -/
theorem Snapshot.Foresees.placed {rpl : RplAllocation} {hash : List UInt8 → Digest} {file : RewardsFile}
    (performance : PerformanceFile)
    (hfile : (request.rewardsFile bounds rpl eth ((new found).creditAll credits)).withTree hash = .ok file) :
    Generated.Placed snapshot enabled ⟨file, performance, ((new found).creditAll credits).invalid⟩ where
  node record hrecord node hnode haddress := by
    have haccount := account_of_record hfile hrecord
    rw [← haddress] at haccount ⊢
    exact h.account hnodes hfound hnode haccount
  stranger record hrecord hstranger := by
    have hnetwork := h.settled.network _ _ (account_of_record hfile hrecord)
    rw [networkOf_of_stranger hstranger, ite_self] at hnetwork
    exact hnetwork
  invalid address network hentry := by
    obtain ⟨hmem, node, hnode, haddress, hdisabled⟩ := h.exists_disabled hnodes hfound hentry
    obtain ⟨record, hrecord, hsame⟩ := exists_record hfile hmem
    exact ⟨record, hrecord, node, hnode, hsame, haddress, hdisabled⟩

end foreseen

/-- **Every node on record claims where it asks to, unless its network is reported to be disabled**,
if no two nodes have one address. -/
theorem generate_placed {m : Type → Type} [Monad m] [LawfulMonad m] (request : Request)
    (consensus : ConsensusClient m) {execution : ExecutionClient m} {enabled : UInt64 → Bool}
    (hnodes : (request.snapshot.nodes.map (·.address)).Nodup)
    (hreports : execution.Reports request.header.number enabled) :
    Answers (Generated.Placed request.snapshot enabled) (request.generate consensus execution) := by
  refine request.answers_generate consensus.tells_anything
    (mem_of_enabledNetworks hreports request.snapshot) ?_
  intro found bounds rpl ledger eth file hfound _ hrpl heth hfile
  obtain ⟨collateral, oracle, hcredits, rfl⟩ := (allocateRpl_leaves request.snapshot
    request.header.timestamp (new found)).post_of_ok hrpl
  have hforesees := (hcredits.foresees hnodes).append (heth.foresees hnodes)
  rw [← creditAll_append, ← creditAll_append, ← List.append_assoc] at hfile ⊢
  exact hforesees.placed hnodes hfound _ hfile

/-- An execution layer on which only network 1 is enabled. -/
def firstNetwork : ExecutionClient Id := { openNetworks with isEnabled := fun network _ => .ok (network == 1) }

/-- The rewards of the second epoch of two nodes that ask for networks 1 and 2. -/
def twoNetworks : Request :=
  { secondInterval with
    snapshot := { twoNodes with nodes := [⟨1, 1, true, 0, 3, 1⟩, ⟨2, 2, true, 0, 1, 1⟩] } }

theorem exists_generated_twoNetworks :
    ∃ generated, Returns (twoNetworks.generate twoCommittees firstNetwork) generated := by
  have henabled : Returns (enabledNetworks firstNetwork twoNetworks.snapshot twoNetworks.header.number)
      (((∅ : Std.ExtTreeSet UInt64).insert 1).insert defaultNetwork) := rfl
  obtain ⟨generated, -, hgenerated, -⟩ := exists_generated_of
    (((∅ : Std.ExtTreeSet UInt64).insert 1).insert defaultNetwork) secondEpoch 1 henabled (by decide +kernel)
    (by decide +kernel) (by decide +kernel) (by decide +kernel : (Id.run
      (twoNetworks.earnEth twoCommittees secondEpoch).run).isOk = true)
  exact ⟨generated, hgenerated⟩

theorem generate_placed_twoNetworks :
    (twoNetworks.snapshot.nodes.map (·.address)).Nodup ∧ firstNetwork.Reports 3 (· == 1) ∧
      ∃ generated, Id.run (twoNetworks.generate twoCommittees firstNetwork).run = .ok generated ∧
        Generated.Placed twoNetworks.snapshot (· == 1) generated := by
  have hnodes : (twoNetworks.snapshot.nodes.map (·.address)).Nodup := by decide
  have hreports : firstNetwork.Reports 3 (· == 1) := firstNetwork.reports_opens 3
  obtain ⟨generated, hgenerated⟩ := exists_generated_twoNetworks
  exact ⟨hnodes, hreports, generated, hgenerated,
    always_id.mp (generate_placed twoNetworks twoCommittees hnodes hreports) generated hgenerated⟩

end PoolRewards
