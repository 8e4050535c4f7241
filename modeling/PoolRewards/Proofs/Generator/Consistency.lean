/-
Every rewards file agrees with itself.

The totals, the amounts of networks and those of nodes are worked out at different moments:
RPL totals between two rounds of credits, the treasury's and the stakers' parts as what is
left, the ether of node operators while it is split.  They all agree because every amount
reaches the ledger as a credit and the ledger's books balance.  The tree adds proofs and a
root and changes no amount.

Nothing is assumed of the snapshot or of what the clients answer.
-/
import PoolRewards.Proofs.Generator.Observation
import PoolRewards.Proofs.Generator.Steps
import PoolRewards.Proofs.Ledger.Allocation

namespace PoolRewards

open Ledger

variable {request : Request}

/-- The total that is reported for a bucket. -/
def TotalRewards.inBucket (totals : TotalRewards) : Bucket → Amount
  | .collateralRpl => totals.collateralRpl
  | .oracleDaoRpl => totals.oracleDaoRpl
  | .smoothingPoolEth => totals.nodeOperatorEth

namespace RewardsFile

/-- What the nodes on record have in a bucket. -/
def nodeSum (file : RewardsFile) (bucket : Bucket) : Amount :=
  (file.nodeRewards.map (·.rewards.get bucket)).sum

/-- What the nodes on record for a network have in a bucket. -/
def networkSum (file : RewardsFile) (network : UInt64) (bucket : Bucket) : Amount :=
  ((file.nodeRewards.filter (·.network = network)).map (·.rewards.get bucket)).sum

end RewardsFile

/-- What is generated agrees with itself and with what was asked for. -/
structure Generated.Consistent (request : Request) (generated : Generated) : Prop where
  addresses : (generated.rewards.nodeRewards.map (·.address)).Pairwise (· < ·)
  networks : (generated.rewards.networkRewards.map (·.network)).Pairwise (· < ·)
  listed : ∀ network, network ∈ generated.rewards.networkRewards.map (·.network) ↔
    network ∈ generated.rewards.nodeRewards.map (·.network)
  networkSums : ∀ record ∈ generated.rewards.networkRewards, ∀ bucket,
    record.rewards.get bucket = generated.rewards.networkSum record.network bucket
  nodeSums : ∀ bucket, generated.rewards.nodeSum bucket = generated.rewards.totals.inBucket bucket
  pending : generated.rewards.totals.protocolDaoRpl + generated.rewards.totals.collateralRpl +
    generated.rewards.totals.oracleDaoRpl = request.snapshot.network.pendingRpl
  ether : generated.rewards.totals.poolStakerEth + generated.rewards.totals.nodeOperatorEth =
    generated.rewards.totals.smoothingPoolEth
  balance : generated.rewards.totals.smoothingPoolEth =
    if request.index = 0 then 0 else request.snapshot.network.smoothingPoolBalance
  genesis : request.index = 0 →
    (∀ record ∈ generated.rewards.nodeRewards, record.rewards.smoothingPoolEth = 0) ∧
      generated.performance.minipools = ∅

/-! ### The tree

Amounts, networks and totals are in place before the tree is built over them.
-/

/-- A tree changes nothing of a file but the root and the proofs. -/
theorem RewardsFile.of_withTree {hash : List UInt8 → Digest} {file file' : RewardsFile}
    (h : file.withTree hash = .ok file') :
    file'.totals = file.totals ∧ file'.networkRewards = file.networkRewards ∧
      ∀ {α : Type} (g : NodeReward → α), (∀ record proof, g { record with proof } = g record) →
        file'.nodeRewards.map g = file.nodeRewards.map g := by
  obtain ⟨tree, -, rfl⟩ := withTree_eq_ok_iff.mp h
  refine ⟨rfl, rfl, fun g hg => ?_⟩
  rw [List.map_map]
  exact List.map_congr_left fun record _ => hg record _

/-! ### The ether

What node operators get is read off the split and credited node by node.  A node that takes
no part earns nothing, so leaving it out of the credits leaves nothing out of the sum.
-/

/-- The credits of an outcome pay what it was split into. -/
structure EthOutcome.Paid (request : Request) (eth : EthOutcome) : Prop where
  bucket : ∀ credit ∈ eth.credits, credit.bucket = .smoothingPoolEth
  paid : (eth.credits.map (·.amount)).sum = eth.allocation.nodeOperators
  whole : eth.allocation.poolStakers + eth.allocation.nodeOperators = eth.total
  balance : eth.total = if request.index = 0 then 0 else request.snapshot.network.smoothingPoolBalance
  genesis : request.index = 0 → eth = .nothing

theorem EthOutcome.nothing_paid (h : request.sharesEth = false) : EthOutcome.nothing.Paid request where
  bucket _ hmem := absurd hmem List.not_mem_nil
  paid := rfl
  whole := rfl
  balance := by
    rw [Request.sharesEth, Bool.and_eq_false_iff, bne_eq_false_iff_eq, bne_eq_false_iff_eq] at h
    split
    · rfl
    · next hindex => exact (h.resolve_right hindex).symm
  genesis _ := rfl

/-- A node that is not paid gets nothing, so the credits come to what the nodes earn. -/
theorem sum_ethCredits {nodes : Array PoolNode}
    (h : ∀ node ∈ nodes, node.eligible = false → node.eth = 0) :
    ((ethCredits nodes).map (·.amount)).sum = (nodes.toList.map (·.eth)).sum := by
  have hmap : (ethCredits nodes).map (·.amount) = (nodes.toList.filter (·.isPaid)).map (·.eth) := by
    unfold ethCredits
    rw [List.map_map]
    rfl
  rw [hmap, sum_map_filter_of_zero]
  intro node hmem hunpaid
  rcases helig : node.eligible with _ | _
  · exact h node (Array.mem_toList_iff.mp hmem) helig
  · rw [PoolNode.isPaid, helig, Bool.true_and, bne_eq_false_iff_eq] at hunpaid
    exact hunpaid

theorem PoolNode.eth_withShares {node : PoolNode} {pot totalScore : Amount} (h : node.eligible = false) :
    (node.withShares pot totalScore).eth = 0 := by
  unfold PoolNode.withShares
  rw [h]
  rfl

theorem PoolNode.eligible_withShares (node : PoolNode) (pot totalScore : Amount) :
    (node.withShares pot totalScore).eligible = node.eligible := by
  unfold PoolNode.withShares
  split <;> rfl

/-- **What is shared out is what is credited**, and the rest is the stakers'. -/
theorem Request.paid_of_shareEth {nodes : Array PoolNode} {totals : AttestationTotals} {eth : EthOutcome}
    (hshares : request.sharesEth = true) (hnodes : ∀ node ∈ nodes, node.eth = 0)
    (h : request.shareEth nodes totals = .ok eth) : eth.Paid request := by
  have hindex : request.index ≠ 0 := by
    rw [Request.sharesEth, Bool.and_eq_true, bne_iff_ne, bne_iff_ne] at hshares
    exact hshares.2
  have hbucket (nodes : Array PoolNode) : ∀ credit ∈ ethCredits nodes, credit.bucket = .smoothingPoolEth := by
    intro credit hmem
    obtain ⟨node, -, rfl⟩ := List.mem_map.mp hmem
    rfl
  unfold Request.shareEth splitBalance at h
  dsimp only at h
  split at h
  · cases h
    refine ⟨hbucket nodes, ?_, add_zero _, (if_neg hindex).symm, fun h => absurd h hindex⟩
    rw [sum_ethCredits fun node hmem _ => hnodes node hmem]
    refine List.sum_eq_zero ?_
    intro amount hmem
    obtain ⟨node, hnode, rfl⟩ := List.mem_map.mp hmem
    exact hnodes node (Array.mem_toList_iff.mp hnode)
  · rcases hreconcile : reconcile "smoothing pool ETH"
        (Amount.sum ((nodes.map (·.withShares (operatorPot request.snapshot.network.smoothingPoolBalance totals)
          totals.score)).toList.map (·.eth)))
        (operatorPot request.snapshot.network.smoothingPoolBalance totals)
        request.snapshot.tolerance with error | delta
    · rw [hreconcile] at h
      cases h
    · rw [hreconcile] at h
      cases h
      refine ⟨hbucket _, ?_, sub_add_cancel _ _, (if_neg hindex).symm, fun h => absurd h hindex⟩
      rw [sum_ethCredits, Amount.sum_eq]
      intro node hmem helig
      obtain ⟨origin, -, rfl⟩ := Array.mem_map.mp hmem
      rw [PoolNode.eligible_withShares] at helig
      exact PoolNode.eth_withShares helig

/-- However the ether comes about, what it comes to is what is credited. -/
theorem EthOutcome.Arises.paid {bounds : IntervalBounds} {told : Committee → Prop}
    {seen : Attestation → Prop} {eth : EthOutcome} (h : eth.Arises request bounds told seen) :
    eth.Paid request := by
  cases h with
  | nothing hshares => exact nothing_paid hshares
  | shared hshares hleft hshare =>
      exact request.paid_of_shareEth hshares (fun _ hnode => hleft.eth hnode) hshare

/-- **What the ether comes to is what is credited.** -/
theorem Request.paid_of_earnEth {m : Type → Type} [Monad m] [LawfulMonad m] (request : Request)
    (consensus : ConsensusClient m) (bounds : IntervalBounds) :
    Answers (EthOutcome.Paid request) (request.earnEth consensus bounds) :=
  (request.arises_of_earnEth bounds consensus.tells_anything).mono fun _ h => h.paid

/-! ### The files

The last ledger holds the RPL parts and the ether, and everything in the files is read off
it.  Each sum is therefore a sum over its accounts, sorted in one way or another.
-/

/-- The ledger at the end holds the pending RPL's parts and the node operators' ether. -/
structure Ledger.Final (request : Request) (rpl : RplAllocation) (eth : EthOutcome) (ledger : Ledger) :
    Prop where
  balanced : ledger.Balanced
  collateral : ledger.nodeTotal .collateralRpl = rpl.collateral
  oracleDao : ledger.nodeTotal .oracleDaoRpl = rpl.oracleDao
  ether : ledger.nodeTotal .smoothingPoolEth = eth.allocation.nodeOperators
  genesis : request.index = 0 → ledger.Untouched .smoothingPoolEth

theorem Ledger.Untouched.nodeTotal {ledger : Ledger} {bucket : Bucket} (h : ledger.Untouched bucket) :
    ledger.nodeTotal bucket = 0 := by
  refine List.sum_eq_zero ?_
  intro amount hmem
  obtain ⟨⟨node, account⟩, hentry, rfl⟩ := List.mem_map.mp hmem
  exact h node account (Std.ExtTreeMap.mem_toList_iff_getElem?_eq_some.mp hentry)

theorem RplAllocation.Held.final {rpl : RplAllocation} {ledger : Ledger} {eth : EthOutcome}
    (h : rpl.Held request.snapshot ledger) (heth : eth.Paid request) :
    (ledger.creditAll eth.credits).Final request rpl eth where
  balanced := h.balanced.creditAll eth.credits
  collateral := by
    rw [nodeTotal_creditAll, credited_eq_zero, add_zero, h.collateral]
    intro credit hmem
    rw [heth.bucket credit hmem]
    decide
  oracleDao := by
    rw [nodeTotal_creditAll, credited_eq_zero, add_zero, h.oracleDao]
    intro credit hmem
    rw [heth.bucket credit hmem]
    decide
  ether := by
    rw [nodeTotal_creditAll, credited_eq_sum heth.bucket, heth.paid, h.ether.nodeTotal, zero_add]
  genesis hindex := by
    rw [heth.genesis hindex]
    exact h.ether

theorem RewardsFile.networkSum_eq (file : RewardsFile) (network : UInt64) (bucket : Bucket) :
    file.networkSum network bucket = (file.nodeRewards.map fun record =>
      if record.network = network then record.rewards.get bucket else 0).sum := by
  rw [List.sum_map_ite, List.sum_map_zero, add_zero]
  rfl

theorem pairwise_addresses {ν : Type} (entries : Std.ExtTreeMap Address ν) :
    (entries.toList.map (·.1)).Pairwise (· < ·) := by
  rw [List.pairwise_map]
  exact entries.ordered_keys_toList.imp compareOfLessAndEq_eq_lt.mp

theorem pairwise_networks {ν : Type} (entries : Std.ExtTreeMap UInt64 ν) :
    (entries.toList.map (·.1)).Pairwise (· < ·) := by
  rw [List.pairwise_map]
  exact entries.ordered_keys_toList.imp compareOfLessAndEq_eq_lt.mp

variable {bounds : IntervalBounds} {rpl : RplAllocation} {eth : EthOutcome} {ledger : Ledger}
  {hash : List UInt8 → Digest} {file : RewardsFile}

/-- What the records with proofs have in common with the accounts of the ledger. -/
theorem map_nodeRewards_withTree {α : Type}
    (h : (request.rewardsFile bounds rpl eth ledger).withTree hash = .ok file) (g : NodeReward → α)
    (hg : ∀ record proof, g { record with proof } = g record) :
    file.nodeRewards.map g = ledger.nodes.toList.map fun entry =>
      g ⟨entry.1, entry.2.network, entry.2.rewards, []⟩ := by
  rw [(RewardsFile.of_withTree h).2.2 g hg]
  exact List.map_map

theorem map_network_withTree (h : (request.rewardsFile bounds rpl eth ledger).withTree hash = .ok file) :
    file.networkRewards.map (·.network) = ledger.networks.toList.map (·.1) := by
  rw [(RewardsFile.of_withTree h).2.1]
  exact List.map_map

theorem mem_networkRewards_withTree (hbalanced : ledger.Balanced)
    (h : (request.rewardsFile bounds rpl eth ledger).withTree hash = .ok file) (network : UInt64) :
    network ∈ file.networkRewards.map (·.network) ↔ network ∈ file.nodeRewards.map (·.network) := by
  rw [map_network_withTree h, map_nodeRewards_withTree h _ fun _ _ => rfl,
    Std.ExtTreeMap.map_fst_toList_eq_keys, Std.ExtTreeMap.mem_keys, hbalanced.networks]
  refine ⟨?_, ?_⟩
  · intro hclaims
    obtain ⟨node, account, hnode, hnetwork⟩ := hclaims
    exact List.mem_map.mpr
      ⟨(node, account), Std.ExtTreeMap.mem_toList_iff_getElem?_eq_some.mpr hnode, hnetwork⟩
  · intro hmem
    obtain ⟨⟨node, account⟩, hentry, hnetwork⟩ := List.mem_map.mp hmem
    exact ⟨node, account, Std.ExtTreeMap.mem_toList_iff_getElem?_eq_some.mp hentry, hnetwork⟩

theorem networkSums_withTree (hbalanced : ledger.Balanced)
    (h : (request.rewardsFile bounds rpl eth ledger).withTree hash = .ok file) :
    ∀ record ∈ file.networkRewards, ∀ bucket,
      record.rewards.get bucket = file.networkSum record.network bucket := by
  intro record hmem bucket
  rw [show file.networkRewards = _ from (RewardsFile.of_withTree h).2.1] at hmem
  obtain ⟨⟨network, rewards⟩, hentry, rfl⟩ := List.mem_map.mp hmem
  have hsum := hbalanced.sums network bucket
  rw [Std.ExtTreeMap.mem_toList_iff_getElem?_eq_some.mp hentry] at hsum
  show rewards.get bucket = file.networkSum network bucket
  rw [RewardsFile.networkSum_eq, map_nodeRewards_withTree h _ fun _ _ => rfl]
  exact hsum

/-- **Whatever ledger the files are written from, they agree with it and so with each other.** -/
theorem Ledger.Final.consistent (hledger : ledger.Final request rpl eth)
    (hrpl : rpl.protocolDao + rpl.collateral + rpl.oracleDao = request.snapshot.network.pendingRpl)
    (heth : eth.Paid request)
    (h : (request.rewardsFile bounds rpl eth ledger).withTree hash = .ok file) :
    Generated.Consistent request ⟨file, request.performanceFile bounds eth, ledger.invalid⟩ where
  addresses := by
    show (file.nodeRewards.map (·.address)).Pairwise (· < ·)
    rw [map_nodeRewards_withTree h _ fun _ _ => rfl]
    exact pairwise_addresses ledger.nodes
  networks := by
    show (file.networkRewards.map (·.network)).Pairwise (· < ·)
    rw [map_network_withTree h]
    exact pairwise_networks ledger.networks
  listed := mem_networkRewards_withTree hledger.balanced h
  networkSums := networkSums_withTree hledger.balanced h
  nodeSums bucket := by
    show (file.nodeRewards.map (·.rewards.get bucket)).sum = file.totals.inBucket bucket
    rw [map_nodeRewards_withTree h _ fun _ _ => rfl, (RewardsFile.of_withTree h).1]
    cases bucket with
    | collateralRpl => exact hledger.collateral
    | oracleDaoRpl => exact hledger.oracleDao
    | smoothingPoolEth => exact hledger.ether
  pending := by
    show file.totals.protocolDaoRpl + file.totals.collateralRpl + file.totals.oracleDaoRpl = _
    rw [(RewardsFile.of_withTree h).1]
    exact hrpl
  ether := by
    show file.totals.poolStakerEth + file.totals.nodeOperatorEth = file.totals.smoothingPoolEth
    rw [(RewardsFile.of_withTree h).1]
    exact heth.whole
  balance := by
    show file.totals.smoothingPoolEth = _
    rw [(RewardsFile.of_withTree h).1]
    exact heth.balance
  genesis hindex := by
    refine ⟨?_, ?_⟩
    · intro record hmem
      have hmem : record.rewards ∈ file.nodeRewards.map (·.rewards) := List.mem_map.mpr ⟨record, hmem, rfl⟩
      rw [map_nodeRewards_withTree h _ fun _ _ => rfl] at hmem
      obtain ⟨⟨node, account⟩, hentry, hrewards⟩ := List.mem_map.mp hmem
      rw [← hrewards]
      exact hledger.genesis hindex node account (Std.ExtTreeMap.mem_toList_iff_getElem?_eq_some.mp hentry)
    · show eth.performance = ∅
      rw [heth.genesis hindex]
      rfl

/-- **Every rewards file that is generated is consistent**, whatever is asked for and whatever
the clients answer. -/
theorem generate_consistent {m : Type → Type} [Monad m] [LawfulMonad m] (request : Request)
    (consensus : ConsensusClient m) (execution : ExecutionClient m) :
    Answers (Generated.Consistent request) (request.generate consensus execution) := by
  unfold Request.generate
  refine Answers.bind (answers_true _) fun enabled _ => ?_
  refine Answers.bind (answers_true _) fun bounds _ => ?_
  have hends := allocateRpl_ends request.snapshot request.header.timestamp enabled
  rcases hrun : (allocateRpl request.snapshot request.header.timestamp).run.run (Ledger.new enabled) with
    ⟨stop, ledger⟩
  refine Answers.bind (answers_mk fun _ h => h) ?_
  intro rpl hrpl
  have hheld := hends.post_of_ok (hrun.trans (congrArg (·, ledger) hrpl))
  refine Answers.bind (request.paid_of_earnEth consensus bounds) ?_
  intro eth heth
  refine Answers.bind (answers_check fun _ h => h) ?_
  intro file hfile
  exact answers_pure ((hheld.final heth).consistent hheld.pending heth hfile)

theorem generate_consistent_secondInterval :
    ∃ generated, Id.run (secondInterval.generate twoCommittees openNetworks).run = .ok generated ∧
      Generated.Consistent secondInterval generated := by
  obtain ⟨generated, hgenerated⟩ := exists_generated
  exact ⟨generated, hgenerated,
    always_id.mp (generate_consistent secondInterval twoCommittees openNetworks) generated hgenerated⟩

end PoolRewards
