/-
The steps of a request that has an answer.

Against clients without side effects a request has an answer exactly if each of its steps
has one.  The last step, the tree, is refused only if the ledger has no node at all.
-/
import PoolRewards.Generator
import PoolRewards.Proofs.Answers
import PoolRewards.Proofs.Duties.Attested
import PoolRewards.Proofs.Ledger.Balance
import PoolRewards.Proofs.Merkle

namespace PoolRewards

variable {request : Request} {consensus : ConsensusClient Id} {execution : ExecutionClient Id}

theorem returns_observe {bounds : IntervalBounds} {nodes : Array PoolNode} {totals : AttestationTotals} :
    Returns (request.observe consensus bounds) (nodes, totals) ↔
      ∃ start after, Tracker.new request.snapshot bounds request.snapshot.poolNodes = (.ok (), start) ∧
        Tracker.Yields (Tracker.walk consensus) start totals after ∧ nodes = after.nodes := by
  unfold Request.observe
  rcases hnew : Tracker.new request.snapshot bounds request.snapshot.poolNodes with ⟨linked, start⟩
  simp only [returns_bind, returns_arithmetic, returns_lift]
  refine ⟨?_, ?_⟩
  · intro h
    obtain ⟨⟨⟩, hlinked, ⟨result, after⟩, hwalk, hresult⟩ := h
    rcases result with halt | totals'
    · cases hresult
    · cases hresult
      refine ⟨start, after, ?_, hwalk, rfl⟩
      rw [hlinked]
  · intro h
    obtain ⟨start', after, hstart, hwalk, rfl⟩ := h
    cases hstart
    exact ⟨(), rfl, (.ok totals, after), hwalk, returns_pure.mpr rfl⟩

/-- **A request has an answer if each step has one.** -/
theorem returns_generate {generated : Generated} :
    Returns (request.generate consensus execution) generated ↔
      ∃ enabled bounds rpl ledger eth file,
        Returns (enabledNetworks execution request.snapshot request.header.number) enabled ∧
        Returns (request.bounds consensus execution) bounds ∧
        (allocateRpl request.snapshot request.header.timestamp).run.run (Ledger.new enabled) =
          (.ok rpl, ledger) ∧
        Returns (request.earnEth consensus bounds) eth ∧
        (request.rewardsFile bounds rpl eth (ledger.creditAll eth.credits)).withTree Keccak.hash = .ok file ∧
        generated = ⟨file, request.performanceFile bounds eth, (ledger.creditAll eth.credits).invalid⟩ := by
  unfold Request.generate
  simp only [returns_bind]
  refine ⟨?_, ?_⟩
  · intro h
    obtain ⟨enabled, henabled, bounds, hbounds, hrest⟩ := h
    rcases hrun : (allocateRpl request.snapshot request.header.timestamp).run.run (Ledger.new enabled) with
      ⟨result, ledger⟩
    rw [hrun] at hrest
    dsimp only at hrest
    simp only [returns_bind] at hrest
    obtain ⟨rpl, hrpl, eth, heth, file, hfile, hgenerated⟩ := hrest
    rw [returns_mk] at hrpl
    rw [hrpl] at hrun
    exact ⟨enabled, bounds, rpl, ledger, eth, file, henabled, hbounds, hrun, heth,
      returns_check.mp hfile, (returns_pure.mp hgenerated).symm⟩
  · intro h
    obtain ⟨enabled, bounds, rpl, ledger, eth, file, henabled, hbounds, hrun, heth, hfile, rfl⟩ := h
    refine ⟨enabled, henabled, bounds, hbounds, ?_⟩
    rw [hrun]
    dsimp only
    simp only [returns_bind]
    exact ⟨rpl, returns_mk.mpr rfl, eth, heth, file, returns_check.mpr hfile, returns_pure.mpr rfl⟩

theorem exists_withTree {bounds : IntervalBounds} {rpl : RplAllocation} {eth : EthOutcome} {ledger : Ledger}
    {node : Address} (hash : List UInt8 → Digest) (h : node ∈ ledger.nodes) :
    ∃ file, (request.rewardsFile bounds rpl eth ledger).withTree hash = .ok file := by
  have haddresses : (request.rewardsFile bounds rpl eth ledger).nodeRewards.map (·.address) =
      ledger.nodes.keys := by
    rw [← Std.ExtTreeMap.map_fst_toList_eq_keys]
    exact List.map_map
  refine RewardsFile.exists_withTree ?_ ?_
  · intro hnil
    rw [hnil, List.map_nil] at haddresses
    rw [← Std.ExtTreeMap.mem_keys, ← haddresses] at h
    cases h
  · rw [haddresses]
    exact ledger.nodes.nodup_keys

/-- A request each of whose steps can be taken has an answer, whatever the hashes of the tree are. -/
theorem exists_generated_of (found : Std.ExtTreeSet UInt64) (bounds : IntervalBounds) (node : Address)
    (henabled : Returns (enabledNetworks execution request.snapshot request.header.number) found)
    (hbounds : Id.run (request.bounds consensus execution).run = .ok bounds)
    (hrpl : ((allocateRpl request.snapshot request.header.timestamp).run.run (Ledger.new found)).1.isOk = true)
    (hnode : node ∈
      ((allocateRpl request.snapshot request.header.timestamp).run.run (Ledger.new found)).2.nodes)
    (heth : (Id.run (request.earnEth consensus bounds).run).isOk = true) :
    ∃ generated eth, Returns (request.generate consensus execution) generated ∧
      Id.run (request.earnEth consensus bounds).run = .ok eth ∧
        generated.performance = request.performanceFile bounds eth := by
  rcases hrun : (allocateRpl request.snapshot request.header.timestamp).run.run (Ledger.new found) with
    ⟨_ | rpl, ledger⟩
  · rw [hrun] at hrpl
    cases hrpl
  · rw [hrun] at hnode
    rcases hearn : Id.run (request.earnEth consensus bounds).run with _ | eth
    · rw [hearn] at heth
      cases heth
    · have htree : ∃ file, (request.rewardsFile bounds rpl eth
          (ledger.creditAll eth.credits)).withTree Keccak.hash = .ok file :=
        exists_withTree Keccak.hash (Ledger.mem_nodes_creditAll eth.credits hnode)
      obtain ⟨file, hfile⟩ := htree
      exact ⟨_, eth, returns_generate.mpr
        ⟨found, bounds, rpl, ledger, eth, file, henabled, hbounds, hrun, hearn, hfile, rfl⟩, rfl, rfl⟩

/-! ### The second interval of two nodes

Two nodes over one epoch are enough for every part of a request to have something to do.
Lookups are answered from tables, so the steps are worked out and only the hashes of the
tree are left as they are.
-/

/-- The rewards of the second epoch. -/
def secondInterval : Request where
  network := "testnet"
  index := 1
  header := ⟨3, 48⟩
  intervalsPassed := 1
  snapshot := twoNodes
  previous := some ⟨0, 1, 1, 1⟩
  snapshotEnd := ⟨3, 3, 3⟩

/-- An execution layer on which every network is enabled. -/
def openNetworks : ExecutionClient Id where
  snapshot _ := .ok twoNodes
  header block := .ok ⟨block, 0⟩
  isEnabled _ _ := .ok true
  rewardsEvent index := .ok ⟨index, 1, 1, 1⟩

/-- The rewards of the second epoch can be generated, and minipool 11 earns some of them. -/
theorem exists_generated_earning :
    ∃ generated, Returns (secondInterval.generate twoCommittees openNetworks) generated ∧
      ∃ entry, generated.performance.minipools[(11 : Address)]? = some entry ∧ entry.ethEarned ≠ 0 := by
  have henabled : Returns (enabledNetworks openNetworks secondInterval.snapshot secondInterval.header.number)
      ((∅ : Std.ExtTreeSet UInt64).insert defaultNetwork) := rfl
  obtain ⟨generated, eth, hgenerated, heth, hperformance⟩ := exists_generated_of
    ((∅ : Std.ExtTreeSet UInt64).insert defaultNetwork) secondEpoch 1 henabled (by decide +kernel)
    (by decide +kernel) (by decide +kernel) (by decide +kernel : (Id.run
      (secondInterval.earnEth twoCommittees secondEpoch).run).isOk = true)
  have hearns : (Id.run (secondInterval.earnEth twoCommittees secondEpoch).run).toOption.any (fun eth =>
      eth.performance[(11 : Address)]?.any (·.ethEarned != 0)) = true := by decide +kernel
  rw [heth] at hearns
  obtain ⟨_, ⟨⟩, hearns⟩ := (Option.any_eq_true _ _).mp hearns
  obtain ⟨entry, hentry, hearned⟩ := (Option.any_eq_true _ _).mp hearns
  refine ⟨generated, hgenerated, entry, ?_, bne_iff_ne.mp hearned⟩
  rw [hperformance]
  exact hentry

/-- The rewards of the second epoch can be generated. -/
theorem exists_generated :
    ∃ generated, Returns (secondInterval.generate twoCommittees openNetworks) generated := by
  obtain ⟨generated, hgenerated, -⟩ := exists_generated_earning
  exact ⟨generated, hgenerated⟩

end PoolRewards
