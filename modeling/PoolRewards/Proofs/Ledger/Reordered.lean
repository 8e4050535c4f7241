/-
The split of the pending RPL does not depend on the order of rows.

Every reward is worked out from a row and from sums over all rows.  A credit asks for the
network of the node's one row, so credits to one node never disagree, and the ledger comes
out the same in whatever order they are made.
-/
import PoolRewards.Proofs.Ledger.Credits
import PoolRewards.Proofs.Ledger.Order
import PoolRewards.Proofs.Snapshot.Order

namespace PoolRewards

open Ledger

namespace Snapshot

variable {snapshot snapshot' : Snapshot} {time : UInt64}

/-- The network on which the node with an address claims. -/
def networkOf (snapshot : Snapshot) (address : Address) : UInt64 :=
  ((lastBy NodeDetails.address snapshot.nodes)[address]?.map (·.rewardNetwork)).getD defaultNetwork

/-- Credits that ask for the networks of the snapshot's nodes. -/
def Asks (snapshot : Snapshot) (credits : List Credit) : Prop :=
  ∀ credit ∈ credits, credit.network = snapshot.networkOf credit.node

theorem Asks.agree {credits : List Credit} (h : snapshot.Asks credits) :
    ∀ c ∈ credits, ∀ d ∈ credits, c.Agree d := by
  intro c hc d hd hnode
  rw [h c hc, h d hd, hnode]

theorem lastBy_address_eq_some (hnodes : (snapshot.nodes.map (·.address)).Nodup) {node : NodeDetails}
    {address : Address} : (lastBy NodeDetails.address snapshot.nodes)[address]? = some node ↔
      node ∈ snapshot.nodes ∧ node.address = address := by
  rw [getElem?_lastBy]
  refine ⟨?_, ?_⟩
  · intro hfound
    have htest := List.find?_some hfound
    rw [beq_iff_eq] at htest
    exact ⟨List.mem_reverse.mp (List.mem_of_find?_eq_some hfound), htest⟩
  · intro h'
    obtain ⟨hmem, haddress⟩ := h'
    have hsome : (snapshot.nodes.reverse.find? fun node => node.address == address).isSome = true := by
      rw [List.find?_isSome]
      exact ⟨node, List.mem_reverse.mpr hmem, beq_iff_eq.mpr haddress⟩
    obtain ⟨other, hother⟩ := Option.isSome_iff_exists.mp hsome
    have hmem' := List.mem_reverse.mp (List.mem_of_find?_eq_some hother)
    have htest := List.find?_some hother
    rw [beq_iff_eq] at htest
    rw [hother, List.inj_on_of_nodup_map hnodes hmem' hmem (htest.trans haddress.symm)]

theorem networkOf_eq (hnodes : (snapshot.nodes.map (·.address)).Nodup) {node : NodeDetails}
    (hmem : node ∈ snapshot.nodes) : snapshot.networkOf node.address = node.rewardNetwork := by
  rw [networkOf, (lastBy_address_eq_some hnodes).mpr ⟨hmem, rfl⟩]
  rfl

theorem Reordered.networkOf (h : snapshot.Reordered snapshot') (hdistinct : snapshot.Distinct) :
    snapshot'.networkOf = snapshot.networkOf := by
  funext address
  have hfound : (lastBy NodeDetails.address snapshot'.nodes)[address]? =
      (lastBy NodeDetails.address snapshot.nodes)[address]? := by
    ext node
    rw [lastBy_address_eq_some (hdistinct.reordered h).nodes, lastBy_address_eq_some hdistinct.nodes,
      h.nodes.mem_iff]
  rw [Snapshot.networkOf, Snapshot.networkOf, hfound]

/-! ### Collateral

The totals are sums over the rows, so every row has the same reward in either snapshot.  A
division by zero stops both splits, if perhaps at different rows, and the fault is the same.
-/

theorem Reordered.totalStake (h : snapshot.Reordered snapshot') :
    snapshot'.totalStake = snapshot.totalStake := (Amount.sum_perm (h.nodes.map _)).symm

theorem Reordered.totalWeight (h : snapshot.Reordered snapshot') :
    snapshot'.totalWeight = snapshot.totalWeight := (Amount.sum_perm (h.nodes.map _)).symm

theorem Reordered.partOfPending (h : snapshot.Reordered snapshot') :
    snapshot'.partOfPending = snapshot.partOfPending := by
  funext fraction
  rw [Snapshot.partOfPending, Snapshot.partOfPending, h.network]

theorem Reordered.collateralPool (h : snapshot.Reordered snapshot') :
    snapshot'.collateralPool = snapshot.collateralPool := by
  rw [Snapshot.collateralPool, Snapshot.collateralPool, h.partOfPending, h.network]

theorem Reordered.collateralRewardOf (h : snapshot.Reordered snapshot') :
    snapshot'.collateralRewardOf = snapshot.collateralRewardOf := by
  funext node
  rw [Snapshot.collateralRewardOf, Snapshot.collateralRewardOf, h.collateralPool, h.totalStake,
    h.totalWeight, h.network]

theorem Reordered.collateralCreditsOf (h : snapshot.Reordered snapshot') (nodes : List NodeDetails) :
    snapshot'.collateralCreditsOf nodes = snapshot.collateralCreditsOf nodes := by
  induction nodes with
  | nil => rfl
  | cons node rest ih =>
      rw [Snapshot.collateralCreditsOf, Snapshot.collateralCreditsOf, h.collateralRewardOf, ih]

/-- Nodes in another order have their credits in another order. -/
theorem collateralCreditsOf_perm {nodes nodes' : List NodeDetails} (h : nodes.Perm nodes') :
    ∀ {credits : List Credit}, snapshot.collateralCreditsOf nodes = .ok credits →
      ∃ credits', snapshot.collateralCreditsOf nodes' = .ok credits' ∧ credits.Perm credits' := by
  induction h with
  | nil => exact fun hok => ⟨_, hok, List.Perm.refl _⟩
  | cons node _ ih =>
      intro credits hok
      obtain ⟨reward, others, hreward, hothers, rfl⟩ := collateralCreditsOf_cons.mp hok
      obtain ⟨others', hothers', hperm⟩ := ih hothers
      exact ⟨_, collateralCreditsOf_cons.mpr ⟨reward, others', hreward, hothers', rfl⟩,
        hperm.append_left _⟩
  | swap node node' rest =>
      intro credits hok
      obtain ⟨reward', others', hreward', hothers', rfl⟩ := collateralCreditsOf_cons.mp hok
      obtain ⟨reward, others, hreward, hothers, rfl⟩ := collateralCreditsOf_cons.mp hothers'
      refine ⟨_, collateralCreditsOf_cons.mpr ⟨reward, _, hreward,
        collateralCreditsOf_cons.mpr ⟨reward', others, hreward', hothers, rfl⟩, rfl⟩, ?_⟩
      rw [← List.append_assoc, ← List.append_assoc]
      exact List.perm_append_comm.append_right others
  | trans _ _ ih ih' =>
      intro credits hok
      obtain ⟨mid, hmid, hperm⟩ := ih hok
      obtain ⟨credits', hok', hperm'⟩ := ih' hmid
      exact ⟨credits', hok', hperm.trans hperm'⟩

/-- Credits that cannot be worked out are so for a division by zero. -/
theorem fault_of_collateralCreditsOf {nodes : List NodeDetails} {fault : Fault}
    (h : snapshot.collateralCreditsOf nodes = .error fault) : fault = .divideByZero := by
  obtain ⟨node, -, hreward⟩ := collateralCreditsOf_eq_error_iff.mp h
  exact (collateralReward_eq_error_iff.mp hreward).1

theorem asks_collateralCreditsOf (hnodes : (snapshot.nodes.map (·.address)).Nodup)
    {nodes : List NodeDetails} {credits : List Credit} (hsub : nodes ⊆ snapshot.nodes)
    (h : snapshot.collateralCreditsOf nodes = .ok credits) : snapshot.Asks credits := by
  intro credit hmem
  obtain ⟨node, hnode, reward, -, -, rfl⟩ := exists_node_of_collateralCredit h credit hmem
  exact (networkOf_eq hnodes (hsub hnode)).symm

end Snapshot

variable {snapshot snapshot' : Snapshot} {time : UInt64}

theorem makeCredits_perm {credits credits' : List Credit} (h : credits.Perm credits')
    (hasks : snapshot.Asks credits) :
    makeCredits credits' = makeCredits credits := by
  funext bucket name expected tolerance ledger
  have hledger : ledger.creditAll credits' = ledger.creditAll credits := (creditAll_perm h hasks.agree).symm
  have hrun : ∀ credits : List Credit, makeCredits credits bucket name expected tolerance ledger =
      (do
        let total := (← get).total bucket
        let _ ← Halt.check (reconcile name total expected tolerance)
        return total : Crediting Amount) (ledger.creditAll credits) := fun _ => rfl
  rw [hrun, hrun, hledger]

theorem arithmetic_ok_bind {α β : Type} (a : α) (f : α → Crediting β) :
    (Halt.arithmetic (.ok a) >>= f) = f a := rfl

/-- Collateral is allocated alike, fault for fault. -/
theorem Snapshot.Reordered.allocateCollateral (h : snapshot.Reordered snapshot')
    (hdistinct : snapshot.Distinct) : allocateCollateral snapshot' = allocateCollateral snapshot := by
  have hcredits : snapshot'.collateralCredits = snapshot.collateralCreditsOf snapshot'.nodes :=
    h.collateralCreditsOf snapshot'.nodes
  unfold PoolRewards.allocateCollateral
  rw [h.collateralPool, h.tolerance, hcredits]
  rcases hok : snapshot.collateralCredits with fault | credits
  · rcases hok' : snapshot.collateralCreditsOf snapshot'.nodes with fault' | credits'
    · rw [Snapshot.fault_of_collateralCreditsOf hok, Snapshot.fault_of_collateralCreditsOf hok']
    · obtain ⟨credits, hcredits, -⟩ := Snapshot.collateralCreditsOf_perm h.nodes.symm hok'
      rw [Snapshot.collateralCredits, hcredits] at hok
      cases hok
  · obtain ⟨credits', hok', hperm⟩ := Snapshot.collateralCreditsOf_perm h.nodes hok
    have hasks := Snapshot.asks_collateralCreditsOf hdistinct.nodes (fun _ hmem => hmem) hok
    rw [hok', arithmetic_ok_bind, arithmetic_ok_bind, makeCredits_perm hperm hasks]

theorem Snapshot.Reordered.participation (h : snapshot.Reordered snapshot') :
    snapshot'.participation = snapshot.participation := by
  funext time member
  rw [Snapshot.participation, Snapshot.participation, h.network]

theorem Snapshot.Reordered.totalParticipation (h : snapshot.Reordered snapshot') :
    snapshot'.totalParticipation time = snapshot.totalParticipation time := by
  rw [Snapshot.totalParticipation, Snapshot.totalParticipation, h.participation]
  exact (Amount.sum_perm (h.oracleMembers.map _)).symm

theorem Snapshot.asks_oracleCredits : snapshot.Asks (snapshot.oracleCredits time) := by
  intro credit hmem
  obtain ⟨member, -, rfl⟩ := List.mem_map.mp hmem
  rfl

theorem Snapshot.Reordered.oracleCredits (h : snapshot.Reordered snapshot') (hdistinct : snapshot.Distinct) :
    (snapshot.oracleCredits time).Perm (snapshot'.oracleCredits time) := by
  have hpool : snapshot'.oraclePool = snapshot.oraclePool := by
    rw [Snapshot.oraclePool, Snapshot.oraclePool, h.partOfPending, h.network]
  have hcredit : ∀ snapshot : Snapshot, snapshot.oracleCredits time = snapshot.oracleMembers.map
      fun member => ⟨member.address, snapshot.networkOf member.address, .oracleDaoRpl,
        snapshot.participation time member * snapshot.oraclePool / snapshot.totalParticipation time⟩ :=
    fun _ => rfl
  rw [hcredit, hcredit, hpool, h.participation, h.totalParticipation, h.networkOf hdistinct]
  exact h.oracleMembers.map _

theorem Snapshot.Reordered.allocateOracleDao (h : snapshot.Reordered snapshot')
    (hdistinct : snapshot.Distinct) :
    allocateOracleDao snapshot' time = allocateOracleDao snapshot time := by
  have hpool : snapshot'.oraclePool = snapshot.oraclePool := by
    rw [Snapshot.oraclePool, Snapshot.oraclePool, h.partOfPending, h.network]
  unfold PoolRewards.allocateOracleDao
  rw [h.totalParticipation, hpool, h.tolerance,
    makeCredits_perm (h.oracleCredits hdistinct) Snapshot.asks_oracleCredits]

/-- **The pending RPL is split alike**, and leaves the same ledger. -/
theorem Snapshot.Reordered.allocateRpl (h : snapshot.Reordered snapshot') (hdistinct : snapshot.Distinct) :
    allocateRpl snapshot' time = allocateRpl snapshot time := by
  unfold PoolRewards.allocateRpl
  rw [h.network, h.totalStake, h.totalWeight, h.allocateCollateral hdistinct, h.allocateOracleDao hdistinct]

end PoolRewards
