/-
The books of a ledger balance.

A credit goes to a node and, in the same bucket, to the node's network, which no later
credit changes.  So whatever credits are made, the networks on record are those of the
nodes on record, each network has what its nodes have together, and the total of a bucket
is the same over the nodes, over the networks and over the credits.
-/
import Mathlib.Data.BitVec
import PoolRewards.Ledger.Basic
import PoolRewards.Proofs.Maps
import PoolRewards.Proofs.Sums

namespace PoolRewards

namespace Ledger

variable {ledger : Ledger} {node : Address} {requested network : UInt64} {amount : Amount}

/-- What the nodes on a network have in a bucket. -/
def onNetwork (ledger : Ledger) (network : UInt64) (bucket : Bucket) : Amount :=
  (ledger.nodes.toList.map fun entry =>
    if entry.2.network = network then entry.2.rewards.get bucket else 0).sum

/-- What all nodes have in a bucket. -/
def nodeTotal (ledger : Ledger) (bucket : Bucket) : Amount :=
  (ledger.nodes.toList.map fun entry => entry.2.rewards.get bucket).sum

/-- What credits come to in a bucket. -/
def credited (credits : List Credit) (bucket : Bucket) : Amount :=
  (credits.map fun credit => if credit.bucket = bucket then credit.amount else 0).sum

/-- Nodes and networks agree. -/
structure Balanced (ledger : Ledger) : Prop where
  networks : ∀ network, network ∈ ledger.networks ↔
    ∃ (node : Address) (account : NodeAccount),
      ledger.nodes[node]? = some account ∧ account.network = network
  sums : ∀ network bucket,
    (ledger.networks[network]?.getD .none).get bucket = ledger.onNetwork network bucket
  totals : ∀ bucket, ledger.total bucket = ledger.nodeTotal bucket

/-! ### One credit

A credit changes one account and one network, so any sum over accounts changes by the one
account.  The account is on the credit's network, whether it was there before or has just
been put there, and that is why both sides change alike.
-/

/-- The account of a node after a credit. -/
def accountAfter (ledger : Ledger) (node : Address) (requested : UInt64) (bucket : Bucket)
    (amount : Amount) : NodeAccount :=
  { ledger.nodes[node]?.getD ⟨ledger.networkFor node requested, .none⟩ with
    rewards := (ledger.nodes[node]?.getD ⟨ledger.networkFor node requested, .none⟩).rewards.add amount bucket }

theorem network_accountAfter (bucket : Bucket) :
    (ledger.accountAfter node requested bucket amount).network = ledger.networkFor node requested := by
  unfold accountAfter networkFor
  cases ledger.nodes[node]? <;> rfl

theorem getElem?_nodes_credit (bucket : Bucket) (other : Address) :
    (ledger.credit node requested bucket amount).nodes[other]? =
      if node = other then some (ledger.accountAfter node requested bucket amount)
      else ledger.nodes[other]? := by
  show (ledger.nodes.alter node _)[other]? = _
  simp only [Std.ExtTreeMap.getElem?_alter, Std.LawfulEqCmp.compare_eq_iff_eq]
  rfl

theorem getElem?_networks_credit (bucket : Bucket) (other : UInt64) :
    (ledger.credit node requested bucket amount).networks[other]? =
      if ledger.networkFor node requested = other then
        some ((ledger.networks[other]?.getD .none).add amount bucket)
      else ledger.networks[other]? := by
  show (ledger.networks.alter _ _)[other]? = _
  simp only [Std.ExtTreeMap.getElem?_alter, Std.LawfulEqCmp.compare_eq_iff_eq]
  split
  · next h => rw [h]
  · rfl

theorem get_accountAfter (b c : Bucket) :
    (ledger.accountAfter node requested b amount).rewards.get c =
      (ledger.nodes[node]?.map (·.rewards.get c)).getD 0 + if b = c then amount else 0 := by
  unfold accountAfter
  rw [Rewards.get_add]
  rcases ledger.nodes[node]? with _ | account
  · rw [Option.getD_none, Option.map_none, Option.getD_none, Rewards.get_none]
    split <;> simp
  · rw [Option.getD_some, Option.map_some, Option.getD_some]
    split <;> simp

/-- A credit changes a sum over the nodes by the account it goes to. -/
theorem sum_nodes_credit (ledger : Ledger) (node : Address) (requested : UInt64) (amount : Amount)
    (bucket : Bucket) (g : NodeAccount → Amount) :
    ((ledger.credit node requested bucket amount).nodes.toList.map fun entry => g entry.2).sum +
        (ledger.nodes[node]?.map g).getD 0 =
      (ledger.nodes.toList.map fun entry => g entry.2).sum +
        g (ledger.accountAfter node requested bucket amount) :=
  sum_alter ledger.nodes node (fun entry => g entry.2) _

/-- A credit adds its amount to what the nodes on its network have. -/
theorem onNetwork_credit (b c : Bucket) (network : UInt64) :
    (ledger.credit node requested b amount).onNetwork network c =
      ledger.onNetwork network c +
        if ledger.networkFor node requested = network ∧ b = c then amount else 0 := by
  have hsum := sum_nodes_credit ledger node requested amount b fun account =>
    if account.network = network then account.rewards.get c else 0
  have hafter : (if (ledger.accountAfter node requested b amount).network = network then
        (ledger.accountAfter node requested b amount).rewards.get c else 0) =
      (if ledger.networkFor node requested = network ∧ b = c then amount else 0) +
        (ledger.nodes[node]?.map fun account =>
          if account.network = network then account.rewards.get c else 0).getD 0 := by
    rw [network_accountAfter, get_accountAfter]
    unfold networkFor
    rcases ledger.nodes[node]? with _ | account
    · simp only [Option.map_none, Option.getD_none, add_zero, zero_add, ite_and]
    · simp only [Option.map_some, Option.getD_some, ite_and]
      split
      · rw [add_comm]
      · rw [add_zero]
  rw [hafter, ← add_assoc] at hsum
  exact add_right_cancel hsum

theorem nodeTotal_credit (b c : Bucket) :
    (ledger.credit node requested b amount).nodeTotal c =
      ledger.nodeTotal c + if b = c then amount else 0 := by
  have hsum := sum_nodes_credit ledger node requested amount b (·.rewards.get c)
  rw [get_accountAfter, add_comm (Option.getD _ _), ← add_assoc] at hsum
  exact add_right_cancel hsum

theorem total_credit (b c : Bucket) :
    (ledger.credit node requested b amount).total c = ledger.total c + if b = c then amount else 0 := by
  have hsum := sum_alter ledger.networks (ledger.networkFor node requested)
    (fun entry : UInt64 × Rewards => entry.2.get c)
    (fun rewards : Option Rewards => (rewards.getD .none).add amount b)
  have hafter : ((ledger.networks[ledger.networkFor node requested]?.getD .none).add amount b).get c =
      (if b = c then amount else 0) +
        (ledger.networks[ledger.networkFor node requested]?.map (·.get c)).getD 0 := by
    rw [Rewards.get_add]
    rcases ledger.networks[ledger.networkFor node requested]? with _ | rewards
    · rw [Option.getD_none, Option.map_none, Option.getD_none, Rewards.get_none]
      split <;> simp
    · rw [Option.getD_some, Option.map_some, Option.getD_some]
      split <;> simp [add_comm]
  unfold total
  rw [Amount.sum_eq, Amount.sum_eq]
  simp only [hafter] at hsum
  rw [← add_assoc] at hsum
  exact add_right_cancel hsum

/-- **A credit keeps the books balanced.** -/
theorem Balanced.credit (h : ledger.Balanced) (node : Address) (requested : UInt64) (bucket : Bucket)
    (amount : Amount) : (ledger.credit node requested bucket amount).Balanced where
  networks network := by
    have hmem : network ∈ (ledger.credit node requested bucket amount).networks ↔
        ledger.networkFor node requested = network ∨ network ∈ ledger.networks := by
      rw [Std.ExtTreeMap.mem_iff_isSome_getElem?, getElem?_networks_credit,
        Std.ExtTreeMap.mem_iff_isSome_getElem?]
      split
      · next heq => simp [heq]
      · next hne => simp [hne]
    rw [hmem, h.networks]
    refine ⟨?_, ?_⟩
    · intro hcases
      rcases hcases with hnetwork | ⟨other, account, hother, hnetwork⟩
      · refine ⟨node, ledger.accountAfter node requested bucket amount, ?_, ?_⟩
        · rw [getElem?_nodes_credit, if_pos rfl]
        · rw [network_accountAfter, hnetwork]
      · by_cases heq : node = other
        · refine ⟨node, ledger.accountAfter node requested bucket amount, ?_, ?_⟩
          · rw [getElem?_nodes_credit, if_pos rfl]
          · rw [network_accountAfter, networkFor, heq, hother]
            exact hnetwork
        · refine ⟨other, account, ?_, hnetwork⟩
          rw [getElem?_nodes_credit, if_neg heq]
          exact hother
    · intro h'
      obtain ⟨other, account, hother, hnetwork⟩ := h'
      rw [getElem?_nodes_credit] at hother
      split at hother
      · cases hother
        rw [network_accountAfter] at hnetwork
        exact Or.inl hnetwork
      · exact Or.inr ⟨other, account, hother, hnetwork⟩
  sums network c := by
    rw [getElem?_networks_credit, onNetwork_credit, ← h.sums]
    split
    · next hnetwork =>
      rw [Option.getD_some, Rewards.get_add]
      simp only [hnetwork, true_and]
      split <;> simp
    · next hnetwork => simp [hnetwork]
  totals c := by rw [total_credit, nodeTotal_credit, h.totals]

/-! ### All credits

A new ledger has nothing on either side.  The rest is induction on the credits, and from
here on nobody looks at a single one.
-/

theorem balanced_new (enabled : Std.ExtTreeSet UInt64) : (new enabled).Balanced := by
  have hnodes : (new enabled).nodes.toList = [] := by
    rw [Std.ExtTreeMap.toList_eq_nil_iff]
    rfl
  have hnetworks : (new enabled).networks.toList = [] := by
    rw [Std.ExtTreeMap.toList_eq_nil_iff]
    rfl
  refine ⟨?_, ?_, ?_⟩
  · intro network
    refine ⟨?_, ?_⟩
    · exact fun hmem => absurd hmem Std.ExtTreeMap.not_mem_empty
    · intro h
      obtain ⟨node, account, hnode, -⟩ := h
      have hempty : (∅ : Std.ExtTreeMap Address NodeAccount)[node]? = some account := hnode
      rw [Std.ExtTreeMap.getElem?_empty] at hempty
      cases hempty
  · intro network bucket
    have hempty : (new enabled).networks[network]? = none := Std.ExtTreeMap.getElem?_empty
    rw [hempty, onNetwork, hnodes]
    exact Rewards.get_none bucket
  · intro bucket
    rw [total, nodeTotal, hnodes, hnetworks]
    rfl

theorem nodeTotal_new (enabled : Std.ExtTreeSet UInt64) (bucket : Bucket) :
    (new enabled).nodeTotal bucket = 0 := by
  have hnodes : (new enabled).nodes.toList = [] := by
    rw [Std.ExtTreeMap.toList_eq_nil_iff]
    rfl
  rw [nodeTotal, hnodes]
  rfl

theorem creditAll_cons (credit : Credit) (rest : List Credit) :
    ledger.creditAll (credit :: rest) =
      (ledger.credit credit.node credit.network credit.bucket credit.amount).creditAll rest := rfl

/-- A node that has an account keeps one. -/
theorem mem_nodes_creditAll {node : Address} (credits : List Credit) :
    ∀ {ledger : Ledger}, node ∈ ledger.nodes → node ∈ (ledger.creditAll credits).nodes := by
  induction credits with
  | nil => exact fun h => h
  | cons credit rest ih =>
      intro ledger h
      rw [creditAll_cons]
      refine ih ?_
      rw [Std.ExtTreeMap.mem_iff_isSome_getElem?] at h ⊢
      rw [getElem?_nodes_credit]
      split
      · rfl
      · exact h

/-- **Any credits keep the books balanced.** -/
theorem Balanced.creditAll (credits : List Credit) :
    ∀ {ledger : Ledger}, ledger.Balanced → (ledger.creditAll credits).Balanced := by
  induction credits with
  | nil => exact fun h => h
  | cons credit rest ih =>
      intro ledger h
      rw [creditAll_cons]
      exact ih (h.credit _ _ _ _)

theorem nodeTotal_creditAll (bucket : Bucket) (credits : List Credit) :
    ∀ {ledger : Ledger}, (ledger.creditAll credits).nodeTotal bucket =
      ledger.nodeTotal bucket + credited credits bucket := by
  induction credits with
  | nil =>
      intro ledger
      exact (add_zero _).symm
  | cons credit rest ih =>
      intro ledger
      rw [creditAll_cons, ih, nodeTotal_credit, credited, credited, List.map_cons, List.sum_cons,
        add_assoc]

/-- Credits in other buckets change nothing. -/
theorem credited_eq_zero {credits : List Credit} {bucket : Bucket}
    (h : ∀ credit ∈ credits, credit.bucket ≠ bucket) : credited credits bucket = 0 := by
  refine List.sum_eq_zero ?_
  intro amount hmem
  obtain ⟨credit, hcredit, rfl⟩ := List.mem_map.mp hmem
  rw [if_neg (h credit hcredit)]

theorem credited_eq_sum {credits : List Credit} {bucket : Bucket}
    (h : ∀ credit ∈ credits, credit.bucket = bucket) :
    credited credits bucket = (credits.map (·.amount)).sum := by
  unfold credited
  congr 1
  refine List.map_congr_left ?_
  intro credit hcredit
  rw [if_pos (h credit hcredit)]

/-- On top of nothing, the total of credits in one bucket is their sum. -/
theorem Balanced.total_creditAll {credits : List Credit} {bucket : Bucket} (h : ledger.Balanced)
    (hnone : ledger.nodeTotal bucket = 0) (hbucket : ∀ credit ∈ credits, credit.bucket = bucket) :
    (ledger.creditAll credits).total bucket = (credits.map (·.amount)).sum := by
  rw [(h.creditAll credits).totals, nodeTotal_creditAll, hnone, credited_eq_sum hbucket, zero_add]

end Ledger

/-- A total that is at most `tolerance` below what it should be is accepted. -/
theorem reconcile_of_le {bucket : String} {calculated expected tolerance : Amount}
    (hle : calculated ≤ expected) (hnear : expected.toNat ≤ calculated.toNat + tolerance.toNat) :
    reconcile bucket calculated expected tolerance = .ok (expected - calculated) := by
  have hdistance : Amount.distance calculated expected = expected - calculated := by
    rw [Amount.distance, if_pos hle]
  unfold reconcile
  rw [hdistance, if_pos]
  rw [BitVec.le_def, BitVec.toNat_sub_of_le hle]
  omega

/-- A total is rejected under the name of its bucket. -/
theorem overrun_of_reconcile {bucket : String} {calculated expected tolerance : Amount}
    {error : GenerationError} (h : reconcile bucket calculated expected tolerance = .error error) :
    ∃ delta, error = .overrun bucket calculated expected delta tolerance := by
  unfold reconcile at h
  dsimp only at h
  split at h
  · cases h
  · cases h
    exact ⟨_, rfl⟩

end PoolRewards
