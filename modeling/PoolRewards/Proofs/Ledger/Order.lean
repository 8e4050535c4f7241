/-
The order of credits does not matter.

A node's network is settled by its first credit, so two credits can be swapped only if both
ask for one network wherever they are for one node.  Then they change the ledger in the
same way in either order, and so do any credits.
-/
import Mathlib.Data.List.Perm.Basic
import PoolRewards.Proofs.Ledger.Balance

namespace PoolRewards

open Ledger

variable {ledger : Ledger}

theorem Rewards.ext_get {rewards rewards' : Rewards}
    (h : ∀ bucket, rewards.get bucket = rewards'.get bucket) : rewards = rewards' := by
  obtain ⟨_, _, _⟩ := rewards
  obtain ⟨_, _, _⟩ := rewards'
  have hcollateral := h .collateralRpl
  have horacle := h .oracleDaoRpl
  have heth := h .smoothingPoolEth
  simp only [get] at hcollateral horacle heth
  rw [hcollateral, horacle, heth]

theorem Rewards.add_comm (rewards : Rewards) (amount amount' : Amount) (bucket bucket' : Bucket) :
    (rewards.add amount bucket).add amount' bucket' = (rewards.add amount' bucket').add amount bucket := by
  refine ext_get fun c => ?_
  simp only [get_add]
  split <;> split <;> first | rfl | rw [add_right_comm]

namespace Ledger

/-- Two credits ask for one network if they are for one node. -/
def Credit.Agree (c d : Credit) : Prop := c.node = d.node → c.network = d.network

/-- The ledger after a credit. -/
def book (ledger : Ledger) (c : Credit) : Ledger := ledger.credit c.node c.network c.bucket c.amount

theorem networkFor_book {c d : Credit} (h : c.Agree d) :
    (ledger.book c).networkFor d.node d.network = ledger.networkFor d.node d.network := by
  unfold networkFor book
  rw [getElem?_nodes_credit]
  by_cases hnode : c.node = d.node
  · rw [if_pos hnode]
    dsimp only
    rw [network_accountAfter, networkFor, hnode, h hnode]
  · rw [if_neg hnode]
    rfl

theorem isRemapped_book {c d : Credit} :
    (ledger.book c).isRemapped d.node d.network =
      (decide (c.node ≠ d.node) && ledger.isRemapped d.node d.network) := by
  have hcontains : (ledger.book c).nodes.contains d.node =
      (decide (c.node = d.node) || ledger.nodes.contains d.node) := by
    rw [Std.ExtTreeMap.contains_eq_isSome_getElem?, Std.ExtTreeMap.contains_eq_isSome_getElem?, book,
      getElem?_nodes_credit]
    by_cases hnode : c.node = d.node <;> simp [hnode]
  unfold isRemapped
  rw [hcontains]
  show (!(_ || _) && !ledger.isEnabled d.network) = _
  by_cases hnode : c.node = d.node <;> simp [hnode]

/-- What a node has, nothing if it is not on record. -/
def rewardsOf (ledger : Ledger) (node : Address) : Rewards :=
  (ledger.nodes[node]?.map NodeAccount.rewards).getD Rewards.none

theorem getElem?_nodes_book (c : Credit) (node : Address) :
    (ledger.book c).nodes[node]? =
      if c.node = node then
        some ⟨ledger.networkFor c.node c.network, (ledger.rewardsOf node).add c.amount c.bucket⟩
      else ledger.nodes[node]? := by
  rw [book, getElem?_nodes_credit]
  split
  · next hnode =>
    rw [← hnode]
    unfold accountAfter networkFor rewardsOf
    cases ledger.nodes[c.node]? <;> rfl
  · rfl

theorem rewardsOf_book (c : Credit) (node : Address) :
    (ledger.book c).rewardsOf node =
      if c.node = node then (ledger.rewardsOf node).add c.amount c.bucket else ledger.rewardsOf node := by
  rw [rewardsOf, getElem?_nodes_book]
  split <;> rfl

/-- Of two credits to a node both amounts are added, on the network that both ask for. -/
theorem nodes_book_comm {c d : Credit} (h : c.Agree d) :
    ((ledger.book c).book d).nodes = ((ledger.book d).book c).nodes := by
  have h' : d.Agree c := fun hnode => (h hnode.symm).symm
  apply Std.ExtTreeMap.ext_getElem?
  intro node
  rw [getElem?_nodes_book, getElem?_nodes_book, getElem?_nodes_book, getElem?_nodes_book,
    rewardsOf_book, rewardsOf_book, networkFor_book h, networkFor_book h']
  by_cases hc : c.node = node
  · by_cases hd : d.node = node
    · have hnetwork : d.network = c.network := h' (hd.trans hc.symm)
      simp only [hc, hd, hnetwork, if_true]
      rw [Rewards.add_comm]
    · simp only [hc, hd, if_true, if_false]
  · by_cases hd : d.node = node
    · simp only [hc, hd, if_true, if_false]
    · simp only [hc, hd, if_false]

theorem networks_book_comm {c d : Credit} (h : c.Agree d) :
    ((ledger.book c).book d).networks = ((ledger.book d).book c).networks := by
  have h' : d.Agree c := fun hnode => (h hnode.symm).symm
  have hbook : ∀ (l : Ledger) (e : Credit) (network : UInt64), (l.book e).networks[network]? =
      if l.networkFor e.node e.network = network then
        some ((l.networks[network]?.getD .none).add e.amount e.bucket)
      else l.networks[network]? :=
    fun l e network => getElem?_networks_credit e.bucket network
  apply Std.ExtTreeMap.ext_getElem?
  intro network
  rw [hbook, hbook, hbook, hbook, networkFor_book h, networkFor_book h']
  by_cases hc : ledger.networkFor c.node c.network = network
  · by_cases hd : ledger.networkFor d.node d.network = network
    · simp only [hc, hd, if_true, Option.getD_some]
      rw [Rewards.add_comm]
    · simp only [hc, hd, if_true, if_false]
  · by_cases hd : ledger.networkFor d.node d.network = network
    · simp only [hc, hd, if_true, if_false]
    · simp only [hc, hd, if_false]

theorem invalid_book (c : Credit) :
    (ledger.book c).invalid =
      if ledger.isRemapped c.node c.network then ledger.invalid.insert c.node c.network
      else ledger.invalid := rfl

/-- A node's request is kept once, by the first of its credits. -/
theorem invalid_book_comm {c d : Credit} (h : c.Agree d) :
    ((ledger.book c).book d).invalid = ((ledger.book d).book c).invalid := by
  rw [invalid_book, invalid_book, invalid_book, invalid_book, isRemapped_book, isRemapped_book]
  by_cases hnode : c.node = d.node
  · simp [hnode, h hnode]
  · have hnode' : d.node ≠ c.node := fun hc => hnode hc.symm
    simp only [hnode, hnode', ne_eq, not_false_eq_true, decide_true, Bool.true_and]
    rcases ledger.isRemapped c.node c.network with _ | _ <;>
      rcases ledger.isRemapped d.node d.network with _ | _ <;>
      simp only [Bool.false_eq_true, if_true, if_false]
    apply Std.ExtTreeMap.ext_getElem?
    intro node
    simp only [Std.ExtTreeMap.getElem?_insert, Std.LawfulEqCmp.compare_eq_iff_eq]
    by_cases hc : c.node = node
    · rw [if_neg fun hd => hnode' (hd.trans hc.symm), if_pos hc, if_pos hc]
    · rw [if_neg hc, if_neg hc]

/-- **Two credits that agree can be swapped.** -/
theorem book_comm {c d : Credit} (h : c.Agree d) : (ledger.book c).book d = (ledger.book d).book c := by
  have hmk : ∀ l : Ledger, l = ⟨l.nodes, l.networks, l.invalid, l.enabled⟩ := fun _ => rfl
  rw [hmk ((ledger.book c).book d), hmk ((ledger.book d).book c), nodes_book_comm h, networks_book_comm h,
    invalid_book_comm h]
  rfl

/-- **Credits that agree can be made in any order.** -/
theorem creditAll_perm {credits credits' : List Credit} (h : credits.Perm credits')
    (hagree : ∀ c ∈ credits, ∀ d ∈ credits, c.Agree d) :
    ledger.creditAll credits = ledger.creditAll credits' :=
  h.foldl_eq' (fun c hc d hd _ => book_comm (hagree c hc d hd)) ledger

end Ledger

end PoolRewards
