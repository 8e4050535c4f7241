/-
What a ledger says of the credits that made it.

A new ledger is built up credit by credit.  Where a node stands, and whether its request is on
record, is settled by the first credit to it: that is the invariant of one more credit at the
end, since a further credit to a node finds it on record and changes neither.  What a node has
and what a network has do not depend on the order at all.
-/
import PoolRewards.Proofs.Ledger.Accounts

namespace PoolRewards.Ledger

open Std (ExtTreeSet)

variable {ledger : Ledger} {enabled : ExtTreeSet UInt64} {credits : List Credit} {node : Address}

/-- The first credit to a node. -/
def firstTo (credits : List Credit) (node : Address) : Option Credit := credits.find? (·.node = node)

/-- The network that a node is put on if it asks for one. -/
def grant (ledger : Ledger) (requested : UInt64) : UInt64 :=
  if ledger.isEnabled requested then requested else defaultNetwork

/-- A ledger says what was credited to whom, where rewards may be claimed on some networks: besides
the books being balanced, each node has its credits and stands where the first of them put it. -/
structure Reflects (ledger : Ledger) (enabled : ExtTreeSet UInt64) (credits : List Credit) : Prop
    extends ledger.Balanced where
  nodes : ∀ node, node ∈ ledger.nodes ↔ ∃ credit ∈ credits, credit.node = node
  network : ∀ (node : Address) (account : NodeAccount), ledger.nodes[node]? = some account →
    ∃ first, firstTo credits node = some first ∧
      account.network = if first.network = defaultNetwork ∨ first.network ∈ enabled then first.network
        else defaultNetwork
  /-- A node's request is on record if it asked for a network that is not enabled at first. -/
  invalid : ∀ (node : Address) (network : UInt64), ledger.invalid[node]? = some network ↔
    ∃ first, firstTo credits node = some first ∧ first.network = network ∧
      network ≠ defaultNetwork ∧ network ∉ enabled
  rewards : ∀ (node : Address) (account : NodeAccount), ledger.nodes[node]? = some account →
    ∀ bucket, account.rewards.get bucket = credited (credits.filter (·.node = node)) bucket
  total : ∀ bucket, ledger.total bucket = credited credits bucket

/-! ### Where the first credit puts a node

The induction goes from the front, so a credit is added behind those that have been made.
Whether it is the first one to its node is the whole question: if it is, it places the node,
and if it is not, it changes no place.
-/

/-- Every node stands where the first of some credits to it put it. -/
structure Placed (credits : List Credit) (ledger : Ledger) : Prop where
  network : ∀ node : Address, ledger.nodes[node]?.map (·.network) =
    (firstTo credits node).map fun first => ledger.grant first.network
  invalid : ∀ node : Address, ledger.invalid[node]? =
    (firstTo credits node).bind fun first =>
      if ledger.isEnabled first.network then none else some first.network

theorem placed_new (enabled : ExtTreeSet UInt64) : (new enabled).Placed [] where
  network node := by
    have hempty : (new enabled).nodes[node]? = none := Std.ExtTreeMap.getElem?_empty
    rw [hempty]
    rfl
  invalid node := Std.ExtTreeMap.getElem?_empty

theorem firstTo_append (credits : List Credit) (c : Credit) (node : Address) :
    firstTo (credits ++ [c]) node =
      (firstTo credits node).or (if c.node = node then some c else none) := by
  unfold firstTo
  rw [List.find?_append, List.find?_singleton]
  simp only [decide_eq_true_eq]

theorem Placed.contains_eq (h : ledger.Placed credits) (node : Address) :
    ledger.nodes.contains node = (firstTo credits node).isSome := by
  have hnetwork := congrArg Option.isSome (h.network node)
  rw [Option.isSome_map, Option.isSome_map] at hnetwork
  rw [Std.ExtTreeMap.contains_eq_isSome_getElem?, hnetwork]

/-- A credit goes where the first one to its node went, and is the first one itself if there was none. -/
theorem Placed.networkFor_eq (h : ledger.Placed credits) (c : Credit) :
    ledger.networkFor c.node c.network =
      ((firstTo credits c.node).map fun first => ledger.grant first.network).getD
        (ledger.grant c.network) := by
  rw [← h.network, networkFor]
  rcases ledger.nodes[c.node]? with _ | account <;> rfl

/-- **One more credit leaves every node where it stands**, and puts a new one where it asks to be. -/
theorem Placed.book (h : ledger.Placed credits) (c : Credit) :
    (ledger.book c).Placed (credits ++ [c]) where
  network node := by
    have hgrant : (ledger.book c).grant = ledger.grant := rfl
    rw [firstTo_append, getElem?_nodes_book, hgrant]
    by_cases hnode : c.node = node
    · subst hnode
      rw [if_pos rfl, if_pos rfl, Option.map_some, h.networkFor_eq]
      cases firstTo credits c.node <;> rfl
    · rw [if_neg hnode, if_neg hnode, Option.or_none]
      exact h.network node
  invalid node := by
    have henabled : (ledger.book c).isEnabled = ledger.isEnabled := rfl
    rw [firstTo_append, getElem?_invalid_book, henabled]
    by_cases hnode : c.node = node
    · subst hnode
      rw [isRemapped, h.contains_eq, h.invalid, if_pos rfl]
      -- A request is kept if it is the first one and cannot be granted.
      rcases firstTo credits c.node with _ | first
      · by_cases hgranted : ledger.isEnabled c.network <;> simp [hgranted]
      · simp
    · rw [if_neg fun hc => hnode hc.1, if_neg hnode, Option.or_none]
      exact h.invalid node

/-- **So do any credits to a new ledger.** -/
theorem placed_creditAll (enabled : ExtTreeSet UInt64) (credits : List Credit) :
    ((new enabled).creditAll credits).Placed credits := by
  induction credits using List.reverseRecOn with
  | nil => exact placed_new enabled
  | append_singleton credits c ih =>
      rw [creditAll_append]
      exact ih.book c

/-! ### All that a ledger says

Places come from the first credits and amounts from all of them.  Only the places could
depend on the order, and they do not if every node asks for one network throughout.
-/

theorem isEnabled_new (network : UInt64) :
    (new enabled).isEnabled network = true ↔ network = defaultNetwork ∨ network ∈ enabled := by
  show (enabled.insert defaultNetwork).contains network = true ↔ _
  rw [Std.ExtTreeSet.contains_iff_mem, Std.ExtTreeSet.mem_insert, Std.LawfulEqCmp.compare_eq_iff_eq,
    eq_comm]

theorem rewardsOf_new (node : Address) : (new enabled).rewardsOf node = .none := by
  have hempty : (new enabled).nodes[node]? = none := Std.ExtTreeMap.getElem?_empty
  rw [rewardsOf, hempty]
  rfl

theorem reflects_creditAll (enabled : ExtTreeSet UInt64) (credits : List Credit) :
    ((new enabled).creditAll credits).Reflects enabled credits where
  toBalanced := (balanced_new enabled).creditAll credits
  nodes node := by
    rw [mem_nodes_creditAll_iff]
    exact or_iff_right Std.ExtTreeMap.not_mem_empty
  network node account hnode := by
    have hplaced := (placed_creditAll enabled credits).network node
    rw [hnode, Option.map_some] at hplaced
    obtain ⟨first, hfirst, hgrant⟩ := Option.map_eq_some_iff.mp hplaced.symm
    refine ⟨first, hfirst, ?_⟩
    rw [← hgrant, grant, isEnabled_creditAll]
    exact if_congr (isEnabled_new first.network) rfl rfl
  invalid node network := by
    rw [(placed_creditAll enabled credits).invalid, isEnabled_creditAll, Option.bind_eq_some_iff]
    refine exists_congr fun first => and_congr_right fun _ => ?_
    rw [← not_or, ← isEnabled_new]
    split
    · next henabled =>
      constructor
      · intro h
        cases h
      · intro h
        obtain ⟨rfl, hdisabled⟩ := h
        exact absurd henabled hdisabled
    · next hdisabled =>
      rw [Option.some.injEq, iff_self_and]
      intro heq
      rw [← heq]
      exact hdisabled
  rewards node account hnode bucket := by
    have hrewards : (((new enabled).creditAll credits).rewardsOf node).get bucket =
        credited (credits.filter (·.node = node)) bucket := by
      rw [rewardsOf_creditAll, rewardsOf_new, Rewards.get_none, zero_add]
    rw [rewardsOf, hnode] at hrewards
    exact hrewards
  total bucket := by
    rw [((balanced_new enabled).creditAll credits).totals, nodeTotal_creditAll, nodeTotal_new, zero_add]

/-- **A ledger means what was credited.**  It says of every node, every network and every bucket what
the credits come to, and which of several orders they came in does not show, as long as each node
always asks for one network. -/
theorem creditAll_reflects (enabled : ExtTreeSet UInt64) (credits : List Credit) :
    ((new enabled).creditAll credits).Reflects enabled credits ∧
      ∀ credits', credits.Perm credits' → (∀ c ∈ credits, ∀ d ∈ credits, c.Agree d) →
        (new enabled).creditAll credits' = (new enabled).creditAll credits := by
  refine ⟨reflects_creditAll enabled credits, ?_⟩
  intro credits' hperm hagree
  exact (creditAll_perm hperm hagree).symm

/-- Node 1 asks for network 5, node 2 for network 1, and node 1 asks again. -/
def threeCredits : List Credit := [
  ⟨1, 5, .collateralRpl, 3⟩,
  ⟨2, 1, .oracleDaoRpl, 4⟩,
  ⟨1, 5, .smoothingPoolEth, 2⟩]

/-- Of the networks 1 and 5 the first one alone is enabled. -/
theorem creditAll_reflects_threeCredits :
    ((new {1}).creditAll threeCredits).Reflects {1} threeCredits ∧
      ((new {1}).creditAll threeCredits).invalid[(1 : Address)]? = some 5 ∧
      threeCredits.Perm threeCredits.reverse ∧
      (new {1}).creditAll threeCredits.reverse = (new {1}).creditAll threeCredits := by
  obtain ⟨hreflects, horder⟩ := creditAll_reflects {1} threeCredits
  have hperm : threeCredits.Perm threeCredits.reverse := threeCredits.reverse_perm.symm
  have hagree : ∀ c ∈ threeCredits, ∀ d ∈ threeCredits, c.node = d.node → c.network = d.network := by
    decide
  refine ⟨hreflects, ?_, hperm, horder _ hperm hagree⟩
  exact (hreflects.invalid 1 5).mpr ⟨_, rfl, rfl, by decide, by decide⟩

end PoolRewards.Ledger
