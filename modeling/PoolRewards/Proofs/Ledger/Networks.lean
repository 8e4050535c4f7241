/-
Which networks are asked about.

Whether rewards may be claimed on a network is asked before any credit is made, and only of
networks that creditable nodes ask for.  What is found is what the client reports of these,
and the default network.
-/
import PoolRewards.Ledger.Networks
import PoolRewards.Proofs.Answers

namespace PoolRewards

open Std (ExtTreeSet)

namespace Snapshot

variable {snapshot : Snapshot}

theorem mem_creditableNetworks {network : UInt64} :
    network ∈ snapshot.creditableNetworks ↔ ∃ node ∈ snapshot.nodes,
      snapshot.isCreditable node = true ∧ node.rewardNetwork ≠ defaultNetwork ∧
        node.rewardNetwork = network := by
  suffices h : ∀ (nodes : List NodeDetails) (found : ExtTreeSet UInt64),
      network ∈ nodes.foldl (fun found node =>
        if snapshot.isCreditable node && node.rewardNetwork != defaultNetwork then
          found.insert node.rewardNetwork
        else found) found ↔
      network ∈ found ∨ ∃ node ∈ nodes, snapshot.isCreditable node = true ∧
        node.rewardNetwork ≠ defaultNetwork ∧ node.rewardNetwork = network by
    refine (h snapshot.nodes ∅).trans ?_
    simp [Std.ExtTreeSet.not_mem_empty]
  intro nodes
  induction nodes with
  | nil => simp
  | cons node rest ih =>
      intro found
      rw [List.foldl_cons, ih]
      simp only [List.mem_cons, exists_eq_or_imp, Bool.and_eq_true, bne_iff_ne]
      by_cases hcounts : snapshot.isCreditable node = true ∧ node.rewardNetwork ≠ defaultNetwork
      · rw [if_pos hcounts, Std.ExtTreeSet.mem_insert, Std.LawfulEqCmp.compare_eq_iff_eq]
        simp only [hcounts, ne_eq, not_false_eq_true, true_and]
        rw [or_comm (a := node.rewardNetwork = network), or_assoc]
      · have hother : ¬ (snapshot.isCreditable node = true ∧ node.rewardNetwork ≠ defaultNetwork ∧
            node.rewardNetwork = network) := fun h => hcounts ⟨h.1, h.2.1⟩
        rw [if_neg hcounts]
        simp only [hother, false_or]

end Snapshot

variable {m : Type → Type} [Monad m] {client : ExecutionClient m} {block : UInt64} {enabled : UInt64 → Bool}

/-- The client reports, whenever it is asked, which networks are enabled as of a block. -/
def ExecutionClient.Reports (client : ExecutionClient m) (block : UInt64) (enabled : UInt64 → Bool) : Prop :=
  ∀ network, Always (fun answer => ∀ found, answer = .ok found → found = enabled network)
    (client.isEnabled network block)

/-- What a client without side effects answers of a network as of a block, no where the lookup fails. -/
def ExecutionClient.opens (client : ExecutionClient Id) (block network : UInt64) : Bool :=
  match Id.run (client.isEnabled network block) with
  | .ok found => found
  | .error _ => false

/-- A client without side effects reports what it answers. -/
theorem ExecutionClient.reports_opens (client : ExecutionClient Id) (block : UInt64) :
    client.Reports block (client.opens block) := by
  intro network
  rw [always_id]
  intro found hfound
  rw [opens, hfound]

variable [LawfulMonad m]

theorem mem_of_askNetworks (h : client.Reports block enabled) (networks : List UInt64) :
    Answers (fun found => ∀ network, network ∈ found ↔ network ∈ networks ∧ enabled network = true)
      (askNetworks client block networks) := by
  induction networks with
  | nil => exact answers_pure fun network => by simp [Std.ExtTreeSet.not_mem_empty]
  | cons asked rest ih =>
      unfold askNetworks
      refine Answers.bind (answers_lookup (h asked)) ?_
      intro found hfound
      refine Answers.bind ih ?_
      intro others hothers
      refine answers_pure ?_
      intro network
      rw [List.mem_cons]
      by_cases hasked : asked = network
      · subst hasked
        rw [hfound]
        rcases henabled : enabled asked with _ | _
        · simp [hothers, henabled]
        · simp
      · have hother : network ≠ asked := fun heq => hasked heq.symm
        rcases found with _ | _ <;> simp [hothers, hasked, hother]

/-- **What is found are the networks asked about that are enabled**, and the default one. -/
theorem mem_of_enabledNetworks (h : client.Reports block enabled) (snapshot : Snapshot) :
    Answers (fun found => ∀ network, network ∈ found ↔ network = defaultNetwork ∨
        network ∈ snapshot.creditableNetworks ∧ enabled network = true)
      (enabledNetworks client snapshot block) := by
  unfold enabledNetworks
  refine Answers.bind (mem_of_askNetworks h _) ?_
  intro found hfound
  refine answers_pure ?_
  intro network
  rw [Std.ExtTreeSet.mem_insert, Std.LawfulEqCmp.compare_eq_iff_eq, hfound, Std.ExtTreeSet.mem_toList,
    eq_comm (a := defaultNetwork)]

end PoolRewards
