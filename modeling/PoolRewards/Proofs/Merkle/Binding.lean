/-
The root stands for what can be claimed, and for nothing else.

Records that let their nodes claim the same have the same sorted leaves, whatever their order
and however their RPL is divided, and so the same tree.  Conversely every leaf of a tree
climbs to its root through texts that were hashed when the tree was built.  If another tree
has that root, the climb ends at a node of the other tree, and so it started at one: at the
leaf of a record that lets its node claim the same.  The two trees need not have the same
shape or the same number of leaves.
-/
import PoolRewards.Proofs.Merkle.Climbing
import PoolRewards.Proofs.Merkle.Soundness
import Mathlib.Data.List.Perm.Basic
import Mathlib.Data.List.Nodup

namespace PoolRewards

variable {hash : List UInt8 → Digest} {rewards others : List NodeReward} {record other : NodeReward}
  {texts : List (List UInt8)} {layer : List Digest} {node : Digest} {position : Nat}
  {tree tree' : MerkleTree}

/-- What a record lets its node claim: on which network, how much RPL and how much ether. -/
abbrev Claim := Address × UInt64 × Amount × Amount

/-- The claim of a record. -/
def NodeReward.claim (record : NodeReward) : Claim :=
  (record.address, record.network, record.rewards.collateralRpl + record.rewards.oracleDaoRpl,
    record.rewards.smoothingPoolEth)

theorem NodeReward.claim_eq_iff : record.claim = other.claim ↔ record.SameClaim other := by
  simp only [claim, Prod.mk.injEq]
  exact ⟨fun h => ⟨h.1, h.2.1, h.2.2.1, h.2.2.2⟩, fun h => ⟨h.1, h.2, h.3, h.4⟩⟩

theorem NodeReward.nodup_claims (h : (rewards.map (·.address)).Nodup) : (rewards.map claim).Nodup := by
  refine List.Nodup.of_map Prod.fst ?_
  rw [List.map_map]
  exact h

namespace Merkle

/-! ### The same claims have the same root

A leaf is the hash of the claim and of nothing else, and the leaves are sorted before the
tree is built.  So neither the order of the records nor the way in which their RPL is
divided is left in the tree.
-/

/-- The leaf of a claim. -/
def claimLeaf (hash : List UInt8 → Digest) (claim : Claim) : Digest :=
  NodeReward.leaf hash ⟨claim.1, claim.2.1, ⟨claim.2.2.1, 0, claim.2.2.2⟩, []⟩

theorem claimLeaf_claim (record : NodeReward) : claimLeaf hash record.claim = record.leaf hash := by
  have htotal : Rewards.totalRpl ⟨record.rewards.collateralRpl + record.rewards.oracleDaoRpl, 0,
      record.rewards.smoothingPoolEth⟩ = record.rewards.totalRpl := BitVec.add_zero _
  rw [claimLeaf, NodeReward.leaf, NodeReward.leaf, NodeReward.leafBytes, NodeReward.leafBytes]
  dsimp only [NodeReward.claim]
  rw [htotal]

theorem perm_leaves (hrewards : (rewards.map (·.address)).Nodup) (hothers : (others.map (·.address)).Nodup)
    (h : ∀ claim, claim ∈ rewards.map NodeReward.claim ↔ claim ∈ others.map NodeReward.claim) :
    (rewards.map (·.leaf hash)).Perm (others.map (·.leaf hash)) := by
  have hclaims : (rewards.map NodeReward.claim).Perm (others.map NodeReward.claim) :=
    (List.perm_ext_iff_of_nodup (NodeReward.nodup_claims hrewards) (NodeReward.nodup_claims hothers)).mpr h
  have hleaves : ∀ records : List NodeReward,
      (records.map NodeReward.claim).map (claimLeaf hash) = records.map (·.leaf hash) := by
    intro records
    rw [List.map_map]
    exact List.map_congr_left fun record _ => claimLeaf_claim record
  rw [← hleaves, ← hleaves]
  exact hclaims.map _

theorem sortedLeaves_eq (h : (rewards.map (·.leaf hash)).Perm (others.map (·.leaf hash))) :
    ((rewards.map (·.leaf hash)).mergeSort fun a b => a ≤ b) =
      (others.map (·.leaf hash)).mergeSort fun a b => a ≤ b :=
  List.Perm.eq_of_pairwise (fun _ _ _ _ => BitVec.le_antisymm) (pairwise_sortedLeaves rewards)
    (pairwise_sortedLeaves others)
    ((List.mergeSort_perm _ _).trans (h.trans (List.mergeSort_perm _ _).symm))

/-! ### A root has the claims of one list of records only

Each leaf is followed up its own tree.  All texts that are hashed on the way were hashed
when that tree was built, so `Built.of_climb` of the other tree applies to them if both
trees have one root, and the leaf is found to be a node of the other tree as well.
-/

theorem climbed_append (proof proof' : List Digest) :
    ∀ start : Digest, climbed hash start (proof ++ proof') =
      climbed hash start proof ++ climbed hash (proof.foldl (parent hash) start) proof' := by
  induction proof with
  | nil => exact fun _ => rfl
  | cons sibling rest ih =>
      intro start
      rw [List.cons_append, climbed, climbed, ih, List.foldl_cons, List.cons_append]

theorem climbed_subset_pairsOf (h : layer[position]? = some node) :
    climbed hash node layer[position ^^^ 1]?.toList ⊆ pairsOf layer := by
  fun_induction pairsOf layer generalizing position with
  | case1 a b rest ih =>
      match position with
      | 0 =>
          cases h
          exact List.cons_subset_cons _ (List.nil_subset _)
      | 1 =>
          cases h
          rw [pairBytes_comm a]
          exact List.cons_subset_cons _ (List.nil_subset _)
      | position + 2 =>
          rw [add_two_xor_one]
          exact List.subset_cons_of_subset _ (ih h)
  | case2 layer hsingle =>
      match layer, position with
      | [], _ => cases h
      | [a], 0 => exact List.nil_subset _
      | a :: b :: rest, _ => exact absurd rfl (hsingle a b rest)

/-- What is hashed to climb from a leaf to the root was hashed for the tree. -/
theorem climbed_siblings_subset (h : layer[position]? = some node) :
    climbed hash node (siblings position (layersFrom hash layer)) ⊆
      (layersFrom hash layer).flatMap pairsOf := by
  fun_induction layersFrom hash layer generalizing position node with
  | case1 layer hshort => exact List.nil_subset _
  | case2 layer hlong ih =>
      obtain ⟨rest, hrest⟩ := exists_layersFrom hash (parents hash layer)
      have habove := ih (getElem?_parents h)
      rw [hrest] at habove ⊢
      rw [siblings, climbed_append, List.flatMap_cons]
      exact List.append_subset.mpr ⟨List.subset_append_of_subset_left _ (climbed_subset_pairsOf h),
        List.subset_append_of_subset_right _ habove⟩

end Merkle

open Merkle

theorem MerkleTree.built_root (hbuild : MerkleTree.build hash rewards = .ok tree)
    (htexts : tree.hashed rewards ⊆ texts) : Built hash rewards texts tree.root := by
  obtain ⟨hsome, rfl⟩ := eq_of_build hbuild
  refine built_top ?_ ?_ (List.append_subset.mp htexts).2
  · intro hnil
    have hlength := congrArg List.length hnil
    simp [hsome] at hlength
  · intro node hmem
    rw [List.mem_mergeSort] at hmem
    obtain ⟨record, hrecord, rfl⟩ := List.mem_map.mp hmem
    exact .bottom hrecord

theorem MerkleTree.exists_climb (hbuild : MerkleTree.build hash rewards = .ok tree) (hmem : record ∈ rewards) :
    ∃ proof : List Digest, proof.foldl (parent hash) (record.leaf hash) = tree.root ∧
      climbed hash (record.leaf hash) proof ⊆ tree.hashed rewards := by
  obtain ⟨position, hposition, -⟩ := exists_proof_of_build hbuild hmem
  obtain ⟨-, rfl⟩ := eq_of_build hbuild
  exact ⟨_, foldl_siblings hposition,
    List.subset_append_of_subset_right _ (climbed_siblings_subset hposition)⟩

/-- **A tree with the root of another one has no claims that the other has not.** -/
theorem MerkleTree.exists_sameClaim_of_root (hbuild : MerkleTree.build hash rewards = .ok tree)
    (hbuild' : MerkleTree.build hash others = .ok tree') (hroot : tree.root = tree'.root)
    (hfree : CollisionFree hash texts) (htexts : tree.hashed rewards ⊆ texts)
    (htexts' : tree'.hashed others ⊆ texts) (hmem : record ∈ rewards) :
    ∃ other ∈ others, record.SameClaim other := by
  obtain ⟨proof, hclimb, hclimbed⟩ := exists_climb hbuild hmem
  have htop : Built hash others texts (proof.foldl (parent hash) (record.leaf hash)) := by
    rw [hclimb, hroot]
    exact built_root hbuild' htexts'
  have hleaves : others.map (·.leafBytes) ⊆ texts := (List.append_subset.mp htexts').1
  have hrecord : record.leafBytes ∈ texts :=
    htexts (List.mem_append_left _ (List.mem_map.mpr ⟨record, hmem, rfl⟩))
  exact (Built.of_climb hfree hleaves proof (fun _ h => htexts (hclimbed h)) htop).exists_sameClaim
    hfree hleaves hrecord

/-- **Two trees have one root exactly if their records claim the same**, unless two texts that were
hashed for them have one hash. -/
theorem MerkleTree.root_eq_iff (hbuild : MerkleTree.build hash rewards = .ok tree)
    (hbuild' : MerkleTree.build hash others = .ok tree')
    (hfree : CollisionFree hash (tree.hashed rewards ++ tree'.hashed others)) :
    tree.root = tree'.root ↔
      ∀ claim, claim ∈ rewards.map NodeReward.claim ↔ claim ∈ others.map NodeReward.claim := by
  refine ⟨fun hroot claim => ⟨fun hmem => ?_, fun hmem => ?_⟩, fun h => ?_⟩
  · obtain ⟨record, hrecord, rfl⟩ := List.mem_map.mp hmem
    obtain ⟨other, hother, hsame⟩ := exists_sameClaim_of_root hbuild hbuild' hroot hfree
      (List.subset_append_left _ _) (List.subset_append_right _ _) hrecord
    exact List.mem_map.mpr ⟨other, hother, (NodeReward.claim_eq_iff.mpr hsame).symm⟩
  · obtain ⟨other, hother, rfl⟩ := List.mem_map.mp hmem
    obtain ⟨record, hrecord, hsame⟩ := exists_sameClaim_of_root hbuild' hbuild hroot.symm hfree
      (List.subset_append_right _ _) (List.subset_append_left _ _) hother
    exact List.mem_map.mpr ⟨record, hrecord, (NodeReward.claim_eq_iff.mpr hsame).symm⟩
  · obtain ⟨-, hrewards, rfl⟩ := build_eq_ok_iff.mp hbuild
    obtain ⟨-, hothers, rfl⟩ := build_eq_ok_iff.mp hbuild'
    rw [sortedLeaves_eq (perm_leaves hrewards hothers h)]

/-! ### Two of three records

The root of the smaller tree is a node of the larger one, so the two trees share hashes but
no root.
-/

/-- The tree of the first two of the three records.  Its root is an inner node of theirs. -/
def twoTree : MerkleTree := ⟨[threeLeaves.take 2, [threeInner]]⟩

theorem build_twoRecords : MerkleTree.build threeDigests (threeRecords.take 2) = .ok twoTree := by
  have hleaves : (threeRecords.take 2).map (·.leaf threeDigests) = threeLeaves.take 2 := by decide +kernel
  have hsorted : (threeLeaves.take 2).Pairwise fun a b => decide (a ≤ b) = true := by decide
  have hinner : parents threeDigests (threeLeaves.take 2) = [threeInner] := by decide +kernel
  rw [MerkleTree.build_eq_ok (by decide) (by decide), hleaves, List.mergeSort_of_pairwise hsorted,
    layersFrom_of_lt (by decide), hinner, layersFrom_of_le (by decide)]
  rfl

theorem MerkleTree.root_eq_iff_twoOfThree :
    MerkleTree.build threeDigests threeRecords = .ok threeTree ∧
      MerkleTree.build threeDigests (threeRecords.take 2) = .ok twoTree ∧
      CollisionFree threeDigests (threeTree.hashed threeRecords ++ twoTree.hashed (threeRecords.take 2)) ∧
      (threeTree.root = twoTree.root ↔ ∀ claim, claim ∈ threeRecords.map NodeReward.claim ↔
        claim ∈ (threeRecords.take 2).map NodeReward.claim) := by
  have hfree : CollisionFree threeDigests
      (threeTree.hashed threeRecords ++ twoTree.hashed (threeRecords.take 2)) := by decide +kernel
  exact ⟨build_threeRecords, build_twoRecords, hfree,
    root_eq_iff build_threeRecords build_twoRecords hfree⟩

end PoolRewards
