/-
When a file gets its tree.

A tree is refused only where there is nothing to put into it or an address comes twice.
Otherwise every record has its leaf among the sorted leaves, where halving finds it, and so
a proof.  So the file is either left as it is or gets its root and all proofs.
-/
import PoolRewards.Merkle

namespace PoolRewards

variable {hash : List UInt8 → Digest} {file file' : RewardsFile} {records : List NodeReward}
  {leaves : List Digest} {leaf : Digest} {tree : MerkleTree} {error : GenerationError}

namespace Merkle

/-! ### Repeated addresses

The search for an address that comes twice carries the addresses it has seen.  It finds none
exactly where the addresses are distinct and none of them was seen before it began.
-/

theorem firstRepeated_eq_none {addresses : List Address} :
    ∀ {seen : Std.ExtTreeSet Address}, addresses.Nodup → (∀ address ∈ addresses, address ∉ seen) →
      firstRepeated seen addresses = none := by
  induction addresses with
  | nil => exact fun _ _ => rfl
  | cons address rest ih =>
      intro seen hnodup hnew
      obtain ⟨hfresh, hnodup⟩ := List.nodup_cons.mp hnodup
      rw [firstRepeated, if_neg fun hc =>
        hnew address List.mem_cons_self (Std.ExtTreeSet.contains_iff_mem.mp hc)]
      refine ih hnodup fun other hmem hseen => ?_
      rw [Std.ExtTreeSet.mem_insert, Std.LawfulEqCmp.compare_eq_iff_eq] at hseen
      rcases hseen with rfl | hseen
      · exact hfresh hmem
      · exact hnew other (List.mem_cons_of_mem _ hmem) hseen

theorem nodup_of_firstRepeated {addresses : List Address} :
    ∀ {seen : Std.ExtTreeSet Address}, firstRepeated seen addresses = none →
      addresses.Nodup ∧ ∀ address ∈ addresses, address ∉ seen := by
  induction addresses with
  | nil => exact fun _ => ⟨List.nodup_nil, by simp⟩
  | cons address rest ih =>
      intro seen h
      by_cases hseen : seen.contains address = true
      · rw [firstRepeated, if_pos hseen] at h
        cases h
      · rw [firstRepeated, if_neg hseen] at h
        obtain ⟨hnodup, hnew⟩ := ih h
        refine ⟨List.nodup_cons.mpr ⟨fun hmem => ?_, hnodup⟩, fun other hmem => ?_⟩
        · exact hnew address hmem Std.ExtTreeSet.mem_insert_self
        · rcases List.mem_cons.mp hmem with rfl | hmem
          · exact fun hc => hseen (Std.ExtTreeSet.contains_iff_mem.mpr hc)
          · exact fun hc => hnew other hmem (Std.ExtTreeSet.mem_insert.mpr (Or.inr hc))

/-! ### Layers

A layer of two or more hashes has one above it, and the layers end with one that has a
single hash or none.  The leaves are the first layer, whatever is above them.
-/

theorem layersFrom_of_le {layer : List Digest} (h : layer.length ≤ 1) : layersFrom hash layer = [layer] := by
  rw [layersFrom, if_pos h]

theorem layersFrom_of_lt {layer : List Digest} (h : 1 < layer.length) :
    layersFrom hash layer = layer :: layersFrom hash (parents hash layer) := by
  rw [layersFrom, if_neg (Nat.not_le_of_lt h)]

theorem head?_layersFrom (layer : List Digest) : (layersFrom hash layer).head? = some layer := by
  rw [layersFrom]
  split <;> rfl

/-! ### Finding a leaf

The search halves a range until one place is left and looks at that place alone.  What it
finds is therefore right in any case; that it finds anything needs the leaves to be sorted,
so that the half which is given up does not hold every place of the hash.  Equal hashes do
no harm: it is enough that one of their places stays in the range.
-/

theorem getElem?_of_search {base size position : Nat} (h : search leaves leaf base size = some position) :
    leaves[position]? = some leaf := by
  fun_induction search leaves leaf base size with
  | case1 base size hsmall hfound =>
      cases h
      exact hfound
  | case2 base size hsmall hother => cases h
  | case3 base size hlarge habove ih => exact ih h
  | case4 base size hlarge hbelow ih => exact ih h

/-- **Halving finds a hash that is among sorted ones**: some position of it stays within the range. -/
theorem exists_search (hsorted : leaves.Pairwise (· ≤ ·)) {base size i : Nat}
    (hrange : base + size ≤ leaves.length) (hbase : base ≤ i) (hsize : i < base + size)
    (hi : leaves[i]? = some leaf) : ∃ position, search leaves leaf base size = some position := by
  have hordered : ∀ {j k : Nat} {low high : Digest}, leaves[j]? = some low → leaves[k]? = some high →
      j < k → low ≤ high := by
    intro j k low high hlow hhigh hjk
    obtain ⟨hj, rfl⟩ := List.getElem?_eq_some_iff.mp hlow
    obtain ⟨hk, rfl⟩ := List.getElem?_eq_some_iff.mp hhigh
    exact List.pairwise_iff_getElem.mp hsorted j k hj hk hjk
  fun_induction search leaves leaf base size generalizing i with
  | case1 base size hsmall hfound => exact ⟨base, rfl⟩
  | case2 base size hsmall hother =>
      obtain rfl : i = base := by omega
      exact absurd hi hother
  | case3 base size hlarge habove ih =>
      -- The middle is above the hash, and so is everything behind it.
      obtain ⟨node, hnode, hlt⟩ := (Option.any_eq_true _ _).mp habove
      have hlt : leaf < node := by simpa using hlt
      have hfront : i < base + size / 2 := by
        rcases Nat.lt_trichotomy i (base + size / 2) with h | h | h
        · exact h
        · rw [← h, hi] at hnode
          cases hnode
          exact absurd hlt (BitVec.lt_irrefl _)
        · exact absurd (hordered hnode hi h) (BitVec.not_le.mpr hlt)
      exact ih (by omega) hbase (by omega) hi
  | case4 base size hlarge hbelow ih =>
      by_cases hbehind : base + size / 2 ≤ i
      · exact ih (by omega) hbehind (by omega) hi
      · -- The hash stands in front of the middle, which is not above it and so the same.
        obtain ⟨node, hnode⟩ : ∃ node, leaves[base + size / 2]? = some node :=
          ⟨_, List.getElem?_eq_getElem (by omega)⟩
        have hle : node ≤ leaf := by simpa [hnode, BitVec.not_lt] using hbelow
        have hsame : node = leaf := BitVec.le_antisymm hle (hordered hi hnode (by omega))
        exact ih (by omega) (Nat.le_refl _) (by omega) (hsame ▸ hnode)

end Merkle

open Merkle

/-! ### Trees

Two records of different addresses may still have one leaf, as nothing is assumed of the
hash.  So a tree has a proof for every record, but two records can have the same one.
-/

theorem MerkleTree.build_eq_ok_iff : MerkleTree.build hash records = .ok tree ↔
    records ≠ [] ∧ (records.map (·.address)).Nodup ∧
      tree = ⟨layersFrom hash ((records.map (·.leaf hash)).mergeSort fun a b => a ≤ b)⟩ := by
  rw [MerkleTree.build]
  by_cases hempty : records.isEmpty = true
  · rw [if_pos hempty]
    refine ⟨fun h => ?_, fun h => absurd (List.isEmpty_iff.mp hempty) h.1⟩
    cases h
  · have hsome : records ≠ [] := by simpa using hempty
    rw [if_neg hempty]
    rcases hrepeated : firstRepeated ∅ (records.map (·.address)) with _ | address
    · refine ⟨fun h => ⟨hsome, (nodup_of_firstRepeated hrepeated).1, ?_⟩, fun h => ?_⟩
      · rw [hrepeated] at h
        cases h
        rfl
      · rw [hrepeated, h.2.2]
    · refine ⟨fun h => ?_, fun h => ?_⟩
      · rw [hrepeated] at h
        cases h
      · rw [firstRepeated_eq_none h.2.1 fun _ _ => Std.ExtTreeSet.not_mem_empty] at hrepeated
        cases hrepeated

theorem MerkleTree.build_eq_ok (hsome : records ≠ []) (hdistinct : (records.map (·.address)).Nodup) :
    MerkleTree.build hash records =
      .ok ⟨layersFrom hash ((records.map (·.leaf hash)).mergeSort fun a b => a ≤ b)⟩ :=
  build_eq_ok_iff.mpr ⟨hsome, hdistinct, rfl⟩

/-- A tree over sorted leaves has a proof for each of them. -/
theorem MerkleTree.exists_proof (hsorted : leaves.Pairwise (· ≤ ·)) (hmem : leaf ∈ leaves) :
    ∃ position, leaves[position]? = some leaf ∧
      (MerkleTree.mk (layersFrom hash leaves)).proof? leaf =
        some (siblings position (layersFrom hash leaves)) := by
  obtain ⟨i, hlength, hi⟩ := List.mem_iff_getElem.mp hmem
  obtain ⟨position, hposition⟩ := exists_search hsorted (Nat.le_of_eq (Nat.zero_add leaves.length))
    (Nat.zero_le i) (by omega) (List.getElem?_eq_some_iff.mpr ⟨hlength, hi⟩)
  refine ⟨position, getElem?_of_search hposition, ?_⟩
  unfold MerkleTree.proof?
  dsimp only
  rw [head?_layersFrom, Option.bind_eq_bind, Option.bind_some, hposition]
  rfl

theorem pairwise_sortedLeaves (records : List NodeReward) :
    ((records.map (·.leaf hash)).mergeSort fun a b => a ≤ b).Pairwise (· ≤ ·) := by
  refine (List.pairwise_mergeSort ?_ ?_ _).imp (by simp)
  · simpa using fun a b c => BitVec.le_trans
  · simpa using fun a b => BitVec.le_total a b

theorem MerkleTree.exists_proof_of_build (hbuild : MerkleTree.build hash records = .ok tree)
    {record : NodeReward} (hmem : record ∈ records) :
    ∃ position, ((records.map (·.leaf hash)).mergeSort fun a b => a ≤ b)[position]? = some (record.leaf hash) ∧
      tree.proof? (record.leaf hash) = some (siblings position tree.layers) := by
  obtain ⟨-, -, rfl⟩ := build_eq_ok_iff.mp hbuild
  exact exists_proof (pairwise_sortedLeaves records)
    (List.mem_mergeSort.mpr (List.mem_map.mpr ⟨record, hmem, rfl⟩))

/-! ### Files

Entering the proofs can only fail for a record without a leaf in the tree, and the tree is
built over these very records.  So there is no failure halfway: a file has all its proofs or
is left alone.
-/

/-- A record with the proof that a tree has for it. -/
def NodeReward.proved (hash : List UInt8 → Digest) (tree : MerkleTree) (record : NodeReward) : NodeReward :=
  { record with proof := (tree.proof? (record.leaf hash)).getD [] }

theorem NodeReward.enterProofs_eq
    (h : ∀ record ∈ records, ∃ proof, tree.proof? (record.leaf hash) = some proof) :
    NodeReward.enterProofs hash tree records = (.ok (), records.map (·.proved hash tree)) := by
  induction records with
  | nil => rfl
  | cons record rest ih =>
      obtain ⟨proof, hproof⟩ := h record List.mem_cons_self
      have hrecord : record.withProof hash tree = .ok (record.proved hash tree) := by
        rw [NodeReward.withProof, NodeReward.proved, hproof]
        rfl
      rw [enterProofs, hrecord, ih fun other hmem => h other (List.mem_cons_of_mem _ hmem)]
      rfl

/-- **Where there is a tree, a file gets all its proofs and the root.** -/
theorem RewardsFile.enterTree_eq (hbuild : MerkleTree.build hash file.nodeRewards = .ok tree) :
    file.enterTree hash = (.ok (), { file with
      nodeRewards := file.nodeRewards.map (·.proved hash tree), merkleRoot := tree.root }) := by
  have hproofs : ∀ record ∈ file.nodeRewards, ∃ proof, tree.proof? (record.leaf hash) = some proof := by
    intro record hmem
    obtain ⟨position, -, hproof⟩ := MerkleTree.exists_proof_of_build hbuild hmem
    exact ⟨_, hproof⟩
  rw [RewardsFile.enterTree, hbuild]
  dsimp only
  rw [NodeReward.enterProofs_eq hproofs]

/-- **Where there is none, a file stays as it is.** -/
theorem RewardsFile.enterTree_eq_error (hbuild : MerkleTree.build hash file.nodeRewards = .error error) :
    file.enterTree hash = (.error error, file) := by
  rw [RewardsFile.enterTree, hbuild]

theorem RewardsFile.withTree_eq_ok_iff : file.withTree hash = .ok file' ↔
    ∃ tree, MerkleTree.build hash file.nodeRewards = .ok tree ∧
      file' = { file with
        nodeRewards := file.nodeRewards.map (·.proved hash tree), merkleRoot := tree.root } := by
  rw [RewardsFile.withTree]
  rcases hbuild : MerkleTree.build hash file.nodeRewards with error | tree
  · rw [enterTree_eq_error hbuild]
    refine ⟨fun h => ?_, fun ⟨tree, htree, _⟩ => ?_⟩
    · cases h
    · cases htree
  · rw [enterTree_eq hbuild]
    refine ⟨fun h => ⟨tree, rfl, ?_⟩, fun ⟨other, hother, h⟩ => ?_⟩
    · cases h
      rfl
    · cases hother
      rw [h]

/-- **Records of distinct addresses get their tree**, if there are any. -/
theorem RewardsFile.exists_withTree (hsome : file.nodeRewards ≠ [])
    (hdistinct : (file.nodeRewards.map (·.address)).Nodup) : ∃ file', file.withTree hash = .ok file' :=
  ⟨_, withTree_eq_ok_iff.mpr ⟨_, MerkleTree.build_eq_ok hsome hdistinct, rfl⟩⟩

end PoolRewards
