/-
Every proof in a file leads to its root.

A node and its sibling are the children of the node at half their position in the layer above,
and a node without a sibling stands there itself.  So each member of a proof leads one layer
up, a missing one does too, and the whole proof leads from a leaf to the root.  There are as
many layers above the leaves as halvings, rounded up, that make one of their number.

Nothing is assumed of the hash.  Leaves may be equal, and it does not matter which of several
equal ones has been found.
-/
import PoolRewards.Proofs.Merkle
import Mathlib.Data.Nat.Bitwise
import Mathlib.Data.Nat.Log

namespace PoolRewards

variable {hash : List UInt8 → Digest} {layer above : List Digest} {rest : List (List Digest)}
  {node a b : Digest} {position : Nat}

namespace Merkle

/-! ### One layer up

Children are hashed in their order as numbers, so a hash and its sibling have one parent
whichever of them is the left one.  The induction on a layer takes two hashes at a time, as
the making of parents does.
-/

theorem pairBytes_comm (a b : Digest) : pairBytes a b = pairBytes b a := by
  unfold pairBytes
  by_cases hab : a ≤ b
  · by_cases hba : b ≤ a
    · rw [BitVec.le_antisymm hab hba]
    · rw [if_pos hab, if_neg hba]
  · rw [if_neg hab, if_pos (BitVec.le_of_lt (BitVec.not_le.mp hab))]

theorem parent_comm (a b : Digest) : parent hash a b = parent hash b a := by
  rw [parent, parent, pairBytes_comm]

theorem add_two_xor_one (n : Nat) : (n + 2) ^^^ 1 = (n ^^^ 1) + 2 := by
  rcases Nat.even_or_odd n with heven | hodd
  · rw [Nat.xor_one_of_even heven, Nat.xor_one_of_even (heven.add even_two)]
  · obtain ⟨k, hk⟩ := id hodd
    rw [Nat.xor_one_of_odd hodd, Nat.xor_one_of_odd (hodd.add_even even_two)]
    omega

/-- **A node and its sibling lead to the node above them.** -/
theorem getElem?_parents (h : layer[position]? = some node) :
    (parents hash layer)[position / 2]? =
      some (layer[position ^^^ 1]?.toList.foldl (parent hash) node) := by
  fun_induction parents hash layer generalizing position with
  | case1 a b rest ih =>
      rcases position with _ | _ | position
      · cases h
        rfl
      · cases h
        exact congrArg some (parent_comm a _)
      · rw [show (position + 2) / 2 = position / 2 + 1 by omega, add_two_xor_one]
        exact ih h
  | case2 a =>
      rcases position with _ | position
      · cases h
        rfl
      · cases h
  | case3 => cases h

theorem root_cons : MerkleTree.root ⟨layer :: above :: rest⟩ = MerkleTree.root ⟨above :: rest⟩ := by
  rw [MerkleTree.root, MerkleTree.root, List.getLast?_cons_cons]

theorem exists_layersFrom (hash : List UInt8 → Digest) (layer : List Digest) :
    ∃ rest, layersFrom hash layer = layer :: rest := by
  rw [layersFrom]
  split
  · exact ⟨[], rfl⟩
  · exact ⟨_, rfl⟩

/-! ### Up to the root

The proof has a hash for every layer in which the node has a sibling.  A node without one
stands unchanged in the layer above, and the proof goes on from there, which is why a proof
may be shorter than the tree is high.
-/

/-- **The siblings of a node lead from it to the root.** -/
theorem foldl_siblings (h : layer[position]? = some node) :
    (siblings position (layersFrom hash layer)).foldl (parent hash) node =
      MerkleTree.root ⟨layersFrom hash layer⟩ := by
  fun_induction layersFrom hash layer generalizing position node with
  | case1 layer hshort =>
      obtain ⟨hlength, rfl⟩ := List.getElem?_eq_some_iff.mp h
      obtain rfl : position = 0 := by omega
      have hnone : siblings 0 [layer] = [] := rfl
      rw [hnone, List.foldl_nil, MerkleTree.root, List.getLast?_singleton, Option.getD_some,
        List.head?_eq_getElem?, List.getElem?_eq_getElem hlength, Option.getD_some]
  | case2 layer hlong ih =>
      obtain ⟨rest, hrest⟩ := exists_layersFrom hash (parents hash layer)
      have habove := ih (getElem?_parents h)
      rw [hrest] at habove ⊢
      rw [siblings, List.foldl_append, habove, root_cons]

theorem length_siblings_le (hash : List UInt8 → Digest) (position : Nat) (layer : List Digest) :
    (siblings position (layersFrom hash layer)).length ≤ Nat.clog 2 layer.length := by
  fun_induction layersFrom hash layer generalizing position with
  | case1 layer hshort => simp [siblings]
  | case2 layer hlong ih =>
      obtain ⟨rest, hrest⟩ := exists_layersFrom hash (parents hash layer)
      have habove := ih (position / 2)
      rw [hrest] at habove ⊢
      rw [length_parents] at habove
      rw [siblings, List.length_append, Nat.clog_of_two_le (by omega) (by omega)]
      have hone : layer[position ^^^ 1]?.toList.length ≤ 1 := by
        cases layer[position ^^^ 1]? <;> simp
      simp
      omega

end Merkle

open Merkle

/-! ### Files

The proof that a record is given is the path of some leaf equal to its own, and it is
checked from that leaf, so it does not matter that it may be another record's place.
-/

theorem MerkleTree.verify_proved {records : List NodeReward} {tree : MerkleTree}
    (hbuild : MerkleTree.build hash records = .ok tree) {record : NodeReward} (hmem : record ∈ records) :
    verify hash (record.leaf hash) (record.proved hash tree).proof tree.root = true ∧
      (record.proved hash tree).proof.length ≤ Nat.clog 2 records.length := by
  obtain ⟨position, hposition, hproof⟩ := exists_proof_of_build hbuild hmem
  obtain ⟨-, -, rfl⟩ := build_eq_ok_iff.mp hbuild
  rw [NodeReward.proved, hproof, Option.getD_some]
  refine ⟨?_, ?_⟩
  · rw [verify, beq_iff_eq]
    exact foldl_siblings hposition
  · have hlength := length_siblings_le hash position
      ((records.map (·.leaf hash)).mergeSort fun a b => a ≤ b)
    rwa [List.length_mergeSort, List.length_map] at hlength

/-- A file apart from the root and the proofs. -/
def RewardsFile.unproved (file : RewardsFile) : RewardsFile :=
  { file with
    merkleRoot := 0
    nodeRewards := file.nodeRewards.map fun record => { record with proof := [] } }

/-- **A file gets its root and its proofs if there are records and no address comes twice; every
proof leads to the root.**  Otherwise there is no tree, and the file stays as it is. -/
theorem RewardsFile.enterTree_verifies (hash : List UInt8 → Digest) (file : RewardsFile) :
    ((file.enterTree hash).1 = .ok () ↔
      file.nodeRewards ≠ [] ∧ (file.nodeRewards.map (·.address)).Nodup) ∧
    (∀ error, (file.enterTree hash).1 = .error error →
      MerkleTree.build hash file.nodeRewards = .error error ∧ (file.enterTree hash).2 = file) ∧
    ((file.enterTree hash).1 = .ok () →
      (file.enterTree hash).2.unproved = file.unproved ∧
      ∀ record ∈ (file.enterTree hash).2.nodeRewards,
        verify hash (record.leaf hash) record.proof (file.enterTree hash).2.merkleRoot = true ∧
          record.proof.length ≤ Nat.clog 2 (file.enterTree hash).2.nodeRewards.length) := by
  rcases hbuild : MerkleTree.build hash file.nodeRewards with error | tree
  · rw [enterTree_eq_error hbuild]
    refine ⟨⟨fun h => ?_, fun ⟨hsome, hdistinct⟩ => ?_⟩, fun other h => ?_, fun h => ?_⟩
    · cases h
    · rw [MerkleTree.build_eq_ok hsome hdistinct] at hbuild
      cases hbuild
    · cases h
      exact ⟨rfl, rfl⟩
    · cases h
  · rw [enterTree_eq hbuild]
    obtain ⟨hsome, hdistinct, -⟩ := MerkleTree.build_eq_ok_iff.mp hbuild
    refine ⟨⟨fun _ => ⟨hsome, hdistinct⟩, fun _ => rfl⟩, fun error h => ?_, fun _ => ⟨?_, ?_⟩⟩
    · cases h
    · simp only [unproved, List.map_map]
      rfl
    · intro record' hmem
      obtain ⟨record, hrecord, rfl⟩ := List.mem_map.mp hmem
      rw [List.length_map]
      -- A leaf does not look at the proof, so the record with it has the same leaf.
      have hproved := MerkleTree.verify_proved hbuild hrecord
      exact hproved

/-! ### Equal leaves

With a hash that depends on the length alone all leaves are equal and all records have the
same proof.
-/

/-- A hash that tells texts apart by their length only. -/
def lengthHash (text : List UInt8) : Digest := BitVec.ofNat _ text.length

/-- A file with the rewards of five nodes, and with a proof that is out of date. -/
def fiveNodes : RewardsFile where
  fileVersion := rewardsFileVersion
  rulesetVersion := rulesetVersion
  network := "mainnet"
  index := 1
  intervalsPassed := 1
  interval := .unset
  merkleRoot := 7
  totals := .none
  networkRewards := []
  nodeRewards := [⟨5, 0, ⟨7, 0, 1⟩, []⟩, ⟨4, 1, ⟨6, 1, 0⟩, []⟩, ⟨3, 0, ⟨0, 0, 0⟩, [9]⟩,
    ⟨2, 2, ⟨9, 9, 9⟩, []⟩, ⟨1, 0, ⟨7, 0, 1⟩, []⟩]

theorem RewardsFile.enterTree_verifies_equalLeaves :
    (∀ record ∈ fiveNodes.nodeRewards, record.leaf lengthHash = 116) ∧
      (fiveNodes.enterTree lengthHash).1 = .ok () ∧
      ∀ record ∈ (fiveNodes.enterTree lengthHash).2.nodeRewards,
        verify lengthHash (record.leaf lengthHash) record.proof
            (fiveNodes.enterTree lengthHash).2.merkleRoot = true ∧
          record.proof.length ≤ Nat.clog 2 (fiveNodes.enterTree lengthHash).2.nodeRewards.length := by
  obtain ⟨hresult, -, hproofs⟩ := enterTree_verifies lengthHash fiveNodes
  have hok := hresult.mpr ⟨by decide, by decide⟩
  exact ⟨by decide +kernel, hok, (hproofs hok).2⟩

end PoolRewards
