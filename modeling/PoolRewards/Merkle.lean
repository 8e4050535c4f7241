/-
The Merkle tree over the rewards of nodes.

A leaf is the hash of a node's address, its network, all its RPL and its ether, each of
the last three as 32 bytes.  Leaves are sorted.  A parent is the hash of its two children,
the smaller one first, and a child without a sibling is its own parent.

The hash is a parameter: nothing here depends on which one it is.
-/
import PoolRewards.Artifact.Basic
import PoolRewards.Address
import Std.Data.ExtTreeSet

namespace PoolRewards

variable (hash : List UInt8 → Digest)

/-- What a leaf is the hash of. -/
def NodeReward.leafBytes (reward : NodeReward) : List UInt8 :=
  reward.address.toBytes ++ bytesOfNat 32 reward.network.toNat ++
    bytesOfNat 32 reward.rewards.totalRpl.toNat ++ bytesOfNat 32 reward.rewards.smoothingPoolEth.toNat

/-- The leaf of a node's rewards. -/
def NodeReward.leaf (reward : NodeReward) : Digest := hash reward.leafBytes

namespace Merkle

/-- What a parent is the hash of: its children, the smaller one first. -/
def pairBytes (a b : Digest) : List UInt8 :=
  if a ≤ b then Octets.toBytes a ++ Octets.toBytes b else Octets.toBytes b ++ Octets.toBytes a

/-- The parent of two children. -/
def parent (a b : Digest) : Digest := hash (pairBytes a b)

/-- The layer above a layer. -/
def parents : List Digest → List Digest
  | a :: b :: rest => parent hash a b :: parents rest
  | [a] => [a]
  | [] => []

theorem length_parents (layer : List Digest) :
    (parents hash layer).length = (layer.length + 1) / 2 := by
  fun_induction parents hash layer with
  | case1 a b rest ih =>
    simp only [List.length_cons, ih]
    omega
  | case2 => simp
  | case3 => rfl

/-- The layers from a layer up to the root. -/
def layersFrom (layer : List Digest) : List (List Digest) :=
  if layer.length ≤ 1 then [layer] else layer :: layersFrom (parents hash layer)
termination_by layer.length
decreasing_by
  rw [length_parents]
  omega

/-- The siblings on the way up from a position of the lowest of some layers. -/
def siblings : (position : Nat) → List (List Digest) → List Digest
  | position, layer :: above :: rest =>
    layer[position ^^^ 1]?.toList ++ siblings (position / 2) (above :: rest)
  | _, _ => []

/--
The position of a hash among sorted ones, if it is there, by halving the range of `size`
positions from `base` on.  Of several positions any one may be found.
-/
def search (leaves : List Digest) (leaf : Digest) (base size : Nat) : Option Nat :=
  if size ≤ 1 then if leaves[base]? = some leaf then some base else none
  else if leaves[base + size / 2]?.any (leaf < ·) then search leaves leaf base (size - size / 2)
  else search leaves leaf (base + size / 2) (size - size / 2)
termination_by size

/-- Check a proof: hashing its members one after the other onto a leaf leads to the root. -/
def verify (leaf : Digest) (proof : List Digest) (root : Digest) : Bool :=
  proof.foldl (parent hash) leaf == root

/-- The first address that comes a second time. -/
def firstRepeated (seen : Std.ExtTreeSet Address) : List Address → Option Address
  | [] => none
  | address :: rest =>
    if seen.contains address then some address else firstRepeated (seen.insert address) rest

end Merkle

/-- A tree: its layers from the leaves up to the root. -/
structure MerkleTree where
  layers : List (List Digest)
  deriving DecidableEq, Repr

namespace MerkleTree

/-- The tree over rewards.  There must be some, and no address may come twice. -/
def build (rewards : List NodeReward) : Except GenerationError MerkleTree :=
  if rewards.isEmpty then .error (.merkleTree "no node rewards to build a tree from")
  else match Merkle.firstRepeated ∅ (rewards.map (·.address)) with
    | some address =>
      .error (.merkleTree s!"duplicate node reward record for {Address.checksummed address}")
    | none =>
      .ok ⟨Merkle.layersFrom hash ((rewards.map (·.leaf hash)).mergeSort fun a b => a ≤ b)⟩

/-- The hash that stands for all rewards. -/
def root (tree : MerkleTree) : Digest := ((tree.layers.getLast?.getD []).head?).getD 0

/-- The siblings on the way from a leaf to the root, if the tree has the leaf. -/
def proof? (tree : MerkleTree) (leaf : Digest) : Option (List Digest) := do
  let leaves ← tree.layers.head?
  let position ← Merkle.search leaves leaf 0 leaves.length
  return Merkle.siblings position tree.layers

end MerkleTree

/-- A node's rewards with the proof that a tree gives for them. -/
def NodeReward.withProof (tree : MerkleTree) (reward : NodeReward) : Except GenerationError NodeReward :=
  match tree.proof? (reward.leaf hash) with
  | some proof => .ok { reward with proof }
  | none => .error (.merkleTree s!"missing leaf for {Address.checksummed reward.address}")

/-- Put proofs into records in turn, up to the first record that a tree has no leaf of. -/
def NodeReward.enterProofs (tree : MerkleTree) : List NodeReward → Except GenerationError Unit × List NodeReward
  | [] => (.ok (), [])
  | record :: rest =>
    match record.withProof hash tree with
    | .ok record =>
      let (result, rest) := enterProofs tree rest
      (result, record :: rest)
    | .error error => (.error error, record :: rest)

/-- Put a proof for each node into a file, and then the root.  A failure may leave some proofs behind. -/
def RewardsFile.enterTree (file : RewardsFile) : Except GenerationError Unit × RewardsFile :=
  match MerkleTree.build hash file.nodeRewards with
  | .error error => (.error error, file)
  | .ok tree =>
    match NodeReward.enterProofs hash tree file.nodeRewards with
    | (.ok (), nodeRewards) => (.ok (), { file with nodeRewards, merkleRoot := tree.root })
    | (.error error, nodeRewards) => (.error error, { file with nodeRewards })

/-- A rewards file with its root, and with a proof for each node. -/
def RewardsFile.withTree (file : RewardsFile) : Except GenerationError RewardsFile :=
  match file.enterTree hash with
  | (.ok (), file) => .ok file
  | (.error error, _) => .error error

end PoolRewards
