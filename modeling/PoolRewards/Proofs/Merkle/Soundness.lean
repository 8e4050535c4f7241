/-
Nothing outside a tree can be proved.

A proof may be any list of hashes: too short, too long, or made of nodes from the middle of
the tree.  Every node of a tree is a leaf or the parent of two nodes, and what a parent is the
hash of tells its children apart from their order.  So a proof that leads to the root goes
through nodes of the tree all the way, down to the hash that it starts from.  A leaf is the
hash of 116 bytes and a parent that of 64, so that neither can stand in for the other,
at whatever level it may be.

The hash is any function without a collision among the texts that were hashed while the tree
was built and the proof was checked.  Nothing is assumed of other texts.
-/
import PoolRewards.Proofs.Merkle

namespace PoolRewards

variable {hash : List UInt8 → Digest} {rewards : List NodeReward} {record other : NodeReward}
  {texts : List (List UInt8)} {proof layer : List Digest} {leaf a b c d : Digest}

/-! ### Texts

Everything in a leaf has a width of its own, so its parts are found by their places.  The
text of a parent holds both children in their order as numbers, which leaves open only on
which side each of them stood.
-/

theorem Octets.toBytes_inj {count : Nat} {value value' : Octets count}
    (h : value.toBytes = value'.toBytes) : value = value' := by
  rw [← ofBytes_toBytes value, h, ofBytes_toBytes]

theorem bytesOfNat_inj {count n m : Nat} (hn : n < Nat.pow 256 count) (hm : m < Nat.pow 256 count)
    (h : bytesOfNat count n = bytesOfNat count m) : n = m := by
  have hvalue := congrArg natOfBytes h
  rwa [natOfBytes_bytesOfNat, natOfBytes_bytesOfNat, Nat.mod_eq_of_lt hn, Nat.mod_eq_of_lt hm] at hvalue

/-- The records of one node that let it claim the same on the same network. -/
structure NodeReward.SameClaim (record other : NodeReward) : Prop where
  address : record.address = other.address
  network : record.network = other.network
  rpl : record.rewards.collateralRpl + record.rewards.oracleDaoRpl =
    other.rewards.collateralRpl + other.rewards.oracleDaoRpl
  smoothingPoolEth : record.rewards.smoothingPoolEth = other.rewards.smoothingPoolEth

theorem NodeReward.length_leafBytes (record : NodeReward) : record.leafBytes.length = 116 := by
  simp [leafBytes, Octets.length_toBytes, length_bytesOfNat]

/-- **The text of a leaf tells what can be claimed.** -/
theorem NodeReward.sameClaim_of_leafBytes (h : record.leafBytes = other.leafBytes) :
    record.SameClaim other := by
  have hamount : ∀ amount : Amount, amount.toNat < Nat.pow 256 32 := fun amount => amount.isLt
  have hword : ∀ word : UInt64, word.toNat < Nat.pow 256 32 := fun word =>
    Nat.lt_trans word.toNat_lt_size (by decide)
  unfold leafBytes at h
  obtain ⟨h, heth⟩ := List.append_inj' h (by simp [length_bytesOfNat])
  obtain ⟨h, hrpl⟩ := List.append_inj' h (by simp [length_bytesOfNat])
  obtain ⟨haddress, hnetwork⟩ := List.append_inj' h (by simp [length_bytesOfNat])
  refine ⟨Octets.toBytes_inj haddress, ?_, ?_, ?_⟩
  · exact UInt64.toNat_inj.mp (bytesOfNat_inj (hword _) (hword _) hnetwork)
  · exact BitVec.toNat_inj.mp (bytesOfNat_inj (hamount _) (hamount _) hrpl)
  · exact BitVec.toNat_inj.mp (bytesOfNat_inj (hamount _) (hamount _) heth)

namespace Merkle

theorem length_pairBytes (a b : Digest) : (pairBytes a b).length = 64 := by
  unfold pairBytes
  split <;> simp [Octets.length_toBytes]

/-- **The text of a parent tells its children**, though not which one came first. -/
theorem pairBytes_inj (h : pairBytes a b = pairBytes c d) : a = c ∧ b = d ∨ a = d ∧ b = c := by
  have hpair : ∀ {a b c d : Digest}, Octets.toBytes a ++ Octets.toBytes b = Octets.toBytes c ++ Octets.toBytes d →
      a = c ∧ b = d := by
    intro a b c d h
    obtain ⟨hleft, hright⟩ := List.append_inj h (by rw [Octets.length_toBytes, Octets.length_toBytes])
    exact ⟨Octets.toBytes_inj hleft, Octets.toBytes_inj hright⟩
  unfold pairBytes at h
  by_cases hab : a ≤ b
  · by_cases hcd : c ≤ d
    · rw [if_pos hab, if_pos hcd] at h
      exact Or.inl (hpair h)
    · rw [if_pos hab, if_neg hcd] at h
      exact Or.inr (hpair h)
  · by_cases hcd : c ≤ d
    · rw [if_neg hab, if_pos hcd] at h
      exact Or.inr (hpair h).symm
    · rw [if_neg hab, if_neg hcd] at h
      exact Or.inl (hpair h).symm

theorem leafBytes_ne_pairBytes (record : NodeReward) (a b : Digest) : record.leafBytes ≠ pairBytes a b := by
  intro h
  have hlength := congrArg List.length h
  rw [record.length_leafBytes, length_pairBytes] at hlength
  omega

/-- No two of the texts have one hash. -/
def CollisionFree (hash : List UInt8 → Digest) (texts : List (List UInt8)) : Prop :=
  ∀ text ∈ texts, ∀ other ∈ texts, hash text = hash other → text = other

instance : Decidable (CollisionFree hash texts) :=
  inferInstanceAs (Decidable (∀ text ∈ texts, ∀ other ∈ texts, hash text = hash other → text = other))

/-- The texts that are hashed for the layer above a layer. -/
def pairsOf : List Digest → List (List UInt8)
  | a :: b :: rest => pairBytes a b :: pairsOf rest
  | _ => []

/-- The texts that are hashed while a proof is checked. -/
def climbed (hash : List UInt8 → Digest) : Digest → List Digest → List (List UInt8)
  | _, [] => []
  | leaf, sibling :: rest => pairBytes leaf sibling :: climbed hash (parent hash leaf sibling) rest

end Merkle

open Merkle

/-- The texts that are hashed while a tree is built over rewards. -/
def MerkleTree.hashed (tree : MerkleTree) (rewards : List NodeReward) : List (List UInt8) :=
  rewards.map (·.leafBytes) ++ tree.layers.flatMap pairsOf

/-- The texts that are hashed while a record is checked. -/
def NodeReward.checked (hash : List UInt8 → Digest) (record : NodeReward) (proof : List Digest) :
    List (List UInt8) :=
  record.leafBytes :: climbed hash (record.leaf hash) proof

namespace Merkle

/-! ### Nodes of a tree

A node is a leaf or the parent of two nodes whose text is among those that were hashed.  A
node that is carried up for want of a sibling becomes no other node, so the layers need not
be told apart.
-/

/-- The nodes of a tree over rewards, whose parents are hashes of some texts. -/
inductive Built (hash : List UInt8 → Digest) (rewards : List NodeReward) (texts : List (List UInt8)) :
    Digest → Prop
  | bottom {record : NodeReward} : record ∈ rewards → Built hash rewards texts (record.leaf hash)
  | above {a b : Digest} : Built hash rewards texts a → Built hash rewards texts b →
      pairBytes a b ∈ texts → Built hash rewards texts (parent hash a b)

theorem built_parents (hlayer : ∀ node ∈ layer, Built hash rewards texts node)
    (htexts : pairsOf layer ⊆ texts) : ∀ node ∈ parents hash layer, Built hash rewards texts node := by
  fun_induction parents hash layer with
  | case1 a b rest ih =>
      obtain ⟨hpair, hrest⟩ := List.cons_subset.mp htexts
      intro node hmem
      rcases List.mem_cons.mp hmem with rfl | hmem
      · exact .above (hlayer a (by simp)) (hlayer b (by simp)) hpair
      · exact ih (fun node hmem => hlayer node (by simp [hmem])) hrest node hmem
  | case2 a => exact hlayer
  | case3 => exact hlayer

/-- What stands on top of the layers over a layer of nodes is a node. -/
theorem built_top (hsome : layer ≠ []) (hlayer : ∀ node ∈ layer, Built hash rewards texts node)
    (htexts : (layersFrom hash layer).flatMap pairsOf ⊆ texts) :
    Built hash rewards texts (MerkleTree.root ⟨layersFrom hash layer⟩) := by
  fun_induction layersFrom hash layer with
  | case1 layer hshort =>
      obtain ⟨node, rest, rfl⟩ := List.exists_cons_of_ne_nil hsome
      exact hlayer node (by simp)
  | case2 layer hlong ih =>
      rw [List.flatMap_cons, List.append_subset] at htexts
      have habove : parents hash layer ≠ [] := by
        intro hnil
        have hlength := length_parents hash layer
        rw [hnil, List.length_nil] at hlength
        omega
      have hroot : MerkleTree.root ⟨layer :: layersFrom hash (parents hash layer)⟩ =
          MerkleTree.root ⟨layersFrom hash (parents hash layer)⟩ := by
        obtain ⟨upper, rest, hlayers⟩ : ∃ upper rest, layersFrom hash (parents hash layer) = upper :: rest := by
          refine List.exists_cons_of_ne_nil fun hnil => ?_
          have hhead : (layersFrom hash (parents hash layer)).head? = some (parents hash layer) :=
            head?_layersFrom _
          rw [hnil] at hhead
          cases hhead
        rw [hlayers, MerkleTree.root, MerkleTree.root, List.getLast?_cons_cons]
      rw [hroot]
      exact ih habove (built_parents hlayer htexts.1) htexts.2

/-! ### Down from the root

The induction is on the proof: by its rest, what its first step leads to is a node, so the
text of that step is the text of a leaf or of a parent.  The lengths rule out the leaf.  The
parent has two nodes as its children, and one of them is where the proof starts.
-/

/-- **A proof that leads to a node starts at a node.** -/
theorem Built.of_climb (hfree : CollisionFree hash texts) (hleaves : rewards.map (·.leafBytes) ⊆ texts)
    (proof : List Digest) :
    ∀ {start : Digest}, climbed hash start proof ⊆ texts →
      Built hash rewards texts (proof.foldl (parent hash) start) → Built hash rewards texts start := by
  induction proof with
  | nil => exact fun _ h => h
  | cons sibling rest ih =>
      intro start hclimb h
      obtain ⟨hpair, hrest⟩ := List.cons_subset.mp hclimb
      have hparent : Built hash rewards texts (parent hash start sibling) := ih hrest h
      generalize hnode : parent hash start sibling = node at hparent
      cases hparent with
      | @bottom record hmem =>
          have hleaf : record.leafBytes ∈ texts := hleaves (List.mem_map.mpr ⟨record, hmem, rfl⟩)
          exact absurd (hfree _ hleaf _ hpair hnode.symm) (leafBytes_ne_pairBytes record start sibling)
      | @above a b ha hb hmem =>
          rcases pairBytes_inj (hfree _ hpair _ hmem hnode) with ⟨rfl, -⟩ | ⟨rfl, -⟩
          · exact ha
          · exact hb

theorem Built.exists_sameClaim (hfree : CollisionFree hash texts)
    (hleaves : rewards.map (·.leafBytes) ⊆ texts) (hrecord : record.leafBytes ∈ texts)
    (h : Built hash rewards texts (record.leaf hash)) : ∃ other ∈ rewards, record.SameClaim other := by
  generalize hnode : record.leaf hash = node at h
  cases h with
  | @bottom other hmem =>
      have hleaf : other.leafBytes ∈ texts := hleaves (List.mem_map.mpr ⟨other, hmem, rfl⟩)
      exact ⟨other, hmem, NodeReward.sameClaim_of_leafBytes (hfree _ hrecord _ hleaf hnode)⟩
  | @above a b _ _ hmem =>
      exact absurd (hfree _ hrecord _ hmem hnode) (leafBytes_ne_pairBytes record a b)

end Merkle

theorem MerkleTree.eq_of_build {tree : MerkleTree} (h : MerkleTree.build hash rewards = .ok tree) :
    rewards ≠ [] ∧
      tree = ⟨layersFrom hash ((rewards.map (·.leaf hash)).mergeSort fun a b => a ≤ b)⟩ :=
  ⟨(build_eq_ok_iff.mp h).1, (build_eq_ok_iff.mp h).2.2⟩

/-- **Whatever proof is accepted, what it is accepted for can be claimed by a record of the tree**,
unless two texts that were hashed on the way have one hash. -/
theorem MerkleTree.verify_sound {tree : MerkleTree} (hbuild : MerkleTree.build hash rewards = .ok tree)
    (hverify : verify hash (record.leaf hash) proof tree.root = true)
    (hfree : CollisionFree hash (tree.hashed rewards ++ record.checked hash proof)) :
    ∃ other ∈ rewards, record.SameClaim other := by
  obtain ⟨hsome, rfl⟩ := eq_of_build hbuild
  generalize htexts : MerkleTree.hashed _ rewards ++ record.checked hash proof = texts at hfree
  have hbuilt : MerkleTree.hashed _ rewards ⊆ texts := htexts ▸ List.subset_append_left _ _
  have hchecked : record.checked hash proof ⊆ texts := htexts ▸ List.subset_append_right _ _
  obtain ⟨hleaves, hpairs⟩ := List.append_subset.mp hbuilt
  obtain ⟨hrecord, hclimb⟩ := List.cons_subset.mp hchecked
  have hlayer : ∀ node ∈ (rewards.map (·.leaf hash)).mergeSort fun a b => a ≤ b,
      Built hash rewards texts node := by
    intro node hmem
    rw [List.mem_mergeSort] at hmem
    obtain ⟨other, hother, rfl⟩ := List.mem_map.mp hmem
    exact .bottom hother
  have hnonempty : ((rewards.map (·.leaf hash)).mergeSort fun a b => a ≤ b) ≠ [] := by
    intro hnil
    have hlength := congrArg List.length hnil
    simp [hsome] at hlength
  have htop := built_top hnonempty hlayer hpairs
  rw [verify, beq_iff_eq] at hverify
  rw [← hverify] at htop
  exact (Built.of_climb hfree hleaves proof hclimb htop).exists_sameClaim hfree hleaves hrecord

/-! ### A tree of three records

The accepted record is none of the tree's own: it divides the same RPL in another way.  Its
leaf is the same, and that is all that a proof can show.
-/

/-- The rewards of three nodes, in the order of their leaves. -/
def threeRecords : List NodeReward :=
  [⟨3, 5, ⟨0, 20, 9⟩, []⟩, ⟨2, 0, ⟨100, 0, 0⟩, []⟩, ⟨1, 0, ⟨300, 50, 7⟩, []⟩]

/-- Their leaves under Keccak-256. -/
def threeLeaves : List Digest :=
  [0x0f548efe283a52ed9a535af025491e7ec9cbb15e9f7e5121bbf043b2e02d1fc0,
    0x7bd071e2c0bc9ce8b01540fc6b9f6fcfa9391572a2da0ff76339f9cc96366654,
    0xdda66cfb723eabd6ea099fbd0957c0a92fff07fcaf4a0da4ff0145f6fbc4ea33]

/-- The parent of the first two leaves. -/
def threeInner : Digest := 0x428fa35ea38e4bbab68f187bd92cdc7d4d8a8380bc6189752eec728aa2e15646

/-- The root above that parent and the last leaf. -/
def threeRoot : Digest := 0xf478c9da0d76db773ff44b1884f4665af1ffafd54067c64dd6ff3a82644cd1d9

/-- The tree of the three records.  The last leaf is carried up. -/
def threeTree : MerkleTree := ⟨[threeLeaves, threeInner :: threeLeaves.drop 2, [threeRoot]]⟩

/-- The Keccak-256 digests of the five texts that are hashed for the tree. -/
def threeDigests (text : List UInt8) : Digest :=
  (((threeTree.hashed threeRecords).zip (threeLeaves ++ [threeInner, threeRoot])).lookup text).getD 0

theorem build_threeRecords : MerkleTree.build threeDigests threeRecords = .ok threeTree := by
  have hleaves : threeRecords.map (·.leaf threeDigests) = threeLeaves := by decide +kernel
  have hsorted : threeLeaves.Pairwise fun a b => decide (a ≤ b) = true := by decide
  have hinner : parents threeDigests threeLeaves = threeInner :: threeLeaves.drop 2 := by decide +kernel
  have hroot : parents threeDigests (threeInner :: threeLeaves.drop 2) = [threeRoot] := by decide +kernel
  rw [MerkleTree.build_eq_ok (by decide) (by decide), hleaves, List.mergeSort_of_pairwise hsorted,
    layersFrom_of_lt (by decide), hinner, layersFrom_of_lt (by decide), hroot, layersFrom_of_le (by decide)]
  rfl

theorem MerkleTree.verify_sound_threeRecords :
    ∃ (record : NodeReward) (proof : List Digest), record ∉ threeRecords ∧
      MerkleTree.build threeDigests threeRecords = .ok threeTree ∧
      verify threeDigests (record.leaf threeDigests) proof threeTree.root = true ∧
      CollisionFree threeDigests (threeTree.hashed threeRecords ++ record.checked threeDigests proof) ∧
      ∃ other ∈ threeRecords, record.SameClaim other := by
  -- The RPL of the last record is divided otherwise between the two buckets.
  let record : NodeReward := ⟨1, 0, ⟨350, 0, 7⟩, []⟩
  have hnew : record ∉ threeRecords := by decide +kernel
  have hverify : verify threeDigests (record.leaf threeDigests) [threeInner] threeTree.root = true := by
    decide +kernel
  have hfree : CollisionFree threeDigests
      (threeTree.hashed threeRecords ++ record.checked threeDigests [threeInner]) := by decide +kernel
  exact ⟨record, [threeInner], hnew, build_threeRecords, hverify, hfree,
    verify_sound build_threeRecords hverify hfree⟩

end PoolRewards
