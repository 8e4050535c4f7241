/-
Snapshots that differ in the order of their rows.

Where addresses, public keys and validator indices are distinct, a row is known by its
address whatever its position: the pool's nodes are the same ones, each with the same
minipools, and so is everything that is looked up or added up over rows.
-/
import PoolRewards.Proofs.Pool.Rows

namespace PoolRewards

/-- The second snapshot has the rows of the first one in other orders, and all else alike. -/
structure Snapshot.Reordered (snapshot snapshot' : Snapshot) : Prop where
  nodes : snapshot.nodes.Perm snapshot'.nodes
  minipools : snapshot.minipools.Perm snapshot'.minipools
  oracleMembers : snapshot.oracleMembers.Perm snapshot'.oracleMembers
  rest : snapshot' = { snapshot with
    nodes := snapshot'.nodes, minipools := snapshot'.minipools, oracleMembers := snapshot'.oracleMembers }

/-- No two rows have one address, one public key or one validator index. -/
structure Snapshot.Distinct (snapshot : Snapshot) : Prop where
  nodes : (snapshot.nodes.map (·.address)).Nodup
  minipools : (snapshot.minipools.map (·.address)).Nodup
  pubkeys : (snapshot.minipools.map (·.pubkey)).Nodup
  validators : ∀ (pubkey pubkey' : PublicKey) (status status' : ValidatorStatus),
    snapshot.validators[pubkey]? = some status → snapshot.validators[pubkey']? = some status' →
      status.index = status'.index → pubkey = pubkey'

namespace Snapshot

variable {snapshot snapshot' : Snapshot} {bounds : IntervalBounds}

theorem Reordered.config (h : snapshot.Reordered snapshot') : snapshot'.config = snapshot.config :=
  congrArg (·.config) h.rest

theorem Reordered.network (h : snapshot.Reordered snapshot') : snapshot'.network = snapshot.network :=
  congrArg (·.network) h.rest

theorem Reordered.validators (h : snapshot.Reordered snapshot') :
    snapshot'.validators = snapshot.validators := congrArg (·.validators) h.rest

theorem Reordered.symm (h : snapshot.Reordered snapshot') : snapshot'.Reordered snapshot where
  nodes := h.nodes.symm
  minipools := h.minipools.symm
  oracleMembers := h.oracleMembers.symm
  rest := by rw [h.rest]

theorem Distinct.reordered (hdistinct : snapshot.Distinct) (h : snapshot.Reordered snapshot') :
    snapshot'.Distinct where
  nodes := (h.nodes.map _).nodup_iff.mp hdistinct.nodes
  minipools := (h.minipools.map _).nodup_iff.mp hdistinct.minipools
  pubkeys := (h.minipools.map _).nodup_iff.mp hdistinct.pubkeys
  validators := by
    rw [h.validators]
    exact hdistinct.validators

theorem Reordered.tolerance (h : snapshot.Reordered snapshot') :
    snapshot'.tolerance = snapshot.tolerance := by
  rw [Snapshot.tolerance, Snapshot.tolerance, h.nodes.length_eq, h.minipools.length_eq]

/-- A public key's validator is found in the same way. -/
theorem Reordered.trackedValidator (h : snapshot.Reordered snapshot') :
    Tracker.trackedValidator snapshot' bounds = Tracker.trackedValidator snapshot bounds := by
  funext pubkey
  unfold Tracker.trackedValidator
  rw [h.validators, h.config]

theorem Reordered.linked (h : snapshot.Reordered snapshot') (minipool : PoolMinipool) :
    minipool.linked snapshot' bounds = minipool.linked snapshot bounds := by
  unfold PoolMinipool.linked
  rw [h.trackedValidator]

end Snapshot

/-! ### The pool's nodes

The rows of a node are picked out in the order of the snapshot.  In another order the same
rows are picked, and whether one of them is penalized does not depend on where it stands.
-/

variable {snapshot snapshot' : Snapshot} {bounds : IntervalBounds} {node : PoolNode} {minipool : PoolMinipool}

theorem poolMinipools_perm {rows rows' : List MinipoolDetails} (h : rows.Perm rows') :
    (poolMinipools rows).toList.Perm (poolMinipools rows').toList := by
  have hstaking := h.filter (·.isStaking)
  have hany : (rows.filter (·.isStaking)).any (fun row => row.penalties ≥ penaltyThreshold) =
      (rows'.filter (·.isStaking)).any fun row => row.penalties ≥ penaltyThreshold := hstaking.any_eq
  rw [toList_poolMinipools, toList_poolMinipools, hany]
  split
  · exact List.Perm.nil
  · exact hstaking.map _

/-- The node with an address has the same minipools in either snapshot. -/
theorem Snapshot.Reordered.exists_node (h : snapshot.Reordered snapshot') (hnode : node ∈ snapshot.poolNodes) :
    ∃ node' ∈ snapshot'.poolNodes, node'.bare = node.bare ∧
      node.minipools.toList.Perm node'.minipools.toList := by
  obtain ⟨details, hdetails, rfl⟩ := mem_poolNodes.mp hnode
  have hrows := poolMinipools_perm (h.minipools.filter fun row => row.node == details.address)
  refine ⟨_, mem_poolNodes.mpr ⟨details, h.nodes.mem_iff.mp hdetails, rfl⟩, ?_, ?_⟩
  · unfold PoolNode.bare PoolNode.ofDetails
    dsimp only
    rw [← Array.isEmpty_toList, ← Array.isEmpty_toList, hrows.isEmpty_eq]
  · exact hrows

end PoolRewards
