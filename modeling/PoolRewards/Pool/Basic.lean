/-
The smoothing pool's view of an interval: each node with its time in the pool, and each of
its minipools with the duties owed and met.
-/
import PoolRewards.Bond
import PoolRewards.Snapshot.Index
import Std.Data.ExtTreeSet

namespace PoolRewards

open Std (ExtTreeSet)

/-- A set of slots. -/
abbrev SlotSet := ExtTreeSet UInt64

/-- A minipool in the smoothing pool. -/
structure PoolMinipool where
  address : Address
  pubkey : PublicKey
  validator : Option UInt64
  bond : BondHistory
  /-- When the minipool began to stake. -/
  stakingSince : UInt64
  /-- The slots at which it owed an attestation. -/
  owed : SlotSet
  /-- The owed slots for which an attestation was seen. -/
  fulfilled : SlotSet
  /-- The fulfilled slots that count. -/
  completed : SlotSet
  wasActive : Bool
  score : Amount
  /-- The ether that the minipool earns. -/
  share : Amount
  deriving DecidableEq

namespace PoolMinipool

/-- A minipool of the snapshot before any duty. -/
def ofDetails (minipool : MinipoolDetails) : PoolMinipool where
  address := minipool.address
  pubkey := minipool.pubkey
  validator := none
  bond := .ofMinipool minipool
  stakingSince := minipool.statusTime
  owed := ∅
  fulfilled := ∅
  completed := ∅
  wasActive := true
  score := 0
  share := 0

/-- The minipool with one more slot at which it owes an attestation. -/
def owe (minipool : PoolMinipool) (slot : UInt64) : PoolMinipool :=
  { minipool with owed := minipool.owed.insert slot }

/-- The minipool with one more slot for which an attestation was seen. -/
def fulfill (minipool : PoolMinipool) (slot : UInt64) : PoolMinipool :=
  { minipool with fulfilled := minipool.fulfilled.insert slot }

/-- The minipool with one more slot that counts, at what it is worth at a time. -/
def complete (minipool : PoolMinipool) (slot time : UInt64) : PoolMinipool :=
  { minipool with
    completed := minipool.completed.insert slot
    score := minipool.score + minipool.bond.scoreAt time }

/-- The owed slots for which no attestation was seen, ascending. -/
def missing (minipool : PoolMinipool) : List UInt64 :=
  minipool.owed.toList.filter fun slot => !minipool.fulfilled.contains slot

/-- Whether there was any duty at all. -/
def hadDuties (minipool : PoolMinipool) : Bool :=
  !minipool.completed.isEmpty || !minipool.missing.isEmpty

end PoolMinipool

/-- A node in the smoothing pool. -/
structure PoolNode where
  address : Address
  rewardNetwork : UInt64
  optedIn : Bool
  /-- The first moment in the pool. -/
  joined : UInt64
  /-- The last moment in the pool. -/
  left : UInt64
  /-- Whether the node takes part: it has a minipool at work, and none of them is penalized. -/
  eligible : Bool
  minipools : Array PoolMinipool
  /-- The ether that the node earns. -/
  eth : Amount
  deriving DecidableEq

/-- Whether a node is in the pool at a time. -/
def PoolNode.isOptedInAt (node : PoolNode) (time : UInt64) : Bool := node.joined ≤ time && time ≤ node.left

/-- So many penalties of one minipool keep its node out of the pool. -/
def penaltyThreshold : UInt64 := 3

/-- Take in minipools behind those taken in so far, up to the first that is penalized.  The flag
tells whether there is one. -/
def takeIn (taken : Array PoolMinipool) : List MinipoolDetails → Array PoolMinipool × Bool
  | [] => (taken, false)
  | minipool :: rest =>
    if minipool.penalties ≥ penaltyThreshold then (taken, true)
    else takeIn (taken.push (.ofDetails minipool)) rest

/-- The minipools that a node brings into the pool: those at work, and none if one of them is penalized. -/
def poolMinipools (minipools : List MinipoolDetails) : Array PoolMinipool :=
  let (taken, penalized) := takeIn #[] (minipools.filter (·.isStaking))
  if penalized then #[] else taken

/-! ### What is taken in

The scan stops at the first penalized minipool, and by then it may have taken in others, which
are dropped again.  Where it does not stop it has taken in all of them.  Where it stops makes
no difference, so the order of the minipools decides nothing but the order of those taken in.
-/

theorem takeIn_of_clean {minipools : List MinipoolDetails}
    (h : ∀ minipool ∈ minipools, minipool.penalties < penaltyThreshold) (taken : Array PoolMinipool) :
    takeIn taken minipools = (taken ++ (minipools.map .ofDetails).toArray, false) := by
  induction minipools generalizing taken with
  | nil => simp [takeIn]
  | cons minipool rest ih =>
    obtain ⟨hfirst, hrest⟩ := List.forall_mem_cons.mp h
    rw [takeIn, if_neg (UInt64.not_le.mpr hfirst), ih hrest]
    simp

theorem takeIn_of_penalized {minipools : List MinipoolDetails} {minipool : MinipoolDetails}
    (hmem : minipool ∈ minipools) (hcount : penaltyThreshold ≤ minipool.penalties)
    (taken : Array PoolMinipool) : (takeIn taken minipools).2 = true := by
  induction minipools generalizing taken with
  | nil => exact absurd hmem List.not_mem_nil
  | cons first rest ih =>
    rw [takeIn]
    by_cases hfirst : first.penalties ≥ penaltyThreshold
    · rw [if_pos hfirst]
    · rw [if_neg hfirst]
      obtain rfl | hrest := List.mem_cons.mp hmem
      · exact absurd hcount hfirst
      · exact ih hrest _

/-- One penalized minipool that is at work, wherever it stands, keeps all of them out. -/
theorem poolMinipools_eq_empty {minipools : List MinipoolDetails} {minipool : MinipoolDetails}
    (hmem : minipool ∈ minipools) (hstaking : minipool.isStaking = true)
    (hcount : penaltyThreshold ≤ minipool.penalties) : poolMinipools minipools = #[] :=
  if_pos (takeIn_of_penalized (List.mem_filter.mpr ⟨hmem, hstaking⟩) hcount #[])

/-- Otherwise all that are at work come in, in their order. -/
theorem poolMinipools_eq_map {minipools : List MinipoolDetails}
    (h : ∀ minipool ∈ minipools, minipool.isStaking = true → minipool.penalties < penaltyThreshold) :
    poolMinipools minipools = ((minipools.filter (·.isStaking)).map .ofDetails).toArray := by
  have hclean : ∀ minipool ∈ minipools.filter (·.isStaking), minipool.penalties < penaltyThreshold := by
    intro minipool hmem
    obtain ⟨hmem, hstaking⟩ := List.mem_filter.mp hmem
    exact h minipool hmem hstaking
  unfold poolMinipools
  rw [takeIn_of_clean hclean]
  simp

/-- What is taken in without the scan: all or nothing. -/
theorem toList_poolMinipools (minipools : List MinipoolDetails) :
    (poolMinipools minipools).toList =
      if (minipools.filter (·.isStaking)).any fun minipool => minipool.penalties ≥ penaltyThreshold then []
      else (minipools.filter (·.isStaking)).map .ofDetails := by
  by_cases hany : (minipools.filter (·.isStaking)).any fun minipool => minipool.penalties ≥ penaltyThreshold
  · rw [if_pos hany]
    obtain ⟨minipool, hfound, hcount⟩ := List.any_eq_true.mp hany
    obtain ⟨hmem, hstaking⟩ := List.mem_filter.mp hfound
    rw [poolMinipools_eq_empty hmem hstaking (of_decide_eq_true hcount)]
  · rw [if_neg hany, poolMinipools_eq_map]
    intro minipool hmem hstaking
    refine UInt64.not_le.mp fun hcount => hany ?_
    exact List.any_eq_true.mpr ⟨minipool, List.mem_filter.mpr ⟨hmem, hstaking⟩, decide_eq_true hcount⟩

/-- A node of the snapshot with its minipools, before any duty. -/
def PoolNode.ofDetails (node : NodeDetails) (minipools : List MinipoolDetails) : PoolNode :=
  let own := poolMinipools minipools
  { address := node.address
    rewardNetwork := node.rewardNetwork
    optedIn := node.optedIn
    joined := if node.optedIn then node.optChanged else 0
    left := if node.optedIn then Word.last else node.optChanged
    eligible := !own.isEmpty
    minipools := own
    eth := 0 }

/-- Every node of the snapshot in its order, before any duty. -/
def Snapshot.poolNodes (snapshot : Snapshot) : Array PoolNode :=
  let groups := groupBy MinipoolDetails.node snapshot.minipools
  (snapshot.nodes.map fun node => .ofDetails node (groups[node.address]?.getD [])).toArray

end PoolRewards
