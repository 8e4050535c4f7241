/-
Which attestations the pool's validators owe, and which of them have been seen.

A committee of a slot of the interval makes its members owe an attestation, if they are
validators of the pool whose node is in the pool at that time.  The owed attestations are
kept by slot, committee and position until an attestation shows the bit of the position,
or until it is too late for one to appear.  They tell where a minipool stands and not which
it is, and a place where none stands is a fault.

Three steps work on a tracker: `record` takes in committees, `check` takes in
attestations, and `prune` drops what can no longer be met.
-/
import PoolRewards.Pool.Basic
import PoolRewards.Beacon.Records
import PoolRewards.Interval.Bounds

namespace PoolRewards

open Std (ExtTreeMap)

/-- Where a minipool stands: the position of its node, and its own among the node's. -/
structure Place where
  node : Nat
  minipool : Nat
  deriving DecidableEq, Repr

/-- A committee of a slot. -/
structure DutyKey where
  slot : UInt64
  committee : UInt64
  deriving DecidableEq, Repr

namespace DutyKey

/-- Keys are ordered by slot, then by committee. -/
instance : Ord DutyKey := ⟨compareLex (compareOn slot) (compareOn committee)⟩

instance : Std.TransOrd DutyKey :=
  inferInstanceAs (Std.TransCmp (compareLex (compareOn slot) (compareOn committee)))

instance : Std.LawfulEqOrd DutyKey where
  eq_of_compare {a b} h := by
    have h : (compare a.slot b.slot).then (compare a.committee b.committee) = .eq := h
    rw [Ordering.then_eq_eq] at h
    cases a
    cases b
    simp only [DutyKey.mk.injEq]
    exact ⟨Std.LawfulEqCmp.eq_of_compare h.1, Std.LawfulEqCmp.eq_of_compare h.2⟩

end DutyKey

/-- What all minipools together have reached. -/
structure AttestationTotals where
  score : Amount
  successful : UInt64
  deriving DecidableEq, Repr

/-- The state of the search for attestations. -/
structure Tracker where
  config : BeaconConfig
  bounds : IntervalBounds
  nodes : Array PoolNode
  /-- The minipool of each tracked validator. -/
  validators : ExtTreeMap UInt64 Place
  /-- The attestations that are owed and have not been seen, by position in the committee. -/
  duties : ExtTreeMap DutyKey (ExtTreeMap Nat Place)
  totals : AttestationTotals
  deriving DecidableEq

/-- A computation on a tracker.  What it has done before it stops stays done. -/
abbrev Tracking := ExceptT Fault (StateM Tracker)

namespace Tracker

/-- The minipool at a place, with its node. -/
def at? (tracker : Tracker) (place : Place) : Option (PoolNode × PoolMinipool) := do
  let node ← tracker.nodes[place.node]?
  let minipool ← node.minipools[place.minipool]?
  return (node, minipool)

/-- Change the minipool at a place. -/
def modifyAt (tracker : Tracker) (place : Place) (f : PoolMinipool → PoolMinipool) : Tracker :=
  { tracker with
    nodes := tracker.nodes.modify place.node fun node =>
      { node with minipools := node.minipools.modify place.minipool f } }

/-! ### Which validators are tracked -/

/--
The validator of a minipool, unless it has none or its validator cannot have had a duty:
it is still pending, it was never due to become active or only after the interval, or it
had left before the interval.
-/
def trackedValidator (snapshot : Snapshot) (bounds : IntervalBounds) (pubkey : PublicKey) :
    Except Fault (Option UInt64) := do
  match snapshot.validators[pubkey]? with
  | none => return none
  | some status =>
    if status.state.isPending ∨ status.activationEpoch = farEpoch then
      return none
    if bounds.lastSlot < (← snapshot.config.firstSlotOf status.activationEpoch) then
      return none
    if status.exitEpoch ≠ farEpoch then
      if (← snapshot.config.firstSlotOf status.exitEpoch) < bounds.firstSlot then
        return none
    return some status.index

/-- The places of all minipools of eligible nodes, in order. -/
def eligiblePlaces (nodes : Array PoolNode) : List Place :=
  nodes.toList.zipIdx.flatMap fun (node, i) =>
    if node.eligible then (List.range node.minipools.size).map fun j => ⟨i, j⟩ else []

/-- Link the minipool at a place to its validator, or mark it inactive. -/
def link (snapshot : Snapshot) (place : Place) : Tracking Unit := do
  let tracker ← get
  match tracker.at? place with
  | none => return
  | some (_, minipool) =>
    match ← (.mk (pure (trackedValidator snapshot tracker.bounds minipool.pubkey)) : Tracking _) with
    | none => set (tracker.modifyAt place fun minipool => { minipool with wasActive := false })
    | some validator =>
      set { tracker.modifyAt place fun minipool => { minipool with validator := some validator } with
        validators := tracker.validators.insert validator place }

/-- Link the minipools at places, in order.  Of two with one validator the last is tracked. -/
def linkAll (snapshot : Snapshot) : List Place → Tracking Unit
  | [] => return
  | place :: rest => do
    link snapshot place
    linkAll snapshot rest

/-- A tracker that tracks no validator. -/
def idle (config : BeaconConfig) (bounds : IntervalBounds) (nodes : Array PoolNode) : Tracker where
  config := config
  bounds := bounds
  nodes := nodes
  validators := ∅
  duties := ∅
  totals := ⟨0, 0⟩

/-- Track the validators of the eligible nodes.  The tracker is what has been reached, also behind a fault. -/
def new (snapshot : Snapshot) (bounds : IntervalBounds) (nodes : Array PoolNode) :
    Except Fault Unit × Tracker :=
  (linkAll snapshot (eligiblePlaces nodes)).run.run (idle snapshot.config bounds nodes)

/-! ### Committees -/

/-- The place of a validator, if it is tracked and owes an attestation at a time. -/
def owing (tracker : Tracker) (time validator : UInt64) : Except Fault (Option Place) :=
  match tracker.validators[validator]? with
  | none => return none
  | some place => do
    let node ← elementAt tracker.nodes place.node
    if !node.isOptedInAt time then
      return none
    let minipool ← elementAt node.minipools place.minipool
    return if minipool.stakingSince ≤ time then some place else none

/-- The members of a committee that owe an attestation owe it from now on.  They are told by position. -/
def recordMembers (slot time : UInt64) : List (UInt64 × Nat) → Tracking (List (Nat × Place))
  | [] => return []
  | (validator, position) :: rest => do
    match ← (.mk (pure ((← get).owing time validator)) : Tracking _) with
    | none => recordMembers slot time rest
    | some place =>
      modify (·.modifyAt place (·.owe slot))
      return (position, place) :: (← recordMembers slot time rest)

/-- The tracker with the positions of a committee open. -/
def openFor (tracker : Tracker) (key : DutyKey) (members : List (Nat × Place)) : Tracker :=
  { tracker with duties := tracker.duties.insert key (.ofList members) }

/-- Take in a committee whose slot starts at a time. -/
def recordOne (time : UInt64) (committee : Committee) : Tracking Unit := do
  let members ← recordMembers committee.slot time committee.validators.zipIdx
  if !members.isEmpty then
    modify (·.openFor ⟨committee.slot, committee.index⟩ members)

/-- Take in committees.  One of a slot outside the interval says nothing. -/
def record : List Committee → Tracking Unit
  | [] => return
  | committee :: rest => do
    let tracker ← get
    if tracker.bounds.contains committee.slot then
      let time ← (.mk (pure (tracker.config.slotTime committee.slot)) : Tracking _)
      recordOne time committee
    record rest

/-! ### Attestations -/

/-- Count one attestation that is worth a score. -/
def count (score : Amount) : Tracking Unit := do
  modify fun tracker => { tracker with totals.score := tracker.totals.score + score }
  let tracker ← get
  let successful ← (.mk (pure (Word.add tracker.totals.successful 1)) : Tracking _)
  set { tracker with totals.successful := successful }

/--
The minipool at a place has met its duty of a slot.  It counts once for each slot, and
only if the node is in the pool at that time.
-/
def fulfill (slot time : UInt64) (place : Place) : Tracking Unit := do
  let node ← (.mk (pure (elementAt (← get).nodes place.node)) : Tracking _)
  let minipool ← (.mk (pure (elementAt node.minipools place.minipool)) : Tracking _)
  if minipool.fulfilled.contains slot then
    return
  modify (·.modifyAt place (·.fulfill slot))
  if node.isOptedInAt time then
    modify (·.modifyAt place (·.complete slot time))
    count (minipool.bond.scoreAt time)

/-- The minipools at places have met their duty of a slot. -/
def fulfillAll (slot time : UInt64) : List Place → Tracking Unit
  | [] => return
  | place :: rest => do
    fulfill slot time place
    fulfillAll slot time rest

/-- The tracker with only some positions of a committee still owing. -/
def leave (tracker : Tracker) (key : DutyKey) (positions : ExtTreeMap Nat Place) : Tracker :=
  { tracker with
    duties := if positions.isEmpty then tracker.duties.erase key else tracker.duties.insert key positions }

/-- Take in attestations.  One for which nothing is owed says nothing. -/
def check : List Attestation → Tracking Unit
  | [] => return
  | attestation :: rest => do
    let tracker ← get
    let key : DutyKey := ⟨attestation.slot, attestation.committee⟩
    match tracker.duties[key]? with
    | none => check rest
    | some positions =>
      let time ← (.mk (pure (tracker.config.slotTime attestation.slot)) : Tracking _)
      let seen := positions.filter fun position _ => attestation.bits.has position
      let unseen := positions.filter fun position _ => !attestation.bits.has position
      set (tracker.leave key unseen)
      fulfillAll attestation.slot time (seen.toList.map (·.2))
      check rest

/-- Take in the attestations of several blocks. -/
def checkAll : List (List Attestation) → Tracking Unit
  | [] => return
  | attestations :: rest => do
    check attestations
    checkAll rest

/-! ### Duties that are past -/

/-- Drop the duties of slots before `oldest`. -/
def dropBefore (tracker : Tracker) (oldest : UInt64) : Tracker :=
  { tracker with duties := tracker.duties.filter fun key _ => oldest ≤ key.slot }

/--
Drop what can no longer be met once an epoch is over: an attestation appears in the epoch
of its slot or in the next one.
-/
def prune (epoch : UInt64) : Tracking Unit := do
  let oldest ← (.mk (pure ((← get).config.firstSlotOf (Word.less epoch 1))) : Tracking _)
  modify (·.dropBefore oldest)

end Tracker

end PoolRewards
