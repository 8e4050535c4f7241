/-
What stands at a place of a tracker.

Every step of the walk changes a tracker through `modifyAt` alone, and only the duties of
the minipool at that place: the slots owed, fulfilled and completed, and the score.  So a
tracker is split in two.  Its frame is what is left when all duties are forgotten, and no
step changes it; who owes an attestation at a time is read off the frame.  The duties
themselves are looked up place by place, and added up over all places.
-/
import PoolRewards.Duties.Tracker
import PoolRewards.Proofs.Sums

namespace PoolRewards

/-- The minipool without its duties. -/
def PoolMinipool.cleared (minipool : PoolMinipool) : PoolMinipool :=
  { minipool with owed := ∅, fulfilled := ∅, completed := ∅, score := 0 }

/-- The node without the duties of its minipools. -/
def PoolNode.cleared (node : PoolNode) : PoolNode :=
  { node with minipools := node.minipools.map (·.cleared) }

/-- The node without its minipools. -/
def PoolNode.bare (node : PoolNode) : PoolNode := { node with minipools := #[] }

/-- The minipools of some nodes, in order. -/
def minipoolsOf (nodes : Array PoolNode) : List PoolMinipool :=
  nodes.toList.flatMap fun node => node.minipools.toList

theorem mem_minipoolsOf {nodes : Array PoolNode} {minipool : PoolMinipool} :
    minipool ∈ minipoolsOf nodes ↔ ∃ node ∈ nodes, minipool ∈ node.minipools := by
  unfold minipoolsOf
  rw [List.mem_flatMap]
  simp only [Array.mem_toList_iff]

namespace Tracker

variable {tracker : Tracker} {place other : Place} {node : PoolNode} {minipool : PoolMinipool}
  {f : PoolMinipool → PoolMinipool}

theorem at?_eq_some :
    tracker.at? place = some (node, minipool) ↔
      tracker.nodes[place.node]? = some node ∧ node.minipools[place.minipool]? = some minipool := by
  unfold at?
  refine ⟨?_, ?_⟩
  · intro h
    obtain ⟨n, hn, h⟩ := Option.bind_eq_some_iff.mp h
    obtain ⟨m, hm, h⟩ := Option.bind_eq_some_iff.mp h
    cases h
    exact ⟨hn, hm⟩
  · intro h'
    obtain ⟨hn, hm⟩ := h'
    simp [hn, hm]

theorem exists_place (hnode : node ∈ tracker.nodes) (hmem : minipool ∈ node.minipools) :
    ∃ place, tracker.at? place = some (node, minipool) := by
  obtain ⟨i, hn⟩ := Array.getElem?_of_mem hnode
  obtain ⟨j, hm⟩ := Array.getElem?_of_mem hmem
  exact ⟨⟨i, j⟩, at?_eq_some.mpr ⟨hn, hm⟩⟩

/-- What holds of the minipools at any two places holds of any two minipools. -/
theorem pairwise_minipoolsOf {R : PoolMinipool → PoolMinipool → Prop}
    (h : ∀ place other node minipool node' minipool', place ≠ other →
      tracker.at? place = some (node, minipool) → tracker.at? other = some (node', minipool') →
        R minipool minipool') : (minipoolsOf tracker.nodes).Pairwise R := by
  unfold minipoolsOf
  rw [List.pairwise_flatMap]
  refine ⟨?_, ?_⟩
  · intro node hnode
    obtain ⟨i, hn⟩ := Array.getElem?_of_mem (Array.mem_toList_iff.mp hnode)
    rw [List.pairwise_iff_getElem]
    intro j k hj hk hlt
    refine h ⟨i, j⟩ ⟨i, k⟩ node _ node _ ?_ (at?_eq_some.mpr ⟨hn, ?_⟩) (at?_eq_some.mpr ⟨hn, ?_⟩)
    · simp only [ne_eq, Place.mk.injEq, true_and]
      omega
    · exact Array.getElem?_eq_getElem (by simpa using hj)
    · exact Array.getElem?_eq_getElem (by simpa using hk)
  · rw [List.pairwise_iff_getElem]
    intro i k hi hk hlt minipool hm minipool' hm'
    obtain ⟨j, hm⟩ := Array.getElem?_of_mem (Array.mem_toList_iff.mp hm)
    obtain ⟨j', hm'⟩ := Array.getElem?_of_mem (Array.mem_toList_iff.mp hm')
    refine h ⟨i, j⟩ ⟨k, j'⟩ _ _ _ _ ?_ (at?_eq_some.mpr ⟨?_, hm⟩) (at?_eq_some.mpr ⟨?_, hm'⟩)
    · simp only [ne_eq, Place.mk.injEq, not_and]
      omega
    · exact Array.getElem?_eq_getElem (by simpa using hi)
    · exact Array.getElem?_eq_getElem (by simpa using hk)

/-! ### Changing one place

Nodes and minipools stand in arrays, and a change is made in place.  Every other place keeps
its minipool; its node may be the changed one, but only among its minipools.
-/

/-- The node after a change of one of its minipools. -/
def withMinipoolAt (node : PoolNode) (i : Nat) (f : PoolMinipool → PoolMinipool) : PoolNode :=
  { node with minipools := node.minipools.modify i f }

theorem nodes_modifyAt (i : Nat) :
    (tracker.modifyAt place f).nodes[i]? =
      if place.node = i then tracker.nodes[i]?.map (withMinipoolAt · place.minipool f)
      else tracker.nodes[i]? :=
  Array.getElem?_modify

theorem at?_modifyAt_self (h : tracker.at? place = some (node, minipool)) :
    (tracker.modifyAt place f).at? place =
      some (withMinipoolAt node place.minipool f, f minipool) := by
  obtain ⟨hn, hm⟩ := at?_eq_some.mp h
  rw [at?_eq_some, nodes_modifyAt, if_pos rfl, hn]
  refine ⟨rfl, ?_⟩
  simp [withMinipoolAt, Array.getElem?_modify, hm]

/-- The minipool at a place after a change of the one at `place`, in the same node as before
up to its minipools. -/
theorem at?_modifyAt (h : (tracker.modifyAt place f).at? other = some (node, minipool)) :
    ∃ node' minipool', tracker.at? other = some (node', minipool') ∧
      minipool = (if place = other then f minipool' else minipool') ∧
      node.isOptedInAt = node'.isOptedInAt ∧ node.eligible = node'.eligible := by
  obtain ⟨hn, hm⟩ := at?_eq_some.mp h
  rw [nodes_modifyAt] at hn
  by_cases hnode : place.node = other.node
  · rw [if_pos hnode] at hn
    obtain ⟨node', hn', rfl⟩ := Option.map_eq_some_iff.mp hn
    have hm' : (node'.minipools.modify place.minipool f)[other.minipool]? = some minipool := hm
    rw [Array.getElem?_modify] at hm'
    by_cases hpool : place.minipool = other.minipool
    · rw [if_pos hpool] at hm'
      obtain ⟨minipool', hat, rfl⟩ := Option.map_eq_some_iff.mp hm'
      have hplace : place = other := by
        cases place
        cases other
        simp_all
      exact ⟨node', minipool', at?_eq_some.mpr ⟨hn', hat⟩, by rw [if_pos hplace], rfl, rfl⟩
    · rw [if_neg hpool] at hm'
      have hplace : place ≠ other := fun hc => hpool (by rw [hc])
      exact ⟨node', minipool, at?_eq_some.mpr ⟨hn', hm'⟩, by rw [if_neg hplace], rfl, rfl⟩
  · rw [if_neg hnode] at hn
    have hplace : place ≠ other := fun hc => hnode (by rw [hc])
    exact ⟨node, minipool, at?_eq_some.mpr ⟨hn, hm⟩, by rw [if_neg hplace], rfl, rfl⟩

theorem at?_modifyAt_of_ne (hne : place ≠ other) (h : tracker.at? other = some (node, minipool)) :
    ∃ node', (tracker.modifyAt place f).at? other = some (node', minipool) ∧
      node'.isOptedInAt = node.isOptedInAt ∧ node'.eligible = node.eligible := by
  obtain ⟨hn, hm⟩ := at?_eq_some.mp h
  by_cases hnode : place.node = other.node
  · refine ⟨withMinipoolAt node place.minipool f, at?_eq_some.mpr ⟨?_, ?_⟩, rfl, rfl⟩
    · rw [nodes_modifyAt, if_pos hnode, hn]
      rfl
    · have hpool : place.minipool ≠ other.minipool := by
        intro hc
        apply hne
        cases place
        cases other
        simp_all
      show (node.minipools.modify place.minipool f)[other.minipool]? = some minipool
      rw [Array.getElem?_modify, if_neg hpool, hm]
  · refine ⟨node, at?_eq_some.mpr ⟨?_, hm⟩, rfl, rfl⟩
    rw [nodes_modifyAt, if_neg hnode, hn]

/-- Two changes of one place are one. -/
theorem modifyAt_modifyAt (f g : PoolMinipool → PoolMinipool) :
    (tracker.modifyAt place f).modifyAt place g = tracker.modifyAt place fun m => g (f m) := by
  have hnode : ∀ node : PoolNode, withMinipoolAt (withMinipoolAt node place.minipool f) place.minipool g =
      withMinipoolAt node place.minipool fun m => g (f m) := by
    intro node
    simp only [withMinipoolAt, PoolNode.mk.injEq, true_and, and_true]
    apply Array.ext_getElem?
    intro j
    simp only [Array.getElem?_modify]
    split
    · rw [Option.map_map]
      rfl
    · rfl
  have hnodes : ((tracker.modifyAt place f).modifyAt place g).nodes =
      (tracker.modifyAt place fun m => g (f m)).nodes := by
    apply Array.ext_getElem?
    intro i
    simp only [nodes_modifyAt]
    split
    · rw [Option.map_map]
      congr 1
      funext node
      exact hnode node
    · rfl
  show ({ tracker with nodes := ((tracker.modifyAt place f).modifyAt place g).nodes } : Tracker) =
    { tracker with nodes := (tracker.modifyAt place fun m => g (f m)).nodes }
  rw [hnodes]

/-- Two changes that do the same to the minipool at a place are one change. -/
theorem modifyAt_congr {g : PoolMinipool → PoolMinipool}
    (h : tracker.at? place = some (node, minipool)) (hfg : f minipool = g minipool) :
    tracker.modifyAt place f = tracker.modifyAt place g := by
  obtain ⟨hn, hm⟩ := at?_eq_some.mp h
  have hnode : withMinipoolAt node place.minipool f = withMinipoolAt node place.minipool g := by
    simp only [withMinipoolAt, PoolNode.mk.injEq, true_and, and_true]
    apply Array.ext_getElem?
    intro j
    simp only [Array.getElem?_modify]
    split
    · next hj => rw [← hj, hm, Option.map_some, Option.map_some, hfg]
    · rfl
  have hnodes : (tracker.modifyAt place f).nodes = (tracker.modifyAt place g).nodes := by
    apply Array.ext_getElem?
    intro i
    simp only [nodes_modifyAt]
    split
    · next hi => rw [← hi, hn, Option.map_some, Option.map_some, hnode]
    · rfl
  show ({ tracker with nodes := (tracker.modifyAt place f).nodes } : Tracker) =
    { tracker with nodes := (tracker.modifyAt place g).nodes }
  rw [hnodes]

theorem exists_at?_modifyAt (h : tracker.at? other = some (node, minipool)) :
    ∃ node minipool, (tracker.modifyAt place f).at? other = some (node, minipool) := by
  by_cases hplace : place = other
  · subst hplace
    exact ⟨_, _, at?_modifyAt_self h⟩
  · obtain ⟨node', hat, -⟩ := at?_modifyAt_of_ne hplace h
    exact ⟨node', minipool, hat⟩

/-! ### Who owes an attestation

The place of a tracked validator is looked up where its node and its minipool should stand,
and it is a fault if they do not.  On a tracker that reaches every place it tracks, the
lookup has a result, and it is the place of a minipool that is due: `owing?` is that result
and `recordAt` what comes of a committee with it.
-/

/-- Every minipool that is tracked is there. -/
def Reaches (tracker : Tracker) : Prop :=
  ∀ (validator : UInt64) (place : Place), tracker.validators[validator]? = some place →
    ∃ node minipool, tracker.at? place = some (node, minipool)

/-- The place of a validator that owes an attestation at a time. -/
def owing? (tracker : Tracker) (time validator : UInt64) : Option Place := do
  let place ← tracker.validators[validator]?
  let (node, minipool) ← tracker.at? place
  if node.isOptedInAt time && minipool.stakingSince ≤ time then some place else none

/-- The members of a committee that owe an attestation at a time, by position. -/
def owingMembers (tracker : Tracker) (time : UInt64) (committee : Committee) : List (Nat × Place) :=
  committee.validators.zipIdx.filterMap fun (validator, position) =>
    (tracker.owing? time validator).map fun place => (position, place)

/-- The minipools at places owe an attestation at a slot. -/
def owe (tracker : Tracker) (slot : UInt64) (places : List Place) : Tracker :=
  places.foldl (fun tracker place => tracker.modifyAt place (·.owe slot)) tracker

/-- The tracker with a committee taken in whose slot starts at a time. -/
def recordAt (tracker : Tracker) (time : UInt64) (committee : Committee) : Tracker :=
  let members := tracker.owingMembers time committee
  let owed := tracker.owe committee.slot (members.map (·.2))
  if members.isEmpty then owed else owed.openFor ⟨committee.slot, committee.index⟩ members

theorem Reaches.modifyAt (h : tracker.Reaches) : (tracker.modifyAt place f).Reaches := by
  intro validator other hv
  obtain ⟨node, minipool, hat⟩ := h validator other hv
  exact exists_at?_modifyAt hat

/-- **Where every tracked minipool is there, no lookup of one has a fault.** -/
theorem Reaches.owing (h : tracker.Reaches) (time validator : UInt64) :
    tracker.owing time validator = .ok (tracker.owing? time validator) := by
  unfold Tracker.owing owing?
  rcases hv : tracker.validators[validator]? with _ | place
  · rfl
  · obtain ⟨node, minipool, hat⟩ := h validator place hv
    obtain ⟨hn, hm⟩ := at?_eq_some.mp hat
    simp only [elementAt_eq_ok hn, elementAt_eq_ok hm, hat, Option.bind_some, bind, Except.bind, pure,
      Except.pure]
    by_cases hopt : node.isOptedInAt time
    · by_cases hstake : minipool.stakingSince ≤ time <;> simp [hopt, hstake]
    · simp [hopt]

/-! ### The frame

Two trackers have one frame if they differ in duties alone.  All steps on duties keep the
frame, so what depends on nothing else is proved once, of the frame.
-/

/-- The tracker without any duties. -/
def frame (tracker : Tracker) : Tracker :=
  { tracker with nodes := tracker.nodes.map (·.cleared), duties := ∅, totals := ⟨0, 0⟩ }

theorem frame_modifyAt (h : ∀ minipool, (f minipool).cleared = minipool.cleared) :
    (tracker.modifyAt place f).frame = tracker.frame := by
  have hnode : ∀ node : PoolNode,
      (withMinipoolAt node place.minipool f).cleared = node.cleared := by
    intro node
    simp only [PoolNode.cleared, withMinipoolAt, PoolNode.mk.injEq, true_and, and_true]
    apply Array.ext_getElem?
    intro i
    simp only [Array.getElem?_map, Array.getElem?_modify]
    split
    · cases node.minipools[i]? <;> simp [h]
    · rfl
  have hnodes : (tracker.modifyAt place f).nodes.map (·.cleared) =
      tracker.nodes.map (·.cleared) := by
    apply Array.ext_getElem?
    intro i
    simp only [Array.getElem?_map, nodes_modifyAt]
    split
    · cases tracker.nodes[i]? <;> simp [hnode]
    · rfl
  show ({ tracker with nodes := _, duties := ∅, totals := ⟨0, 0⟩ } : Tracker) = tracker.frame
  rw [hnodes]
  rfl

theorem at?_frame :
    tracker.frame.at? place = (tracker.at? place).map fun x => (x.1.cleared, x.2.cleared) := by
  unfold at? frame
  rcases hn : tracker.nodes[place.node]? with _ | node
  · simp [hn]
  · rcases hm : node.minipools[place.minipool]? with _ | minipool
    · simp [hn, hm, PoolNode.cleared]
    · simp [hn, hm, PoolNode.cleared]

/-- Trackers of one frame have the same places, of nodes and minipools that differ in duties only. -/
theorem at?_of_frame {tracker' : Tracker} (hframe : tracker'.frame = tracker.frame)
    (h : tracker.at? place = some (node, minipool)) :
    ∃ node' minipool', tracker'.at? place = some (node', minipool') ∧
      node'.cleared = node.cleared ∧ minipool'.cleared = minipool.cleared := by
  have heq : (tracker'.at? place).map (fun x => (x.1.cleared, x.2.cleared)) =
      some (node.cleared, minipool.cleared) := by
    rw [← at?_frame, hframe, at?_frame, h]
    rfl
  obtain ⟨⟨node', minipool'⟩, hat, hx⟩ := Option.map_eq_some_iff.mp heq
  simp only [Prod.mk.injEq] at hx
  exact ⟨node', minipool', hat, hx.1, hx.2⟩

/-- Who owes an attestation at a time is a matter of the frame. -/
theorem owing?_of_frame {tracker' : Tracker} (hframe : tracker'.frame = tracker.frame) :
    tracker'.owing? = tracker.owing? := by
  have hv : tracker'.validators = tracker.validators := congrArg (·.validators) hframe
  have key : ∀ t : Tracker, t.frame.owing? = t.owing? := by
    intro t
    funext time validator
    show (t.validators[validator]?.bind fun place => _) = (t.validators[validator]?.bind fun place => _)
    congr 1
    funext place
    rw [at?_frame]
    rcases t.at? place with _ | ⟨node, minipool⟩ <;> rfl
  rw [← key tracker', hframe, key]

/-! ### Adding up over all places

The minipools of all nodes are listed one after the other.  A change of one place changes
one member of that list.
-/

/-- Changing the minipool at a place changes a sum over all minipools by that minipool alone. -/
theorem sum_modifyAt {M : Type*} [AddCancelCommMonoid M] (g : PoolMinipool → M)
    (h : tracker.at? place = some (node, minipool)) :
    ((minipoolsOf (tracker.modifyAt place f).nodes).map g).sum + g minipool =
      ((minipoolsOf tracker.nodes).map g).sum + g (f minipool) := by
  obtain ⟨hn, hm⟩ := at?_eq_some.mp h
  have hsum : ∀ nodes : Array PoolNode, ((minipoolsOf nodes).map g).sum =
      (nodes.toList.map fun node => (node.minipools.toList.map g).sum).sum := by
    intro nodes
    unfold minipoolsOf
    induction nodes.toList with
    | nil => rfl
    | cons node rest ih => simp [ih]
  have hinner := sum_map_modify g f node.minipools.toList place.minipool minipool (by simpa using hm)
  have houter := sum_map_modify (fun node => (node.minipools.toList.map g).sum)
    (withMinipoolAt · place.minipool f) tracker.nodes.toList place.node node (by simpa using hn)
  rw [hsum, hsum]
  have hnodes : (tracker.modifyAt place f).nodes.toList =
      tracker.nodes.toList.modify place.node (withMinipoolAt · place.minipool f) :=
    Array.toList_modify
  have hnew : (withMinipoolAt node place.minipool f).minipools.toList =
      node.minipools.toList.modify place.minipool f := Array.toList_modify
  simp only [hnew] at houter
  rw [hnodes]
  -- The node's own sum stands on both sides and is cancelled.
  refine add_right_cancel (b := (node.minipools.toList.map g).sum) ?_
  rw [add_right_comm, houter, add_assoc, hinner, add_right_comm, add_assoc]

end Tracker

end PoolRewards
