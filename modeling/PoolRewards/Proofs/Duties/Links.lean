/-
The tracker that a walk starts from.

Linking visits every minipool of an eligible node once.  It resolves the minipool's
validator from the snapshot alone, so each node afterwards is a function of the node
before, whatever the order; only which of two minipools with one validator is tracked
depends on it.  If the minipools come without duties, the tracker is sound.
-/
import Mathlib.Data.List.Sigma
import PoolRewards.Proofs.Duties.Matching

namespace PoolRewards

open Std (ExtTreeMap)

/-- The minipool once its validator is known, or known to have had no duties. -/
def PoolMinipool.linked (snapshot : Snapshot) (bounds : IntervalBounds) (minipool : PoolMinipool) :
    PoolMinipool :=
  match Tracker.trackedValidator snapshot bounds minipool.pubkey with
  | .ok (some validator) => { minipool with validator := some validator }
  | .ok none => { minipool with wasActive := false }
  | .error _ => minipool

/-- The node once all its minipools are linked, if it takes part. -/
def PoolNode.linked (snapshot : Snapshot) (bounds : IntervalBounds) (node : PoolNode) : PoolNode :=
  if node.eligible then { node with minipools := node.minipools.map (·.linked snapshot bounds) }
  else node

namespace Tracker

variable {tracker after : Tracker} {snapshot : Snapshot} {bounds : IntervalBounds}
  {validator : UInt64} {place other : Place} {node : PoolNode} {minipool : PoolMinipool}
  {nodes : Array PoolNode}

/-! ### Places

The places are listed node by node, and within a node minipool by minipool.  A node that
takes no part has none.
-/

theorem mem_eligiblePlaces :
    place ∈ eligiblePlaces nodes ↔
      ∃ node, nodes[place.node]? = some node ∧ node.eligible = true ∧
        place.minipool < node.minipools.size := by
  unfold eligiblePlaces
  rw [List.mem_flatMap]
  refine ⟨?_, ?_⟩
  · intro h
    obtain ⟨⟨node, i⟩, hmem, hplace⟩ := h
    have hat : nodes[i]? = some node := by
      rw [← Array.getElem?_toList]
      exact List.mem_zipIdx_iff_getElem?.mp hmem
    by_cases helig : node.eligible = true
    · have hplace : place ∈ (List.range node.minipools.size).map (Place.mk i) := by
        simpa [helig] using hplace
      obtain ⟨j, hj, rfl⟩ := List.mem_map.mp hplace
      exact ⟨node, hat, helig, List.mem_range.mp hj⟩
    · simp [helig] at hplace
  · intro h
    obtain ⟨node, hat, helig, hlt⟩ := h
    refine ⟨(node, place.node), List.mem_zipIdx_iff_getElem?.mpr ?_, ?_⟩
    · rw [Array.getElem?_toList]
      exact hat
    · simp only [helig, if_true]
      exact List.mem_map.mpr ⟨place.minipool, List.mem_range.mpr hlt, rfl⟩

theorem nodup_eligiblePlaces : (eligiblePlaces nodes).Nodup := by
  have hplaces : ∀ (x : PoolNode × Nat) (place : Place),
      (place ∈ if x.1.eligible = true then (List.range x.1.minipools.size).map (Place.mk x.2) else []) →
        place.node = x.2 := by
    intro x place hmem
    split at hmem
    · obtain ⟨j, -, rfl⟩ := List.mem_map.mp hmem
      rfl
    · cases hmem
  unfold eligiblePlaces
  rw [List.nodup_flatMap]
  refine ⟨?_, ?_⟩
  · intro entry _
    obtain ⟨node, i⟩ := entry
    show (if node.eligible = true then (List.range node.minipools.size).map (Place.mk i) else []).Nodup
    split
    · exact List.nodup_range.map fun a b h => by injection h
    · exact List.nodup_nil
  · have hnodup := List.nodup_zipIdx_map_snd nodes.toList
    rw [List.Nodup, List.pairwise_map] at hnodup
    refine hnodup.imp ?_
    intro x y hne place hx hy
    exact hne ((hplaces x place hx).symm.trans (hplaces y place hy))

/-! ### One link

A link changes the minipool at its place and enters the validator.  What it makes of the
minipool depends on the minipool and the snapshot alone, so the nodes come out the same for
every order of places.
-/

/-- The validator that the minipool at a place is found to have. -/
def aimAt (tracker : Tracker) (snapshot : Snapshot) (place : Place) :
    Except Fault (Option UInt64) :=
  match tracker.at? place with
  | some (_, minipool) => trackedValidator snapshot tracker.bounds minipool.pubkey
  | none => .ok none

/-- The `i`-th node once its minipools at some places are linked. -/
def linkedAt (snapshot : Snapshot) (bounds : IntervalBounds) (places : List Place) (i : Nat)
    (node : PoolNode) : PoolNode :=
  { node with minipools := node.minipools.mapIdx fun j minipool =>
      if ⟨i, j⟩ ∈ places then minipool.linked snapshot bounds else minipool }

/-- The tracker `after` has the minipools at some places linked. -/
structure Links (snapshot : Snapshot) (tracker after : Tracker) (places : List Place) : Prop where
  config : after.config = tracker.config
  bounds : after.bounds = tracker.bounds
  duties : after.duties = tracker.duties
  totals : after.totals = tracker.totals
  nodes : ∀ i : Nat, after.nodes[i]? =
    tracker.nodes[i]?.map (linkedAt snapshot tracker.bounds places i)
  resolved : ∀ place ∈ places, ∃ result, tracker.aimAt snapshot place = .ok result
  tracked : ∀ (validator : UInt64) (place : Place), after.validators[validator]? = some place →
    tracker.validators[validator]? = some place ∨
      place ∈ places ∧ tracker.aimAt snapshot place = .ok (some validator)
  reached : ∀ validator : UInt64, (validator ∈ tracker.validators ∨
    ∃ place ∈ places, tracker.aimAt snapshot place = .ok (some validator)) →
      validator ∈ after.validators

theorem with_minipools_congr {a b : Array PoolMinipool} (h : ∀ j : Nat, a[j]? = b[j]?) :
    ({ node with minipools := a } : PoolNode) = { node with minipools := b } := by
  rw [Array.ext_getElem? h]

theorem linkedAt_nil (i : Nat) (node : PoolNode) : linkedAt snapshot bounds [] i node = node := by
  refine with_minipools_congr fun j => ?_
  simp

theorem linkedAt_singleton (i : Nat) (node : PoolNode) :
    linkedAt snapshot bounds [place] i node =
      if place.node = i then withMinipoolAt node place.minipool (·.linked snapshot bounds) else node := by
  split
  · next hi =>
    refine with_minipools_congr fun j => ?_
    rw [Array.getElem?_mapIdx, Array.getElem?_modify]
    by_cases hj : place.minipool = j
    · have heq : (⟨i, j⟩ : Place) = place := by rw [← hi, ← hj]
      simp [hj, heq]
    · have hne : (⟨i, j⟩ : Place) ≠ place := by
        intro heq'
        obtain rfl := heq'
        exact hj rfl
      simp [hj, hne]
  · next hi =>
    refine with_minipools_congr fun j => ?_
    have hne : (⟨i, j⟩ : Place) ≠ place := by
      intro heq'
      obtain rfl := heq'
      exact hi rfl
    simp [hne]

theorem linkedAt_cons {rest : List Place} (hnew : place ∉ rest) (i : Nat) (node : PoolNode) :
    linkedAt snapshot bounds rest i (linkedAt snapshot bounds [place] i node) =
      linkedAt snapshot bounds (place :: rest) i node := by
  refine with_minipools_congr fun j => ?_
  unfold linkedAt
  rw [Array.getElem?_mapIdx, Array.getElem?_mapIdx, Array.getElem?_mapIdx, Option.map_map]
  congr 1
  funext minipool
  by_cases hp : (⟨i, j⟩ : Place) = place
  · simp [hp, hnew]
  · simp [hp]

theorem links_nil : Links snapshot tracker tracker [] where
  config := rfl
  bounds := rfl
  duties := rfl
  totals := rfl
  nodes i := by
    cases tracker.nodes[i]? <;> simp [linkedAt_nil]
  resolved place hmem := absurd hmem List.not_mem_nil
  tracked validator place h := Or.inl h
  reached validator h := by
    rcases h with h | ⟨place, hmem, -⟩
    · exact h
    · exact absurd hmem List.not_mem_nil

/-- The tracker with the minipool at a place linked to what its validator is found to be. -/
def linkTo (tracker : Tracker) (snapshot : Snapshot) (place : Place) (found : Option UInt64) :
    Tracker :=
  { tracker.modifyAt place (·.linked snapshot tracker.bounds) with
    validators := match found with
      | none => tracker.validators
      | some validator => tracker.validators.insert validator place }

theorem links_one {found : Option UInt64} (h : tracker.aimAt snapshot place = .ok found) :
    Links snapshot tracker (tracker.linkTo snapshot place found) [place] where
  config := rfl
  bounds := rfl
  duties := rfl
  totals := rfl
  nodes i := by
    refine (nodes_modifyAt i).trans ?_
    rcases tracker.nodes[i]? with _ | node
    · simp
    · simp only [Option.map_some, linkedAt_singleton]
      split <;> rfl
  resolved other hmem := by
    rw [List.mem_singleton.mp hmem]
    exact ⟨found, h⟩
  tracked validator other hv := by
    rcases found with _ | aim
    · exact Or.inl hv
    · have hv' : (tracker.validators.insert aim place)[validator]? = some other := hv
      simp only [ExtTreeMap.getElem?_insert, Std.LawfulEqCmp.compare_eq_iff_eq] at hv'
      split at hv'
      · next heq =>
        subst heq
        cases hv'
        exact Or.inr ⟨List.mem_singleton.mpr rfl, h⟩
      · exact Or.inl hv'
  reached validator hv := by
    rcases found with _ | aim
    · rcases hv with hv | ⟨other, hmem, haim⟩
      · exact hv
      · rw [List.mem_singleton.mp hmem, h] at haim
        cases haim
    · show validator ∈ tracker.validators.insert aim place
      rw [ExtTreeMap.mem_insert, Std.LawfulEqCmp.compare_eq_iff_eq]
      rcases hv with hv | ⟨other, hmem, haim⟩
      · exact Or.inr hv
      · rw [List.mem_singleton.mp hmem, h] at haim
        cases haim
        exact Or.inl rfl

theorem link_ends (hat : tracker.at? place = some (node, minipool)) :
    Ends (link snapshot place) tracker
      (fun _ after => ∃ found, tracker.aimAt snapshot place = .ok found ∧
        after = tracker.linkTo snapshot place found)
      (∃ fault, tracker.aimAt snapshot place = .error fault) := by
  have haim : tracker.aimAt snapshot place =
      trackedValidator snapshot tracker.bounds minipool.pubkey := by
    rw [aimAt, hat]
  rw [haim]
  unfold link
  rw [ends_bind]
  apply ends_get
  rw [hat]
  show Ends (_ >>= _) _ _ _
  rw [ends_bind]
  apply ends_mk
  · intro found hfound
    rcases found with _ | validator
    · apply ends_set
      refine ⟨none, hfound, ?_⟩
      show _ = tracker.modifyAt place _
      refine modifyAt_congr hat ?_
      rw [PoolMinipool.linked, hfound]
    · apply ends_set
      refine ⟨some validator, hfound, ?_⟩
      have hsame : tracker.modifyAt place (fun minipool => { minipool with validator := some validator }) =
          tracker.modifyAt place (·.linked snapshot tracker.bounds) := by
        refine modifyAt_congr hat ?_
        rw [PoolMinipool.linked, hfound]
      rw [linkTo, ← hsame]
  · intro fault hfault
    exact ⟨fault, hfault⟩

/-! ### All links

The places are distinct, so no link looks at what another has changed.  The induction goes
over the list of places, and all of them are there from the start.
-/

/-- Linking one place leaves what is found at the others. -/
theorem aimAt_linkTo (snapshot : Snapshot) (found : Option UInt64) (hne : place ≠ other)
    (hother : tracker.at? other = some (node, minipool)) :
    (∃ node', (tracker.linkTo snapshot place found).at? other = some (node', minipool)) ∧
      (tracker.linkTo snapshot place found).aimAt snapshot other = tracker.aimAt snapshot other := by
  obtain ⟨node', hat, -⟩ := at?_modifyAt_of_ne (f := (·.linked snapshot tracker.bounds)) hne hother
  have hat' : (tracker.linkTo snapshot place found).at? other = some (node', minipool) := hat
  refine ⟨⟨node', hat'⟩, ?_⟩
  unfold aimAt
  rw [hat', hother]
  rfl

theorem Links.trans {mid : Tracker} {rest : List Place} (h : Links snapshot tracker mid [place])
    (h' : Links snapshot mid after rest) (hnew : place ∉ rest)
    (haim : ∀ other ∈ rest, mid.aimAt snapshot other = tracker.aimAt snapshot other) :
    Links snapshot tracker after (place :: rest) where
  config := h'.config.trans h.config
  bounds := h'.bounds.trans h.bounds
  duties := h'.duties.trans h.duties
  totals := h'.totals.trans h.totals
  nodes i := by
    rw [h'.nodes, h.nodes, h.bounds, Option.map_map]
    congr 1
    funext node
    exact linkedAt_cons hnew i node
  resolved other hmem := by
    rcases List.mem_cons.mp hmem with rfl | hmem
    · exact h.resolved _ (List.mem_singleton.mpr rfl)
    · rw [← haim other hmem]
      exact h'.resolved other hmem
  tracked validator other hv := by
    rcases h'.tracked validator other hv with hv | ⟨hmem, hother⟩
    · rcases h.tracked validator other hv with hv | ⟨hmem, hother⟩
      · exact Or.inl hv
      · exact Or.inr ⟨List.mem_cons.mpr (Or.inl (List.mem_singleton.mp hmem)), hother⟩
    · exact Or.inr ⟨List.mem_cons_of_mem _ hmem, by rw [← haim other hmem]; exact hother⟩
  reached validator hv := by
    refine h'.reached validator ?_
    rcases hv with hv | ⟨other, hmem, hother⟩
    · exact Or.inl (h.reached validator (Or.inl hv))
    · rcases List.mem_cons.mp hmem with rfl | hmem
      · exact Or.inl (h.reached validator (Or.inr ⟨other, List.mem_singleton.mpr rfl, hother⟩))
      · exact Or.inr ⟨other, hmem, by rw [haim other hmem]; exact hother⟩

/-- Linking has a fault only if a validator cannot be resolved. -/
theorem linkAll_ends (places : List Place) :
    ∀ {tracker : Tracker}, places.Nodup →
      (∀ place ∈ places, ∃ node minipool, tracker.at? place = some (node, minipool)) →
      Ends (linkAll snapshot places) tracker
        (fun _ after => Links snapshot tracker after places)
        (∃ place ∈ places, ∃ fault, tracker.aimAt snapshot place = .error fault) := by
  induction places with
  | nil =>
      intro tracker _ _
      exact ends_pure links_nil
  | cons place rest ih =>
      intro tracker hnodup hplaces
      obtain ⟨hnew, hnodup⟩ := List.nodup_cons.mp hnodup
      obtain ⟨node, minipool, hat⟩ := hplaces place List.mem_cons_self
      unfold linkAll
      rw [ends_bind]
      refine (link_ends hat).mono ?_ ?_
      · intro _ mid h'
        obtain ⟨found, hfound, rfl⟩ := h'
        have hkept : ∀ other ∈ rest,
            (∃ node minipool, (tracker.linkTo snapshot place found).at? other =
              some (node, minipool)) ∧
            (tracker.linkTo snapshot place found).aimAt snapshot other =
              tracker.aimAt snapshot other := by
          intro other hmem
          have hne : place ≠ other := by
            intro heq
            obtain rfl := heq
            exact hnew hmem
          obtain ⟨node', minipool', hother⟩ := hplaces other (List.mem_cons_of_mem _ hmem)
          obtain ⟨⟨node'', hthere⟩, haim⟩ := aimAt_linkTo snapshot found hne hother
          exact ⟨⟨node'', minipool', hthere⟩, haim⟩
        refine (ih hnodup fun other hmem => (hkept other hmem).1).mono ?_ ?_
        · intro _ after h
          exact (links_one hfound).trans h hnew fun other hmem => (hkept other hmem).2
        · intro h'
          obtain ⟨other, hmem, fault, hfault⟩ := h'
          rw [(hkept other hmem).2] at hfault
          exact ⟨other, List.mem_cons_of_mem _ hmem, fault, hfault⟩
      · intro h'
        obtain ⟨fault, hfault⟩ := h'
        exact ⟨place, List.mem_cons_self, fault, hfault⟩

/-! ### The tracker before the walk

`Started` says what linking comes to without mentioning that it goes place by place: each
node is linked as a whole, and a tracked validator is the one that the minipool at its place
is found to have.
-/

/-- A minipool of an eligible node, by its place. -/
def EligibleAt (nodes : Array PoolNode) (place : Place) (node : PoolNode) (minipool : PoolMinipool) :
    Prop :=
  nodes[place.node]? = some node ∧ node.eligible = true ∧
    node.minipools[place.minipool]? = some minipool

theorem EligibleAt.same {node' : PoolNode} {minipool' : PoolMinipool}
    (h : EligibleAt nodes place node minipool) (h' : EligibleAt nodes place node' minipool') :
    node' = node ∧ minipool' = minipool := by
  obtain ⟨hn, -, hm⟩ := h
  obtain ⟨hn', -, hm'⟩ := h'
  rw [hn] at hn'
  cases hn'
  rw [hm] at hm'
  cases hm'
  exact ⟨rfl, rfl⟩

/-- The tracker before the walk. -/
structure Started (snapshot : Snapshot) (bounds : IntervalBounds) (nodes : Array PoolNode)
    (tracker : Tracker) : Prop where
  resolved : ∀ place node minipool, EligibleAt nodes place node minipool →
    ∃ found, trackedValidator snapshot bounds minipool.pubkey = .ok found
  tracked : ∀ (validator : UInt64) (place : Place), tracker.validators[validator]? = some place →
    ∃ node minipool, EligibleAt nodes place node minipool ∧
      trackedValidator snapshot bounds minipool.pubkey = .ok (some validator)
  reached : ∀ place node minipool validator, EligibleAt nodes place node minipool →
    trackedValidator snapshot bounds minipool.pubkey = .ok (some validator) →
      validator ∈ tracker.validators
  nodes : tracker.nodes = nodes.map (·.linked snapshot bounds)
  config : tracker.config = snapshot.config
  bounds : tracker.bounds = bounds
  duties : tracker.duties = ∅
  totals : tracker.totals = ⟨0, 0⟩

theorem eligibleAt_iff (snapshot : Snapshot) (bounds : IntervalBounds) :
    (place ∈ eligiblePlaces nodes ∧
        (idle snapshot.config bounds nodes).at? place = some (node, minipool)) ↔
      EligibleAt nodes place node minipool := by
  rw [mem_eligiblePlaces, at?_eq_some]
  refine ⟨?_, ?_⟩
  · intro h
    obtain ⟨⟨node', hn', helig, -⟩, hn, hm⟩ := h
    have hn : nodes[place.node]? = some node := hn
    rw [hn'] at hn
    cases hn
    exact ⟨hn', helig, hm⟩
  · intro h
    obtain ⟨hn, helig, hm⟩ := h
    obtain ⟨hlt, -⟩ := Array.getElem?_eq_some_iff.mp hm
    exact ⟨⟨node, hn, helig, hlt⟩, hn, hm⟩

theorem eligibleAt_of_mem (hmem : place ∈ eligiblePlaces nodes) :
    ∃ node minipool, EligibleAt nodes place node minipool ∧
      (idle snapshot.config bounds nodes).at? place = some (node, minipool) ∧
      (idle snapshot.config bounds nodes).aimAt snapshot place =
        trackedValidator snapshot bounds minipool.pubkey := by
  obtain ⟨node, hn, helig, hlt⟩ := mem_eligiblePlaces.mp hmem
  have hm := Array.getElem?_eq_getElem hlt
  have hat : (idle snapshot.config bounds nodes).at? place =
      some (node, node.minipools[place.minipool]) := at?_eq_some.mpr ⟨hn, hm⟩
  refine ⟨node, _, ⟨hn, helig, hm⟩, hat, ?_⟩
  rw [aimAt, hat]
  rfl

theorem linkedAt_eligiblePlaces {i : Nat} (hn : nodes[i]? = some node) :
    linkedAt snapshot bounds (eligiblePlaces nodes) i node = node.linked snapshot bounds := by
  have hmem : ∀ j : Nat, j < node.minipools.size →
      ((⟨i, j⟩ : Place) ∈ eligiblePlaces nodes ↔ node.eligible = true) := by
    intro j hj
    rw [mem_eligiblePlaces]
    refine ⟨?_, ?_⟩
    · intro h
      obtain ⟨node', hn', helig, -⟩ := h
      rw [hn] at hn'
      cases hn'
      exact helig
    · intro helig
      exact ⟨node, hn, helig, hj⟩
  unfold PoolNode.linked
  split
  · next helig =>
    refine with_minipools_congr fun j => ?_
    rw [Array.getElem?_mapIdx, Array.getElem?_map]
    by_cases hj : j < node.minipools.size
    · rw [Array.getElem?_eq_getElem hj, Option.map_some, Option.map_some,
        if_pos ((hmem j hj).mpr helig)]
    · simp [hj]
  · next helig =>
    refine with_minipools_congr fun j => ?_
    rw [Array.getElem?_mapIdx]
    by_cases hj : j < node.minipools.size
    · rw [Array.getElem?_eq_getElem hj, Option.map_some,
        if_neg fun hc => helig ((hmem j hj).mp hc)]
    · simp [hj]

theorem new_ends (snapshot : Snapshot) (bounds : IntervalBounds) (nodes : Array PoolNode) :
    Ends (linkAll snapshot (eligiblePlaces nodes)) (idle snapshot.config bounds nodes)
      (fun _ tracker => Started snapshot bounds nodes tracker)
      (∃ place node minipool, EligibleAt nodes place node minipool ∧
        ∃ fault, trackedValidator snapshot bounds minipool.pubkey = .error fault) := by
  refine (linkAll_ends _ nodup_eligiblePlaces ?_).mono ?_ ?_
  · intro place hmem
    obtain ⟨node, minipool, -, hat, -⟩ := eligibleAt_of_mem hmem
    exact ⟨node, minipool, hat⟩
  · intro _ after h
    refine ⟨?_, ?_, ?_, ?_, h.config, h.bounds, h.duties, h.totals⟩
    · intro place node minipool hat
      obtain ⟨hmem, hat'⟩ := (eligibleAt_iff snapshot bounds).mpr hat
      obtain ⟨found, hfound⟩ := h.resolved place hmem
      rw [aimAt, hat'] at hfound
      exact ⟨found, hfound⟩
    · intro validator place hv
      rcases h.tracked validator place hv with hv | ⟨hmem, haim⟩
      · have hempty : (∅ : ExtTreeMap UInt64 Place)[validator]? = some place := hv
        rw [ExtTreeMap.getElem?_empty] at hempty
        cases hempty
      · obtain ⟨node, minipool, hat, -, haim'⟩ := eligibleAt_of_mem hmem
        exact ⟨node, minipool, hat, haim'.symm.trans haim⟩
    · intro place node minipool validator hat hfound
      obtain ⟨hmem, hat'⟩ := (eligibleAt_iff snapshot bounds).mpr hat
      refine h.reached validator (Or.inr ⟨place, hmem, ?_⟩)
      rw [aimAt, hat']
      exact hfound
    · apply Array.ext_getElem?
      intro i
      rw [h.nodes, Array.getElem?_map]
      show (nodes[i]?).map _ = _
      rcases hn : nodes[i]? with _ | node
      · rfl
      · rw [Option.map_some, Option.map_some, ← linkedAt_eligiblePlaces hn]
        rfl
  · intro h'
    obtain ⟨place, hmem, fault, hfault⟩ := h'
    obtain ⟨node, minipool, hat, -, haim⟩ := eligibleAt_of_mem hmem
    exact ⟨place, node, minipool, hat, fault, haim.symm.trans hfault⟩

/-! ### It is sound

Soundness is about duties, and there are none.  The minipools of the pool are made of rows,
so they come without any.
-/

end Tracker

/-- A minipool at work that has no duties yet. -/
structure PoolMinipool.Fresh (minipool : PoolMinipool) : Prop where
  cleared : minipool.cleared = minipool
  active : minipool.wasActive = true

/-- Nodes whose minipools are all at work and have no duties yet. -/
def Fresh (nodes : Array PoolNode) : Prop :=
  ∀ node ∈ nodes, ∀ minipool ∈ node.minipools, minipool.Fresh

theorem PoolMinipool.address_linked {snapshot : Snapshot} {bounds : IntervalBounds} (minipool : PoolMinipool) :
    (minipool.linked snapshot bounds).address = minipool.address := by
  unfold PoolMinipool.linked
  split <;> rfl

theorem PoolMinipool.pubkey_linked {snapshot : Snapshot} {bounds : IntervalBounds} (minipool : PoolMinipool) :
    (minipool.linked snapshot bounds).pubkey = minipool.pubkey := by
  unfold PoolMinipool.linked
  split <;> rfl

theorem PoolMinipool.stakingSince_linked {snapshot : Snapshot} {bounds : IntervalBounds}
    (minipool : PoolMinipool) :
    (minipool.linked snapshot bounds).stakingSince = minipool.stakingSince := by
  unfold PoolMinipool.linked
  split <;> rfl

theorem PoolMinipool.cleared_linked {snapshot : Snapshot} {bounds : IntervalBounds}
    {minipool : PoolMinipool} (h : minipool.cleared = minipool) :
    (minipool.linked snapshot bounds).cleared = minipool.linked snapshot bounds := by
  have hlinked : (minipool.cleared.linked snapshot bounds).cleared =
      minipool.cleared.linked snapshot bounds := by
    unfold PoolMinipool.linked
    split <;> rfl
  rwa [h] at hlinked

/-- A minipool without duties is sound. -/
theorem PoolMinipool.sound_of_cleared {config : BeaconConfig} {bounds : IntervalBounds}
    {node : PoolNode} {minipool : PoolMinipool} (h : minipool.cleared = minipool) :
    minipool.Sound config bounds node where
  owed slot hs := by
    rw [← h] at hs
    exact absurd hs Std.ExtTreeSet.not_mem_empty
  fulfilled slot hs := by
    rw [← h] at hs
    exact absurd hs Std.ExtTreeSet.not_mem_empty
  completed := by
    rw [← h]
    rfl
  score := by
    rw [← h]
    exact BondHistory.scoreOver_empty.symm

namespace Tracker

variable {tracker : Tracker} {snapshot : Snapshot} {bounds : IntervalBounds}
  {place : Place} {node : PoolNode} {minipool : PoolMinipool} {nodes : Array PoolNode}

/-- The minipools of the tracker are the linked ones. -/
theorem Started.at?_eq_some (h : Started snapshot bounds nodes tracker) :
    tracker.at? place = some (node, minipool) ↔
      ∃ node' minipool', nodes[place.node]? = some node' ∧
        node'.minipools[place.minipool]? = some minipool' ∧
        node = node'.linked snapshot bounds ∧
        minipool = if node'.eligible then minipool'.linked snapshot bounds else minipool' := by
  rw [Tracker.at?_eq_some, h.nodes, Array.getElem?_map]
  refine ⟨?_, ?_⟩
  · intro h'
    obtain ⟨hn, hm⟩ := h'
    obtain ⟨node', hn', rfl⟩ := Option.map_eq_some_iff.mp hn
    unfold PoolNode.linked at hm
    split at hm
    · next helig =>
      rw [Array.getElem?_map] at hm
      obtain ⟨minipool', hm', rfl⟩ := Option.map_eq_some_iff.mp hm
      exact ⟨node', minipool', hn', hm', rfl, by rw [if_pos helig]⟩
    · next helig => exact ⟨node', minipool, hn', hm, rfl, by rw [if_neg helig]⟩
  · intro h'
    obtain ⟨node', minipool', hn, hm, rfl, rfl⟩ := h'
    rw [hn]
    refine ⟨rfl, ?_⟩
    unfold PoolNode.linked
    split <;> simp [hm]

theorem Started.at?_of_eligibleAt (h : Started snapshot bounds nodes tracker)
    (hat : EligibleAt nodes place node minipool) :
    tracker.at? place = some (node.linked snapshot bounds, minipool.linked snapshot bounds) := by
  obtain ⟨hn, helig, hm⟩ := hat
  exact h.at?_eq_some.mpr ⟨node, minipool, hn, hm, rfl, by rw [if_pos helig]⟩

theorem Started.cleared (h : Started snapshot bounds nodes tracker) (hfresh : Fresh nodes)
    (hat : tracker.at? place = some (node, minipool)) : minipool.cleared = minipool := by
  obtain ⟨node', minipool', hn, hm, rfl, rfl⟩ := h.at?_eq_some.mp hat
  have hclear := (hfresh node' (Array.mem_of_getElem? hn) minipool' (Array.mem_of_getElem? hm)).cleared
  split
  · exact PoolMinipool.cleared_linked hclear
  · exact hclear

theorem Started.slotsOf_eq_empty (h : Started snapshot bounds nodes tracker) (hfresh : Fresh nodes)
    {slots : PoolMinipool → SlotSet} (hnone : ∀ minipool : PoolMinipool, slots minipool.cleared = ∅) :
    tracker.slotsOf slots = ∅ := by
  refine Set.eq_empty_of_forall_notMem ?_
  intro x hx
  obtain ⟨validator, slot⟩ := x
  obtain ⟨node, minipool, hlinked, hs⟩ := hx
  obtain ⟨place, -, hat⟩ := Option.bind_eq_some_iff.mp hlinked
  rw [← h.cleared hfresh hat, hnone] at hs
  exact Std.ExtTreeSet.not_mem_empty hs

theorem Started.sum_eq_zero {M : Type*} [AddCommMonoid M] (h : Started snapshot bounds nodes tracker)
    (hfresh : Fresh nodes) {g : PoolMinipool → M} (hg : ∀ minipool : PoolMinipool, g minipool.cleared = 0) :
    ((minipoolsOf tracker.nodes).map g).sum = 0 := by
  refine List.sum_eq_zero ?_
  intro x hx
  obtain ⟨minipool, hmem, rfl⟩ := List.mem_map.mp hx
  obtain ⟨node, hnode, hmem⟩ := mem_minipoolsOf.mp hmem
  obtain ⟨place, hat⟩ := exists_place hnode hmem
  rw [← h.cleared hfresh hat]
  exact hg minipool

/-- **The tracker before the walk is sound.** -/
theorem Started.sound (h : Started snapshot bounds nodes tracker) (hfresh : Fresh nodes) :
    tracker.Sound where
  minipool hat := PoolMinipool.sound_of_cleared (h.cleared hfresh hat)
  linked {validator place} hv := by
    obtain ⟨node, minipool, hat, hfound⟩ := h.tracked validator place hv
    obtain ⟨hn, helig, hm⟩ := id hat
    refine ⟨_, _, h.at?_of_eligibleAt hat, ?_, ?_, ?_⟩
    · rw [PoolMinipool.linked, hfound]
    · rw [PoolMinipool.linked, hfound]
      exact (hfresh node (Array.mem_of_getElem? hn) minipool (Array.mem_of_getElem? hm)).active
    · unfold PoolNode.linked
      split <;> exact helig
  untracked hat _ := by
    rw [← h.cleared hfresh hat]
    rfl
  duty {key positions} hd := by
    rw [h.duties, ExtTreeMap.getElem?_empty] at hd
    cases hd
  score := by
    rw [h.totals, h.sum_eq_zero hfresh fun _ => rfl]
  successful := by
    rw [h.totals, h.sum_eq_zero hfresh fun _ => rfl]
    rfl
  counted := by
    rw [h.totals, met, h.slotsOf_eq_empty hfresh fun _ => rfl, Set.ncard_empty]
    rfl

theorem Started.pending (h : Started snapshot bounds nodes tracker) (key : DutyKey)
    (position : Nat) : tracker.pending key position = none := by
  unfold Tracker.pending
  rw [h.duties, ExtTreeMap.getElem?_empty]
  rfl

end Tracker

/-- The nodes of a snapshot come without duties. -/
theorem fresh_poolNodes (snapshot : Snapshot) : Fresh snapshot.poolNodes := by
  intro node hnode minipool hmem
  unfold Snapshot.poolNodes at hnode
  obtain ⟨details, -, rfl⟩ := List.mem_map.mp (List.mem_toArray.mp hnode)
  have hmem : minipool ∈ (poolMinipools _).toList := Array.mem_toList_iff.mpr hmem
  rw [toList_poolMinipools] at hmem
  split at hmem
  · cases hmem
  · obtain ⟨row, -, rfl⟩ := List.mem_map.mp hmem
    exact ⟨rfl, rfl⟩

end PoolRewards
