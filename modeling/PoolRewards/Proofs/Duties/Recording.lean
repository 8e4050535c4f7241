/-
What taking in committees does to a tracker.

Who owes an attestation at a time is read off the frame, so it does not depend on what has
been taken in before.  A committee of a slot of the interval makes its members that owe one
owe it at its slot, and opens their positions; the last of several committees with one key
and with such a member is the one whose positions are open.  Members are looked up by place,
which is no fault where every tracked minipool is there; so the only thing that can go wrong
is the start of a slot of the interval, if there is no word for it.
-/
import Mathlib.Data.List.Sigma
import PoolRewards.Proofs.Duties.Matching

namespace PoolRewards

open Std (ExtTreeMap)

namespace Committee

/-- The key of the duties of a committee. -/
def key (committee : Committee) : DutyKey := ⟨committee.slot, committee.index⟩

end Committee

namespace Tracker

variable {tracker after : Tracker} {validator : UInt64} {place : Place} {node : PoolNode}
  {minipool : PoolMinipool} {slot time : UInt64} {key : DutyKey} {position : Nat}
  {committee : Committee}

/-! ### Who owes an attestation

A validator owes an attestation at a time if its minipool is tracked, its node is in the
pool and the minipool was staking by then.  All of that is in the frame, so taking in
committees changes none of it.
-/

/-- A validator owes an attestation at a time. -/
def isOwing (tracker : Tracker) (time validator : UInt64) : Bool :=
  (tracker.owing? time validator).isSome

theorem owing?_eq_some :
    tracker.owing? time validator = some place ↔
      tracker.validators[validator]? = some place ∧
        ∃ node minipool, tracker.at? place = some (node, minipool) ∧
          node.isOptedInAt time = true ∧ minipool.stakingSince ≤ time := by
  unfold owing?
  refine ⟨?_, ?_⟩
  · intro h
    obtain ⟨place', hv, h⟩ := Option.bind_eq_some_iff.mp h
    obtain ⟨⟨node, minipool⟩, hat, h⟩ := Option.bind_eq_some_iff.mp h
    simp only [Bool.and_eq_true, decide_eq_true_eq, Option.ite_none_right_eq_some,
      Option.some.injEq] at h
    obtain ⟨⟨hopt, hstake⟩, rfl⟩ := h
    exact ⟨hv, node, minipool, hat, hopt, hstake⟩
  · intro h'
    obtain ⟨hv, node, minipool, hat, hopt, hstake⟩ := h'
    simp [hv, hat, hopt, hstake]

/-- Every tracked minipool of a sound tracker is there. -/
theorem Sound.reaches (h : tracker.Sound) : tracker.Reaches := by
  intro validator place hv
  obtain ⟨node, minipool, hat, -⟩ := h.linked hv
  exact ⟨node, minipool, hat⟩

theorem isOwing_iff :
    tracker.isOwing time validator = true ↔
      ∃ node minipool, tracker.linked? validator = some (node, minipool) ∧
        node.isOptedInAt time = true ∧ minipool.stakingSince ≤ time := by
  unfold isOwing
  rw [Option.isSome_iff_exists]
  refine ⟨?_, ?_⟩
  · intro h'
    obtain ⟨place, h⟩ := h'
    obtain ⟨hv, node, minipool, hat, hwhen⟩ := owing?_eq_some.mp h
    exact ⟨node, minipool, (linked?_of_validators hv).trans hat, hwhen⟩
  · intro h'
    obtain ⟨node, minipool, hlinked, hwhen⟩ := h'
    obtain ⟨place, hv, hat⟩ := Option.bind_eq_some_iff.mp hlinked
    exact ⟨place, owing?_eq_some.mpr ⟨hv, node, minipool, hat, hwhen⟩⟩

theorem isOwing_of_frame (hframe : after.frame = tracker.frame) :
    after.isOwing = tracker.isOwing := by
  unfold isOwing
  rw [owing?_of_frame hframe]

theorem mem_owingMembers :
    (position, place) ∈ tracker.owingMembers time committee ↔
      ∃ validator, committee.validators[position]? = some validator ∧
        tracker.owing? time validator = some place := by
  unfold owingMembers
  rw [List.mem_filterMap]
  refine ⟨?_, ?_⟩
  · intro h
    obtain ⟨⟨validator, i⟩, hmem, hx⟩ := h
    obtain ⟨place', howing, heq⟩ := Option.map_eq_some_iff.mp hx
    cases heq
    exact ⟨validator, List.mem_zipIdx_iff_getElem?.mp hmem, howing⟩
  · intro h
    obtain ⟨validator, hat, howing⟩ := h
    exact ⟨(validator, position), List.mem_zipIdx_iff_getElem?.mpr hat,
      Option.map_eq_some_iff.mpr ⟨place, howing, rfl⟩⟩

theorem exists_owing_of_mem (h : place ∈ (tracker.owingMembers time committee).map (·.2)) :
    ∃ validator, tracker.owing? time validator = some place := by
  obtain ⟨⟨position, place⟩, hmem, rfl⟩ := List.mem_map.mp h
  obtain ⟨validator, -, howing⟩ := mem_owingMembers.mp hmem
  exact ⟨validator, howing⟩

theorem owingMembers_distinct :
    (tracker.owingMembers time committee).Pairwise fun a b => ¬ compare a.1 b.1 = .eq := by
  have hnodup := List.nodup_zipIdx_map_snd committee.validators
  rw [List.Nodup, List.pairwise_map] at hnodup
  refine List.Pairwise.filterMap _ ?_ hnodup
  intro entry entry' hne member hp member' hq
  obtain ⟨_, _, hpeq⟩ := Option.map_eq_some_iff.mp hp
  obtain ⟨_, _, hqeq⟩ := Option.map_eq_some_iff.mp hq
  cases hpeq
  cases hqeq
  rwa [Std.LawfulEqCmp.compare_eq_iff_eq]

theorem getElem?_owingMembers :
    (ExtTreeMap.ofList (tracker.owingMembers time committee))[position]? =
      committee.validators[position]?.bind (tracker.owing? time) := by
  rcases hplace : committee.validators[position]?.bind (tracker.owing? time) with _ | place
  · apply ExtTreeMap.getElem?_ofList_of_contains_eq_false
    rw [← Bool.not_eq_true, List.contains_iff_mem, List.mem_map]
    intro h
    obtain ⟨⟨i, place⟩, hmem, rfl⟩ := h
    obtain ⟨validator, hat, howing⟩ := mem_owingMembers.mp hmem
    rw [hat, Option.bind_some, howing] at hplace
    cases hplace
  · obtain ⟨validator, hat, howing⟩ := Option.bind_eq_some_iff.mp hplace
    exact ExtTreeMap.getElem?_ofList_of_mem Std.ReflCmp.compare_self owingMembers_distinct
      (mem_owingMembers.mpr ⟨validator, hat, howing⟩)

/-! ### The members of a committee

Each member is looked up on the tracker that the members before it have left.  These have
changed duties alone, so all members can as well be looked up at the start; that is what
`recordAt` does, and what the proofs below go by.
-/

/-- The members are gone through one by one, and each owes its attestation at once.  That makes no
difference to who of the others owes one. -/
theorem recordMembers_ends (entries : List (UInt64 × Nat)) :
    ∀ {tracker : Tracker}, tracker.Reaches →
      Ends (recordMembers slot time entries) tracker
        (fun members after =>
          members = entries.filterMap (fun (validator, position) =>
            (tracker.owing? time validator).map fun place => (position, place)) ∧
          after = tracker.owe slot (members.map (·.2))) False := by
  induction entries with
  | nil =>
      intro tracker _
      exact ends_pure ⟨rfl, rfl⟩
  | cons entry rest ih =>
      intro tracker h
      obtain ⟨validator, position⟩ := entry
      unfold recordMembers
      rw [ends_bind]
      apply ends_get
      rw [h.owing, ends_bind]
      apply ends_ok
      rcases howing : tracker.owing? time validator with _ | place
      · refine (ih h).mono ?_ id
        intro members after hrest
        simpa [howing] using hrest
      · have hframe : (tracker.modifyAt place (·.owe slot)).frame = tracker.frame :=
          frame_modifyAt fun _ => rfl
        dsimp only
        rw [ends_bind]
        apply ends_modify
        rw [ends_bind]
        refine (ih h.modifyAt).mono ?_ id
        intro members after hrest
        obtain ⟨hmembers, hafter⟩ := hrest
        rw [owing?_of_frame hframe] at hmembers
        refine ends_pure ⟨?_, hafter⟩
        simp [howing, hmembers]

/-- **A committee is taken in without a fault**, where every tracked minipool is there. -/
theorem recordOne_ends (h : tracker.Reaches) (time : UInt64) (committee : Committee) :
    Ends (recordOne time committee) tracker (fun _ after => after = tracker.recordAt time committee)
      False := by
  unfold recordOne
  rw [ends_bind]
  refine (recordMembers_ends committee.validators.zipIdx h).mono ?_ id
  intro members after hmembers
  obtain ⟨rfl, rfl⟩ := hmembers
  unfold Tracker.recordAt
  by_cases hempty : (tracker.owingMembers time committee).isEmpty = true
  · have hempty' := hempty
    unfold owingMembers at hempty'
    rw [hempty']
    exact ends_pure (if_pos hempty).symm
  · have hempty' := hempty
    unfold owingMembers at hempty'
    rw [Bool.eq_false_iff.mpr hempty']
    exact ends_modify (if_neg hempty).symm

/-! ### Minipools that owe an attestation

A further slot is owed by one minipool after the other, each at a slot of the interval that
has a start.
-/

theorem Sound.oweAll (places : List Place) :
    ∀ {tracker : Tracker}, tracker.Sound → tracker.bounds.contains slot = true →
      tracker.config.slotTime slot = .ok (tracker.config.startOf slot) →
      (∀ place ∈ places, ∃ validator,
        tracker.owing? (tracker.config.startOf slot) validator = some place) →
      (tracker.owe slot places).Sound ∧ (tracker.owe slot places).frame = tracker.frame ∧
        (tracker.owe slot places).duties = tracker.duties ∧
        (tracker.owe slot places).owed = tracker.owed ∪ tracker.duesAt slot places ∧
        (tracker.owe slot places).met = tracker.met := by
  induction places with
  | nil =>
      intro tracker h _ _ _
      refine ⟨h, rfl, rfl, ?_, rfl⟩
      show tracker.owed = _
      ext x
      simp [duesAt]
  | cons place rest ih =>
      intro tracker h hin htimed hall
      obtain ⟨validator, howing⟩ := hall place (by simp)
      obtain ⟨hv, node, minipool, hat, hopt, hstake⟩ := owing?_eq_some.mp howing
      obtain ⟨hsound, howed, hmet⟩ := h.owe hv hat ⟨hin, htimed, hopt, hstake⟩
      have hframe : (tracker.modifyAt place (·.owe slot)).frame = tracker.frame :=
        frame_modifyAt fun _ => rfl
      obtain ⟨hsound', hframe', hduties', howed', hmet'⟩ := ih hsound hin htimed (by
        intro place' hp
        rw [owing?_of_frame hframe]
        exact hall place' (by simp [hp]))
      refine ⟨hsound', hframe'.trans hframe, hduties', howed'.trans ?_, hmet'.trans hmet⟩
      rw [howed, h.duesAt_cons hv, Set.insert_union, Set.union_insert]
      rfl

/-! ### One committee

A committee is described by what it makes due and by the positions that it opens.  Of two
committees with one key the later one's positions are open, also where the earlier one's
were not met yet.
-/

/-- A committee of a slot of the interval with a member that owes an attestation. -/
def takes (tracker : Tracker) (committee : Committee) : Bool :=
  tracker.bounds.contains committee.slot &&
    committee.validators.any (tracker.isOwing (tracker.config.startOf committee.slot))

/-- The validator that owes an attestation at a position of a committee. -/
def owingAt (tracker : Tracker) (committee : Committee) (position : Nat) : Option UInt64 :=
  committee.validators[position]?.filter (tracker.isOwing (tracker.config.startOf committee.slot))

/-- The last of some committees whose positions are open under a key. -/
def lastTaken (tracker : Tracker) (committees : List Committee) (key : DutyKey) :
    Option Committee :=
  committees.reverse.find? fun committee => decide (committee.key = key) && tracker.takes committee

/-- Who owes an attestation at which slot by some committees. -/
def duesOf (tracker : Tracker) (committees : List Committee) : Set (UInt64 × UInt64) :=
  {x | tracker.bounds.contains x.2 = true ∧
    tracker.isOwing (tracker.config.startOf x.2) x.1 = true ∧
    ∃ committee ∈ committees, committee.slot = x.2 ∧ x.1 ∈ committee.validators}

/-- The tracker `after` has taken in some committees. -/
structure Records (tracker after : Tracker) (committees : List Committee) : Prop where
  sound : after.Sound
  frame : after.frame = tracker.frame
  met : after.met = tracker.met
  timed : ∀ committee ∈ committees, tracker.bounds.contains committee.slot = true →
    tracker.config.slotTime committee.slot = .ok (tracker.config.startOf committee.slot)
  owed : after.owed = tracker.owed ∪ tracker.duesOf committees
  pending : ∀ key position, after.pending key position =
    ((tracker.lastTaken committees key).map (tracker.owingAt · position)).getD
      (tracker.pending key position)

theorem lastTaken_of_frame (hframe : after.frame = tracker.frame) :
    after.lastTaken = tracker.lastTaken := by
  have hbounds : after.bounds = tracker.bounds := congrArg (·.bounds) hframe
  have hconfig : after.config = tracker.config := congrArg (·.config) hframe
  funext committees key
  simp only [lastTaken, takes, hbounds, hconfig, isOwing_of_frame hframe]

theorem owingAt_of_frame (hframe : after.frame = tracker.frame) :
    after.owingAt = tracker.owingAt := by
  have hconfig : after.config = tracker.config := congrArg (·.config) hframe
  funext committee position
  simp only [owingAt, hconfig, isOwing_of_frame hframe]

theorem duesOf_of_frame (hframe : after.frame = tracker.frame) : after.duesOf = tracker.duesOf := by
  have hbounds : after.bounds = tracker.bounds := congrArg (·.bounds) hframe
  have hconfig : after.config = tracker.config := congrArg (·.config) hframe
  funext committees
  simp only [duesOf, hbounds, hconfig, isOwing_of_frame hframe]

theorem duesOf_append (first second : List Committee) :
    tracker.duesOf (first ++ second) = tracker.duesOf first ∪ tracker.duesOf second := by
  ext x
  simp only [duesOf, Set.mem_union, Set.mem_ofPred_eq, List.mem_append, or_and_right, exists_or,
    and_or_left]

theorem Sound.records_nil (h : tracker.Sound) : tracker.Records tracker [] where
  sound := h
  frame := rfl
  met := rfl
  timed committee hmem := absurd hmem List.not_mem_nil
  owed := by simp [duesOf]
  pending key position := rfl

theorem Records.trans {last : Tracker} {first second : List Committee}
    (h : tracker.Records after first) (h' : after.Records last second) :
    tracker.Records last (first ++ second) where
  sound := h'.sound
  frame := h'.frame.trans h.frame
  met := h'.met.trans h.met
  timed committee hmem hin := by
    have hbounds : after.bounds = tracker.bounds := congrArg (·.bounds) h.frame
    have hconfig : after.config = tracker.config := congrArg (·.config) h.frame
    rcases List.mem_append.mp hmem with hmem | hmem
    · exact h.timed committee hmem hin
    · rw [← hconfig]
      exact h'.timed committee hmem (hbounds ▸ hin)
  owed := by rw [h'.owed, h.owed, duesOf_of_frame h.frame, duesOf_append, Set.union_assoc]
  pending key position := by
    rw [h'.pending, h.pending, lastTaken_of_frame h.frame, owingAt_of_frame h.frame]
    have hsplit : tracker.lastTaken (first ++ second) key =
        (tracker.lastTaken second key).or (tracker.lastTaken first key) := by
      simp only [lastTaken, List.reverse_append, List.find?_append]
    rw [hsplit]
    cases tracker.lastTaken second key <;> rfl

/-- Where no two committees have one key, a key has the positions of its committee. -/
theorem lastTaken_eq_some {committees : List Committee}
    (hdistinct : (committees.map (·.key)).Nodup) :
    tracker.lastTaken committees key = some committee ↔
      committee ∈ committees ∧ committee.key = key ∧ tracker.takes committee = true := by
  have hfound : ∀ {other}, tracker.lastTaken committees key = some other →
      other ∈ committees ∧ other.key = key ∧ tracker.takes other = true := by
    intro other h
    have htest := List.find?_some h
    simp only [Bool.and_eq_true, decide_eq_true_eq] at htest
    exact ⟨List.mem_reverse.mp (List.mem_of_find?_eq_some h), htest⟩
  refine ⟨hfound, ?_⟩
  intro h'
  obtain ⟨hmem, hkey, htakes⟩ := h'
  have hsome : (tracker.lastTaken committees key).isSome = true := by
    rw [lastTaken, List.find?_isSome]
    exact ⟨committee, List.mem_reverse.mpr hmem, by simp [hkey, htakes]⟩
  obtain ⟨other, hother⟩ := Option.isSome_iff_exists.mp hsome
  obtain ⟨hmem', hkey', -⟩ := hfound hother
  rw [hother, List.inj_on_of_nodup_map hdistinct hmem' hmem (hkey'.trans hkey.symm)]

theorem Sound.bind_validatorAt (h : tracker.Sound) (validators : Option UInt64) (time : UInt64) :
    (validators.bind (tracker.owing? time)).bind tracker.validatorAt =
      validators.filter (tracker.isOwing time) := by
  rcases validators with _ | validator
  · rfl
  · simp only [Option.bind_some, Option.filter_some]
    by_cases howing : tracker.isOwing time validator = true
    · obtain ⟨place, hplace⟩ := Option.isSome_iff_exists.mp howing
      rw [if_pos howing, hplace]
      exact h.validatorAt (owing?_eq_some.mp hplace).1
    · have hplace : tracker.owing? time validator = none := by
        rw [← Option.not_isSome_iff_eq_none]
        exact howing
      rw [if_neg howing, hplace]
      rfl

theorem owingMembers_isEmpty :
    (tracker.owingMembers time committee).isEmpty = false ↔
      committee.validators.any (tracker.isOwing time) = true := by
  rw [List.isEmpty_eq_false_iff_exists_mem, List.any_eq_true]
  refine ⟨?_, ?_⟩
  · intro h
    obtain ⟨⟨position, place⟩, hmem⟩ := h
    obtain ⟨validator, hat, howing⟩ := mem_owingMembers.mp hmem
    exact ⟨validator, List.mem_of_getElem? hat, Option.isSome_iff_exists.mpr ⟨place, howing⟩⟩
  · intro h
    obtain ⟨validator, hmem, howing⟩ := h
    obtain ⟨position, hat⟩ := List.mem_iff_getElem?.mp hmem
    obtain ⟨place, howing⟩ := Option.isSome_iff_exists.mp howing
    exact ⟨(position, place), mem_owingMembers.mpr ⟨validator, hat, howing⟩⟩

theorem takes_iff (hin : tracker.bounds.contains committee.slot = true) :
    tracker.takes committee = true ↔
      (tracker.owingMembers (tracker.config.startOf committee.slot) committee).isEmpty = false := by
  rw [takes, hin, Bool.true_and, owingMembers_isEmpty]

theorem lastTaken_singleton :
    tracker.lastTaken [committee] key =
      if committee.key = key ∧ tracker.takes committee = true then some committee else none := by
  unfold lastTaken
  rw [List.reverse_singleton, List.find?_singleton]
  simp only [Bool.and_eq_true, decide_eq_true_eq]

/-- What a committee makes its members owe stands at the places of the members. -/
theorem Sound.duesOf_singleton (h : tracker.Sound)
    (hin : tracker.bounds.contains committee.slot = true) :
    tracker.duesOf [committee] = tracker.duesAt committee.slot
      ((tracker.owingMembers (tracker.config.startOf committee.slot) committee).map (·.2)) := by
  ext ⟨validator, slot⟩
  simp only [duesOf, duesAt, Set.mem_ofPred_eq, List.mem_singleton, List.mem_map, Prod.exists,
    exists_eq_left, exists_eq_right, mem_owingMembers]
  refine ⟨?_, ?_⟩
  · intro h'
    obtain ⟨-, howing, rfl, hmem⟩ := h'
    obtain ⟨position, hat⟩ := List.mem_iff_getElem?.mp hmem
    obtain ⟨place, hplace⟩ := Option.isSome_iff_exists.mp howing
    exact ⟨rfl, place, ⟨position, validator, hat, hplace⟩, (owing?_eq_some.mp hplace).1⟩
  · intro h'
    obtain ⟨rfl, place, ⟨position, other, hat, hplace⟩, hv⟩ := h'
    obtain rfl : validator = other := h.validator_unique (owing?_eq_some.mp hplace).1 hv
    exact ⟨hin, Option.isSome_iff_exists.mpr ⟨place, hplace⟩, rfl, List.mem_of_getElem? hat⟩

theorem getElem?_openFor (members : List (Nat × Place)) (other : DutyKey) :
    (tracker.openFor key members).duties[other]? =
      if key = other then some (.ofList members) else tracker.duties[other]? := by
  unfold openFor
  simp only [ExtTreeMap.getElem?_insert, Std.LawfulEqCmp.compare_eq_iff_eq]

/-- Open positions are sound if there are some, of tracked minipools that owe the slot. -/
theorem Sound.openFor (h : tracker.Sound) {members : List (Nat × Place)}
    (hne : members.isEmpty = false)
    (howes : ∀ (position : Nat) (place : Place),
      (ExtTreeMap.ofList members)[position]? = some place → tracker.Owes place key.slot) :
    (tracker.openFor key members).Sound := by
  refine h.with_duties ?_
  intro other positions hd
  have hd' : (tracker.openFor key members).duties[other]? = some positions := hd
  rw [getElem?_openFor] at hd'
  split at hd'
  · next hkey =>
    subst hkey
    cases hd'
    refine ⟨?_, howes⟩
    rw [ExtTreeMap.isEmpty_eq_false_iff, ExtTreeMap.ofList_eq_empty_iff]
    intro heq
    obtain rfl := heq
    cases hne
  · exact h.duty hd'

theorem Owes.of_mem (hv : tracker.validators[validator]? = some place)
    (howed : (validator, slot) ∈ tracker.owed) : tracker.Owes place slot := by
  obtain ⟨node, minipool, hlinked, hs⟩ := howed
  rw [linked?_of_validators hv] at hlinked
  exact ⟨validator, node, minipool, hv, hlinked, hs⟩

/-- The positions that a committee opens are those of its members who owe an attestation. -/
theorem Sound.pending_openFor (h : tracker.Sound) (hframe : after.frame = tracker.frame)
    (hduties : after.duties = tracker.duties) (htakes : tracker.takes committee = true) (key : DutyKey)
    (position : Nat) :
    (after.openFor committee.key
        (tracker.owingMembers (tracker.config.startOf committee.slot) committee)).pending key position =
      ((tracker.lastTaken [committee] key).map (tracker.owingAt · position)).getD
        (tracker.pending key position) := by
  have hplaces : after.validatorAt = tracker.validatorAt := validatorAt_of_frame hframe
  show ((after.openFor committee.key _).duties[key]?.bind fun positions =>
    positions[position]?.bind after.validatorAt) = _
  rw [getElem?_openFor, lastTaken_singleton, hplaces]
  by_cases hkey : committee.key = key
  · rw [if_pos hkey, if_pos ⟨hkey, htakes⟩, Option.bind_some, getElem?_owingMembers,
      h.bind_validatorAt]
    rfl
  · rw [if_neg hkey, if_neg fun hc => hkey hc.1, hduties]
    rfl

/-- Taking in a committee of a slot of the interval. -/
theorem Sound.recordAt (h : tracker.Sound) (hin : tracker.bounds.contains committee.slot = true)
    (htimed : tracker.config.slotTime committee.slot =
      .ok (tracker.config.startOf committee.slot)) :
    tracker.Records (tracker.recordAt (tracker.config.startOf committee.slot) committee)
      [committee] := by
  let members := tracker.owingMembers (tracker.config.startOf committee.slot) committee
  let mid := tracker.owe committee.slot (members.map (·.2))
  obtain ⟨hsound, hframe, hduties, howed, hmet⟩ :=
    h.oweAll (members.map (·.2)) hin htimed fun _ hmem => exists_owing_of_mem hmem
  have hdues := h.duesOf_singleton hin
  rw [← hdues] at howed
  have hpending : mid.pending = tracker.pending := pending_of_frame hframe hduties
  have htime : ∀ other ∈ [committee], tracker.bounds.contains other.slot = true →
      tracker.config.slotTime other.slot = .ok (tracker.config.startOf other.slot) := by
    intro other hmem _
    rw [List.mem_singleton.mp hmem]
    exact htimed
  show tracker.Records (if members.isEmpty = true then mid else mid.openFor committee.key members) _
  split
  · next hempty =>
    -- A committee without members who owe anything is not taken, so no key changes.
    refine ⟨hsound, hframe, hmet, htime, howed, ?_⟩
    intro key position
    rw [hpending, lastTaken_singleton, if_neg]
    · rfl
    · intro htaken
      rw [(takes_iff hin).mp htaken.2] at hempty
      cases hempty
  · next hsome =>
    have hne : members.isEmpty = false := Bool.eq_false_iff.mpr hsome
    refine ⟨hsound.openFor hne ?_, hframe, hmet, htime, howed, ?_⟩
    · intro position place hpos
      obtain ⟨validator, hat, howing⟩ := Option.bind_eq_some_iff.mp
        ((getElem?_owingMembers).symm.trans hpos)
      have hv : mid.validators[validator]? = some place := by
        rw [show mid.validators = tracker.validators from congrArg (·.validators) hframe]
        exact (owing?_eq_some.mp howing).1
      refine Owes.of_mem hv ?_
      rw [howed]
      exact Or.inr ⟨hin, Option.isSome_iff_exists.mpr ⟨place, howing⟩, committee,
        List.mem_singleton.mpr rfl, rfl, List.mem_of_getElem? hat⟩
    · exact h.pending_openFor hframe hduties ((takes_iff hin).mpr hne)

theorem Sound.records_outside (h : tracker.Sound)
    (hout : ¬ tracker.bounds.contains committee.slot = true) :
    tracker.Records tracker [committee] where
  sound := h
  frame := rfl
  met := rfl
  timed other hmem hin := absurd (List.mem_singleton.mp hmem ▸ hin) hout
  owed := by
    refine (Set.union_eq_self_of_subset_right ?_).symm
    intro x hx
    obtain ⟨hin, -, other, hmem, hslot, -⟩ := hx
    rw [← hslot, List.mem_singleton.mp hmem] at hin
    exact absurd hin hout
  pending key position := by
    rw [lastTaken_singleton, if_neg]
    · rfl
    · intro h'
      obtain ⟨-, htakes⟩ := h'
      exact hout (Bool.and_eq_true_iff.mp htakes).1

/-! ### All committees

Committees are taken in one by one, and what they make due adds up.
-/

/-- **Taking in committees.**  The only fault is a slot of the interval whose start has no word. -/
theorem Sound.record (committees : List Committee) :
    ∀ {tracker : Tracker}, tracker.Sound →
      Ends (record committees) tracker
        (fun _ after => tracker.Records after committees)
        (∃ committee ∈ committees, tracker.bounds.contains committee.slot = true ∧
          ∃ fault, tracker.config.slotTime committee.slot = .error fault) := by
  induction committees with
  | nil =>
      intro tracker h
      exact ends_pure h.records_nil
  | cons committee rest ih =>
      intro tracker h
      have hrest : ∀ {mid : Tracker}, tracker.Records mid [committee] →
          Ends (Tracker.record rest) mid
            (fun _ after => tracker.Records after (committee :: rest))
            (∃ other ∈ committee :: rest, tracker.bounds.contains other.slot = true ∧
              ∃ fault, tracker.config.slotTime other.slot = .error fault) := by
        intro mid hmid
        have hbounds : mid.bounds = tracker.bounds := congrArg (·.bounds) hmid.frame
        have hconfig : mid.config = tracker.config := congrArg (·.config) hmid.frame
        refine (ih hmid.sound).mono (fun _ _ hr => hmid.trans hr) ?_
        intro h'
        obtain ⟨other, hmem, hfault⟩ := h'
        rw [hbounds, hconfig] at hfault
        exact ⟨other, List.mem_cons_of_mem _ hmem, hfault⟩
      unfold Tracker.record
      rw [ends_bind]
      apply ends_get
      by_cases hin : tracker.bounds.contains committee.slot = true
      · rw [if_pos hin, ends_bind]
        apply ends_mk
        · intro time htime
          obtain rfl := BeaconConfig.eq_startOf htime
          rw [ends_bind]
          refine (recordOne_ends h.reaches _ committee).mono ?_ False.elim
          intro _ _ hmid
          rw [hmid]
          exact hrest (h.recordAt hin htime)
        · intro fault hfault
          exact ⟨committee, List.mem_cons_self, hin, fault, hfault⟩
      · rw [if_neg hin]
        exact hrest (h.records_outside hin)

end Tracker

end PoolRewards
