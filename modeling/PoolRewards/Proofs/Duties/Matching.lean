/-
What taking in attestations does to a tracker.

The open duties are read as a function: `pending` gives the validator that still owes an
attestation at a position of a committee.  Attestations close every position whose bit one
of them shows, and a validator has met its duty of a slot as soon as one of its positions
is closed.  Neither depends on the order of the attestations, or on how often a bit is
shown.  The only thing that can go wrong is the count of attestations, and that only if
more of them are met than there are words.
-/
import PoolRewards.Proofs.Duties.Soundness
import PoolRewards.Proofs.Ends

namespace PoolRewards

open Std (ExtTreeMap)

namespace Attestation

/-- The committee that an attestation is from. -/
def key (attestation : Attestation) : DutyKey := ⟨attestation.slot, attestation.committee⟩

end Attestation

/-- One of some attestations shows the bit of a position. -/
def Shows (attestations : List Attestation) (key : DutyKey) (position : Nat) : Prop :=
  ∃ attestation ∈ attestations, attestation.key = key ∧ attestation.bits.has position = true

theorem shows_append {first second : List Attestation} {key : DutyKey} {position : Nat} :
    Shows (first ++ second) key position ↔ Shows first key position ∨ Shows second key position := by
  simp only [Shows, List.mem_append, or_and_right, exists_or]

namespace Tracker

variable {tracker after : Tracker} {validator : UInt64} {place : Place} {node : PoolNode}
  {minipool : PoolMinipool} {slot : UInt64} {key : DutyKey} {position : Nat}

/-- The validator that the minipool at a place knows. -/
def validatorAt (tracker : Tracker) (place : Place) : Option UInt64 :=
  (tracker.at? place).bind (·.2.validator)

theorem validatorAt_of_frame (hframe : after.frame = tracker.frame) :
    after.validatorAt = tracker.validatorAt := by
  have key : ∀ t : Tracker, t.frame.validatorAt = t.validatorAt := by
    intro t
    funext place
    unfold validatorAt
    rw [at?_frame]
    rcases t.at? place with _ | ⟨node, minipool⟩ <;> rfl
  rw [← key after, hframe, key]

/-- The validator that still owes an attestation at a position of a committee. -/
def pending (tracker : Tracker) (key : DutyKey) (position : Nat) : Option UInt64 := do
  let positions ← tracker.duties[key]?
  let place ← positions[position]?
  tracker.validatorAt place

theorem Sound.validatorAt (h : tracker.Sound) (hv : tracker.validators[validator]? = some place) :
    tracker.validatorAt place = some validator := by
  obtain ⟨node, minipool, hat, hval, -⟩ := h.linked hv
  rw [Tracker.validatorAt, hat]
  exact hval

theorem Sound.pending_eq_some (h : tracker.Sound) :
    tracker.pending key position = some validator ↔
      ∃ positions place, tracker.duties[key]? = some positions ∧
        positions[position]? = some place ∧ tracker.validators[validator]? = some place := by
  unfold pending
  refine ⟨?_, ?_⟩
  · intro hp
    obtain ⟨positions, hd, hp⟩ := Option.bind_eq_some_iff.mp hp
    obtain ⟨place, hpos, hp⟩ := Option.bind_eq_some_iff.mp hp
    obtain ⟨other, node, minipool, hv, -⟩ := (h.duty hd).2 position place hpos
    rw [h.validatorAt hv] at hp
    cases hp
    exact ⟨positions, place, hd, hpos, hv⟩
  · intro h'
    obtain ⟨positions, place, hd, hpos, hv⟩ := h'
    simp [hd, hpos, h.validatorAt hv]

/-- Which validator is where is a matter of the frame. -/
theorem pending_of_frame (hframe : after.frame = tracker.frame)
    (hduties : after.duties = tracker.duties) : after.pending = tracker.pending := by
  funext key position
  unfold pending
  rw [hduties, validatorAt_of_frame hframe]

/-! ### One minipool

A duty is met by the minipool at its place, once.  The second time it is seen nothing
happens, so the set of what is met is the whole of what one duty does.
-/

/-- The tracker `after` differs in what is met, and in the duties still open. -/
structure Advances (tracker after : Tracker) (met : Set (UInt64 × UInt64)) : Prop where
  sound : after.Sound
  frame : after.frame = tracker.frame
  owed : after.owed = tracker.owed
  met : after.met = met

theorem count_ends (score : Amount) :
    Ends (count score) tracker
      (fun _ after => ∃ totals : AttestationTotals, after = { tracker with totals } ∧
        totals.score = tracker.totals.score + score ∧
        totals.successful.toNat = tracker.totals.successful.toNat + 1)
      (tracker.totals.successful.toNat + 1 = UInt64.size) := by
  unfold count
  rw [ends_bind]
  apply ends_modify
  rw [ends_bind]
  apply ends_get
  rw [ends_bind]
  apply ends_mk
  · intro successful hok
    apply ends_set
    exact ⟨⟨_, successful⟩, rfl, rfl, Word.add_eq_ok_iff.mp hok⟩
  · intro fault hfault
    have hlt := tracker.totals.successful.toNat_lt_size
    unfold Word.add at hfault
    split at hfault
    · cases hfault
    · next hge =>
      have hsame : ({ tracker with totals.score := tracker.totals.score + score } :
        Tracker).totals.successful = tracker.totals.successful := rfl
      rw [hsame, UInt64.toNat_one] at hge
      omega

theorem ends_fulfill {time : UInt64} {post : Unit → Tracker → Prop} {halt : Prop}
    (hat : tracker.at? place = some (node, minipool))
    (h : Ends (if minipool.fulfilled.contains slot then pure () else do
      modify (·.modifyAt place (·.fulfill slot))
      if node.isOptedInAt time then
        modify (·.modifyAt place (·.complete slot time))
        Tracker.count (minipool.bond.scoreAt time) : Tracking Unit) tracker post halt) :
    Ends (fulfill slot time place) tracker post halt := by
  obtain ⟨hn, hm⟩ := at?_eq_some.mp hat
  unfold Tracker.fulfill
  rw [ends_bind]
  apply ends_get
  rw [elementAt_eq_ok hn, ends_bind]
  apply ends_ok
  rw [elementAt_eq_ok hm, ends_bind]
  apply ends_ok
  exact h

/-- A minipool that owes an attestation has it seen. -/
theorem Sound.fulfill (h : tracker.Sound) (hv : tracker.validators[validator]? = some place)
    (howes : (validator, slot) ∈ tracker.owed) :
    Ends (fulfill slot (tracker.config.startOf slot) place) tracker
      (fun _ after => after.duties = tracker.duties ∧
        tracker.Advances after (insert (validator, slot) tracker.met))
      (UInt64.size ≤ (insert (validator, slot) tracker.met).ncard) := by
  obtain ⟨node, minipool, hat, -⟩ := h.linked hv
  have howed : slot ∈ minipool.owed := (mem_slotsOf_of_tracked hv hat _ _).mp howes
  have hcan := (h.minipool hat).owed slot howed
  refine ends_fulfill hat ?_
  split
  · next hmet =>
    have hin : (validator, slot) ∈ tracker.met :=
      (mem_slotsOf_of_tracked hv hat _ _).mpr (Std.ExtTreeSet.contains_iff_mem.mp hmet)
    refine ends_pure ⟨rfl, h, rfl, rfl, ?_⟩
    rw [Set.insert_eq_of_mem hin]
  · next hnew =>
    have hnew : slot ∉ minipool.fulfilled := fun hc => hnew (Std.ExtTreeSet.contains_iff_mem.mpr hc)
    have hfresh : (validator, slot) ∉ tracker.met := fun hc =>
      hnew ((mem_slotsOf_of_tracked hv hat _ _).mp hc)
    rw [ends_bind]
    apply ends_modify
    rw [if_pos hcan.optedIn, ends_bind]
    apply ends_modify
    rw [modifyAt_modifyAt]
    refine (count_ends _).mono ?_ ?_
    · intro _ after h'
      obtain ⟨totals, rfl, hscore, hsuccessful⟩ := h'
      obtain ⟨hsound, howed', hmet⟩ := h.attest hv hat howed hnew hscore hsuccessful
      exact ⟨rfl, hsound, frame_change _ fun _ => rfl, howed', hmet⟩
    · intro hfull
      rw [Set.ncard_insert_of_notMem hfresh, ← h.counted]
      exact le_of_eq hfull.symm

/-- The duties of a slot that stand at some places. -/
def duesAt (tracker : Tracker) (slot : UInt64) (places : List Place) : Set (UInt64 × UInt64) :=
  {x | x.2 = slot ∧ ∃ place ∈ places, tracker.validators[x.1]? = some place}

theorem Sound.duesAt_cons (h : tracker.Sound) (hv : tracker.validators[validator]? = some place)
    (places : List Place) :
    tracker.duesAt slot (place :: places) =
      insert (validator, slot) (tracker.duesAt slot places) := by
  ext ⟨other, slot'⟩
  simp only [duesAt, Set.mem_ofPred_eq, Set.mem_insert_iff, Prod.mk.injEq, List.mem_cons]
  refine ⟨?_, ?_⟩
  · intro h'
    obtain ⟨hs, place', rfl | hp, hv'⟩ := h'
    · exact Or.inl ⟨h.validator_unique hv hv', hs⟩
    · exact Or.inr ⟨hs, place', hp, hv'⟩
  · intro hcases
    rcases hcases with ⟨rfl, hs⟩ | ⟨hs, place', hp, hv'⟩
    · exact ⟨hs, place, Or.inl rfl, hv⟩
    · exact ⟨hs, place', Or.inr hp, hv'⟩

/-- Minipools that owe an attestation at a slot have it seen. -/
theorem Sound.fulfillAll (places : List Place) :
    ∀ {tracker : Tracker}, tracker.Sound →
      (∀ place ∈ places, ∃ validator : UInt64, tracker.validators[validator]? = some place ∧
        (validator, slot) ∈ tracker.owed) →
      Ends (fulfillAll slot (tracker.config.startOf slot) places) tracker
        (fun _ after => after.duties = tracker.duties ∧
          tracker.Advances after (tracker.met ∪ tracker.duesAt slot places))
        (UInt64.size ≤ (tracker.met ∪ tracker.duesAt slot places).ncard) := by
  induction places with
  | nil =>
      intro tracker h _
      refine ends_pure ⟨rfl, h, rfl, rfl, ?_⟩
      ext x
      simp [duesAt]
  | cons place rest ih =>
      intro tracker h hall
      obtain ⟨validator, hv, howed⟩ := hall place (by simp)
      have hsplit : tracker.met ∪ tracker.duesAt slot (place :: rest) =
          insert (validator, slot) tracker.met ∪ tracker.duesAt slot rest := by
        rw [h.duesAt_cons hv, Set.insert_union, Set.union_insert]
      rw [hsplit]
      unfold Tracker.fulfillAll
      rw [ends_bind]
      refine (h.fulfill hv howed).mono ?_ ?_
      · intro _ mid h'
        obtain ⟨hduties, hsound, hframe, howed', hmet⟩ := h'
        have hconfig : mid.config = tracker.config := congrArg (·.config) hframe
        have hvalidators : mid.validators = tracker.validators := congrArg (·.validators) hframe
        have hdues : mid.duesAt slot rest = tracker.duesAt slot rest := by
          unfold duesAt
          rw [hvalidators]
        have hrest := ih hsound (by
          intro place' hp
          rw [hvalidators, howed']
          exact hall place' (by simp [hp]))
        rw [hconfig, hdues, hmet] at hrest
        refine hrest.mono ?_ id
        intro _ after h'
        obtain ⟨hduties', hsound', hframe', howed'', hmet'⟩ := h'
        exact ⟨hduties'.trans hduties, hsound', hframe'.trans hframe, howed''.trans howed', hmet'⟩
      · intro hfull
        exact hfull.trans (Set.ncard_le_ncard Set.subset_union_left)

/-! ### One attestation

An attestation closes positions of one committee and leaves those of all others.  It meets
the duties of the places that stood there, and what it has closed it cannot meet again.
-/

/-- What is met once some attestations have been taken in. -/
def metAfter (tracker : Tracker) (attestations : List Attestation) : Set (UInt64 × UInt64) :=
  tracker.met ∪ {x | ∃ committee position, tracker.pending ⟨x.2, committee⟩ position = some x.1 ∧
    Shows attestations ⟨x.2, committee⟩ position}

/-- The tracker `after` has taken in some attestations. -/
structure Matches (tracker after : Tracker) (attestations : List Attestation) : Prop
    extends tracker.Advances after (tracker.metAfter attestations) where
  pending : ∀ key position validator, after.pending key position = some validator ↔
    tracker.pending key position = some validator ∧ ¬ Shows attestations key position

theorem metAfter_mono {first second : List Attestation} (h : first ⊆ second) :
    tracker.metAfter first ⊆ tracker.metAfter second := by
  refine Set.union_subset_union_right _ ?_
  intro x h'
  obtain ⟨committee, position, hp, attestation, hmem, hshows⟩ := h'
  exact ⟨committee, position, hp, attestation, h hmem, hshows⟩

theorem Sound.matches_nil (h : tracker.Sound) : tracker.Matches tracker [] where
  sound := h
  frame := rfl
  owed := rfl
  met := by
    unfold metAfter
    simp [Shows]
  pending key position validator := by simp [Shows]

theorem Matches.metAfter {first second : List Attestation} (h : tracker.Matches after first) :
    after.metAfter second = tracker.metAfter (first ++ second) := by
  ext x
  simp only [Tracker.metAfter, h.met, Set.mem_union, Set.mem_ofPred_eq, h.pending, shows_append]
  refine ⟨?_, ?_⟩
  · intro hcases
    rcases hcases with (hmet | ⟨committee, position, hp, hs⟩) | ⟨committee, position, ⟨hp, -⟩, hs⟩
    · exact Or.inl hmet
    · exact Or.inr ⟨committee, position, hp, Or.inl hs⟩
    · exact Or.inr ⟨committee, position, hp, Or.inr hs⟩
  · intro hcases
    rcases hcases with hmet | ⟨committee, position, hp, hs⟩
    · exact Or.inl (Or.inl hmet)
    · by_cases hf : Shows first ⟨x.2, committee⟩ position
      · exact Or.inl (Or.inr ⟨committee, position, hp, hf⟩)
      · exact Or.inr ⟨committee, position, ⟨hp, hf⟩, hs.resolve_left hf⟩

theorem Matches.trans {last : Tracker} {first second : List Attestation}
    (h : tracker.Matches after first) (h' : after.Matches last second) :
    tracker.Matches last (first ++ second) where
  sound := h'.sound
  frame := h'.frame.trans h.frame
  owed := h'.owed.trans h.owed
  met := h'.met.trans h.metAfter
  pending key position validator := by
    rw [h'.pending, h.pending, shows_append, not_or, and_assoc]

/-- Other duties are sound if they are owed. -/
theorem Sound.with_duties (h : tracker.Sound) {duties : ExtTreeMap DutyKey (ExtTreeMap Nat Place)}
    (hduties : ∀ (key : DutyKey) (positions : ExtTreeMap Nat Place), duties[key]? = some positions →
      positions.isEmpty = false ∧
        ∀ (position : Nat) (place : Place), positions[position]? = some place →
          tracker.Owes place key.slot) :
    ({ tracker with duties } : Tracker).Sound where
  minipool := h.minipool
  linked := h.linked
  untracked := h.untracked
  duty := hduties _ _
  score := h.score
  successful := h.successful
  counted := h.counted

variable {positions : ExtTreeMap Nat Place}

theorem getElem?_leave (other : DutyKey) :
    (tracker.leave key positions).duties[other]? =
      if key = other then (if positions.isEmpty then none else some positions)
      else tracker.duties[other]? := by
  unfold leave
  by_cases hempty : positions.isEmpty = true
  · simp only [hempty, if_true, ExtTreeMap.getElem?_erase, Std.LawfulEqCmp.compare_eq_iff_eq]
  · simp only [hempty, if_false, ExtTreeMap.getElem?_insert, Std.LawfulEqCmp.compare_eq_iff_eq,
      Bool.false_eq_true]

/-- What is open once some positions of a committee are closed was open before. -/
theorem exists_opened_of_leave (hd : tracker.duties[key]? = some positions)
    {keep : Nat → Place → Bool} {other : DutyKey} {left : ExtTreeMap Nat Place}
    (hl : (tracker.leave key (positions.filter keep)).duties[other]? = some left) :
    ∃ opened, tracker.duties[other]? = some opened ∧ (left = opened ∨ left ≠ ∅) ∧
      ∀ (position : Nat) (place : Place), left[position]? = some place → opened[position]? = some place := by
  rw [getElem?_leave] at hl
  by_cases hkey : key = other
  · subst hkey
    rw [if_pos rfl] at hl
    by_cases hempty : (positions.filter keep).isEmpty = true
    · simp [hempty] at hl
    · rw [if_neg hempty, Option.some.injEq] at hl
      subst hl
      refine ⟨positions, hd, Or.inr ?_, ?_⟩
      · exact fun hnone => hempty (ExtTreeMap.isEmpty_iff.mpr hnone)
      · intro position place hpos
        rw [ExtTreeMap.getElem?_filter'] at hpos
        exact Option.eq_some_of_filter_eq_some hpos
  · rw [if_neg hkey] at hl
    exact ⟨left, hl, Or.inl rfl, fun _ _ hpos => hpos⟩

theorem Sound.leave (h : tracker.Sound)
    (hd : tracker.duties[key]? = some positions) (keep : Nat → Place → Bool) :
    (tracker.leave key (positions.filter keep)).Sound := by
  refine h.with_duties ?_
  intro other left hl
  obtain ⟨opened, hopened, hsome, hbefore⟩ := exists_opened_of_leave hd hl
  refine ⟨?_, ?_⟩
  · obtain rfl | hne := hsome
    · exact (h.duty hopened).1
    · simpa using hne
  · intro position place hpos
    exact (h.duty hopened).2 position place (hbefore position place hpos)

theorem pending_leave (hd : tracker.duties[key]? = some positions)
    (keep : Nat → Bool) (other : DutyKey) (position : Nat) :
    (tracker.leave key (positions.filter fun position _ => keep position)).pending other position =
        some validator ↔
      tracker.pending other position = some validator ∧ (key = other → keep position = true) := by
  have hplace : ∀ left : ExtTreeMap Nat Place,
      ((if left.isEmpty then none else some left).bind fun left => left[position]?) =
        left[position]? := by
    intro left
    split
    · next hempty => rw [ExtTreeMap.isEmpty_iff.mp hempty, ExtTreeMap.getElem?_empty]; rfl
    · rfl
  have hpending : ∀ t : Tracker, t.pending other position =
      ((t.duties[other]?.bind fun positions => positions[position]?).bind t.validatorAt) := by
    intro t
    rw [Option.bind_assoc]
    rfl
  have hsame : (tracker.leave key (positions.filter fun position _ => keep position)).validatorAt =
      tracker.validatorAt := rfl
  rw [hpending, hpending, getElem?_leave, hsame]
  by_cases hkey : key = other
  · subst hkey
    rw [if_pos rfl, hplace, hd, ExtTreeMap.getElem?_filter']
    by_cases hk : keep position = true <;> simp [hk, Option.bind_eq_some_iff]
  · simp [hkey]

theorem Sound.exists_position (h : tracker.Sound) (hd : tracker.duties[key]? = some positions) :
    ∃ (position : Nat) (place : Place), positions[position]? = some place := by
  by_contra hno
  have hempty : positions = ∅ := by
    refine ExtTreeMap.eq_empty_iff_forall_not_mem.mpr fun position hp => ?_
    obtain ⟨place, hplace⟩ := Option.isSome_iff_exists.mp
      (ExtTreeMap.isSome_getElem?_iff_mem.mpr hp)
    exact hno ⟨position, place, hplace⟩
  have hne := (h.duty hd).1
  rw [hempty, ExtTreeMap.isEmpty_empty] at hne
  cases hne

theorem Sound.timed_of_duty (h : tracker.Sound) (hd : tracker.duties[key]? = some positions) :
    tracker.config.slotTime key.slot = .ok (tracker.config.startOf key.slot) := by
  obtain ⟨position, place, hplace⟩ := h.exists_position hd
  obtain ⟨validator, node, minipool, -, hat, howed⟩ := (h.duty hd).2 position place hplace
  exact ((h.minipool hat).owed _ howed).timed

/-- The places whose attestation an attestation shows. -/
def shownPlaces (positions : ExtTreeMap Nat Place) (attestation : Attestation) : List Place :=
  (positions.filter fun position _ => attestation.bits.has position).toList.map (·.2)

theorem mem_shownPlaces {attestation : Attestation} :
    place ∈ shownPlaces positions attestation ↔
      ∃ position : Nat, positions[position]? = some place ∧ attestation.bits.has position = true := by
  unfold shownPlaces
  rw [List.mem_map]
  refine ⟨?_, ?_⟩
  · intro h
    obtain ⟨⟨position, place'⟩, hmem, rfl⟩ := h
    rw [ExtTreeMap.mem_toList_iff_getElem?_eq_some, ExtTreeMap.getElem?_filter',
      Option.filter_eq_some_iff] at hmem
    exact ⟨position, hmem⟩
  · intro h
    obtain ⟨position, hpos⟩ := h
    refine ⟨(position, place), ?_, rfl⟩
    rw [ExtTreeMap.mem_toList_iff_getElem?_eq_some, ExtTreeMap.getElem?_filter',
      Option.filter_eq_some_iff]
    exact hpos

theorem shows_singleton {attestation : Attestation} :
    Shows [attestation] key position ↔
      attestation.key = key ∧ attestation.bits.has position = true := by
  simp [Shows]

theorem Sound.metAfter_singleton (h : tracker.Sound) {attestation : Attestation}
    (hd : tracker.duties[attestation.key]? = some positions) :
    tracker.metAfter [attestation] =
      tracker.met ∪ tracker.duesAt attestation.slot (shownPlaces positions attestation) := by
  unfold metAfter duesAt
  congr 1
  ext ⟨validator, slot⟩
  simp only [Set.mem_ofPred_eq, mem_shownPlaces, shows_singleton, h.pending_eq_some]
  refine ⟨?_, ?_⟩
  · intro h'
    obtain ⟨committee, position, ⟨positions', place, hd', hpos, hv⟩, hkey, hbit⟩ := h'
    rw [← hkey, hd] at hd'
    cases hd'
    exact ⟨(congrArg DutyKey.slot hkey).symm, place, ⟨position, hpos, hbit⟩, hv⟩
  · intro h'
    obtain ⟨rfl, place, ⟨position, hpos, hbit⟩, hv⟩ := h'
    exact ⟨attestation.committee, position, ⟨positions, place, hd, hpos, hv⟩, rfl, hbit⟩

/-- One attestation of a committee with open duties. -/
theorem Sound.match_one (h : tracker.Sound) {attestation : Attestation}
    (hd : tracker.duties[attestation.key]? = some positions) :
    Ends
      (Tracker.fulfillAll attestation.slot (tracker.config.startOf attestation.slot)
        (shownPlaces positions attestation))
      (tracker.leave attestation.key
        (positions.filter fun position _ => !attestation.bits.has position))
      (fun _ after => tracker.Matches after [attestation])
      (UInt64.size ≤ (tracker.metAfter [attestation]).ncard) := by
  have hleave := h.leave hd fun position _ => !attestation.bits.has position
  have howes : ∀ place ∈ shownPlaces positions attestation, ∃ validator : UInt64,
      tracker.validators[validator]? = some place ∧
        (validator, attestation.slot) ∈ tracker.owed := by
    intro place hp
    obtain ⟨position, hpos, -⟩ := mem_shownPlaces.mp hp
    obtain ⟨validator, node, minipool, hv, hat, howed⟩ := (h.duty hd).2 position place hpos
    exact ⟨validator, hv, (mem_slotsOf_of_tracked hv hat _ _).mpr howed⟩
  rw [h.metAfter_singleton hd]
  refine (hleave.fulfillAll _ howes).mono ?_ id
  intro _ after h'
  obtain ⟨hduties, hsound, hframe, howed, hmet⟩ := h'
  refine ⟨⟨hsound, hframe, howed, hmet.trans (h.metAfter_singleton hd).symm⟩, ?_⟩
  intro key position validator
  rw [pending_of_frame hframe hduties, pending_leave hd, shows_singleton]
  simp only [Bool.not_eq_true', Bool.not_eq_true, not_and]

theorem Sound.match_none (h : tracker.Sound) {attestation : Attestation}
    (hd : tracker.duties[attestation.key]? = none) : tracker.Matches tracker [attestation] := by
  have hclosed : ∀ (key : DutyKey) (position : Nat) (validator : UInt64),
      tracker.pending key position = some validator → ¬ Shows [attestation] key position := by
    intro key position validator hp hs
    obtain ⟨positions, place, hd', -⟩ := h.pending_eq_some.mp hp
    rw [← (shows_singleton.mp hs).1, hd] at hd'
    cases hd'
  refine ⟨⟨h, rfl, rfl, ?_⟩, ?_⟩
  · refine (Set.union_eq_self_of_subset_right ?_).symm
    intro x hx
    obtain ⟨validator, slot⟩ := x
    obtain ⟨committee, position, hp, hs⟩ := hx
    exact absurd hs (hclosed _ _ _ hp)
  · intro key position validator
    exact ⟨fun hp => ⟨hp, hclosed key position validator hp⟩, And.left⟩

/-! ### Attestations of one block, and of several

What several attestations do is told by all of them together.  So it does not matter how
they are spread over blocks, and the induction is on the list of them.
-/

/-- Taking in attestations closes what they show, and has a fault only if too many are met. -/
theorem Sound.check (attestations : List Attestation) :
    ∀ {tracker : Tracker}, tracker.Sound →
      Ends (check attestations) tracker
        (fun _ after => tracker.Matches after attestations)
        (UInt64.size ≤ (tracker.metAfter attestations).ncard) := by
  induction attestations with
  | nil =>
      intro tracker h
      exact ends_pure h.matches_nil
  | cons attestation rest ih =>
      intro tracker h
      have hrest : ∀ {mid : Tracker}, tracker.Matches mid [attestation] →
          Ends (Tracker.check rest) mid
            (fun _ after => tracker.Matches after (attestation :: rest))
            (UInt64.size ≤ (tracker.metAfter (attestation :: rest)).ncard) := by
        intro mid hmid
        rw [show attestation :: rest = [attestation] ++ rest from rfl, ← hmid.metAfter]
        exact (ih hmid.sound).mono (fun _ _ hm => hmid.trans hm) id
      unfold Tracker.check
      rw [ends_bind]
      apply ends_get
      dsimp only
      split
      · next hd => exact hrest (h.match_none hd)
      · next positions hd =>
        rw [ends_bind]
        apply ends_mk
        · intro time htime
          have hstart : time = tracker.config.startOf attestation.slot := BeaconConfig.eq_startOf htime
          subst hstart
          rw [ends_bind]
          apply ends_set
          rw [ends_bind]
          refine (h.match_one hd).mono (fun _ _ hm => hrest hm) ?_
          intro hfull
          refine hfull.trans (Set.ncard_le_ncard ?_)
          exact metAfter_mono fun x hx => List.mem_cons.mpr (Or.inl (List.mem_singleton.mp hx))
        · intro fault hfault
          have htime := h.timed_of_duty hd
          dsimp only at htime
          rw [hfault] at htime
          cases htime

/-- Several blocks are taken in as one that includes all their attestations. -/
theorem Sound.checkAll (blocks : List (List Attestation)) :
    ∀ {tracker : Tracker}, tracker.Sound →
      Ends (checkAll blocks) tracker
        (fun _ after => tracker.Matches after blocks.flatten)
        (UInt64.size ≤ (tracker.metAfter blocks.flatten).ncard) := by
  induction blocks with
  | nil =>
      intro tracker h
      exact ends_pure h.matches_nil
  | cons block rest ih =>
      intro tracker h
      unfold Tracker.checkAll
      rw [ends_bind, List.flatten_cons]
      refine (h.check block).mono ?_ ?_
      · intro _ mid hmid
        rw [← hmid.metAfter]
        exact (ih hmid.sound).mono (fun _ _ hm => hmid.trans hm) id
      · intro hfull
        exact hfull.trans (Set.ncard_le_ncard (metAfter_mono fun x hx => List.mem_append_left _ hx))

/-! ### Duties that are past

Pruning only takes open duties away, so whatever is sound stays so.
-/

/-- Pruning forgets the open duties of slots before the epoch before. -/
theorem Sound.prune (h : tracker.Sound) (epoch : UInt64) :
    Ends (prune epoch) tracker
      (fun _ after => tracker.Advances after tracker.met ∧
        ∃ oldest, tracker.config.firstSlotOf (Word.less epoch 1) = .ok oldest ∧
          ∀ key position, after.pending key position =
            if oldest ≤ key.slot then tracker.pending key position else none)
      (∃ fault, tracker.config.firstSlotOf (Word.less epoch 1) = .error fault) := by
  unfold Tracker.prune
  rw [ends_bind]
  apply ends_get
  rw [ends_bind]
  apply ends_mk
  · intro oldest hoff
    apply ends_modify
    have hkept : ∀ key : DutyKey, (tracker.dropBefore oldest).duties[key]? =
        tracker.duties[key]?.filter fun _ => decide (oldest ≤ key.slot) := by
      intro key
      exact ExtTreeMap.getElem?_filter'
    refine ⟨⟨h.with_duties ?_, rfl, rfl, rfl⟩, oldest, hoff, ?_⟩
    · intro key positions hd
      exact h.duty (Option.eq_some_of_filter_eq_some ((hkept key).symm.trans hd))
    · intro key position
      show ((tracker.dropBefore oldest).duties[key]?.bind _) = _
      rw [hkept]
      by_cases hle : oldest ≤ key.slot
      · have hsame : (tracker.duties[key]?.filter fun _ => decide (oldest ≤ key.slot)) =
            tracker.duties[key]? := by
          cases tracker.duties[key]? <;> simp [hle]
        rw [hsame, if_pos hle]
        rfl
      · simp [hle]
  · intro fault hfault
    exact ⟨fault, hfault⟩

end Tracker

end PoolRewards
