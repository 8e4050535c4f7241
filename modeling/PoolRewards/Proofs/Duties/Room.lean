/-
No step on a tracker has a fault.

Slots come from the network and may be any words.  A time is worked out only for a slot of the
interval: committees of other slots say nothing, so no duty is ever open at one, and an
attestation is looked up before its time is worked out.  A place is looked up only if it is that
of a tracked validator, and there a minipool stands.  The one number that grows is the count of
attestations.  What it can still grow by is `unmet`, the pairs of a tracked validator and a
slot of the interval that was not seen: counting an attestation takes at least one pair away, and
nothing else brings one back.  So the count and the number of pairs together never grow, and if
the pairs there are at first leave room in a word, no count wraps.

Nothing is asked of the nodes.  They may come with any duties, as long as the tracker was made
for them.
-/
import PoolRewards.Proofs.Duties.Recording

namespace PoolRewards

open Std (ExtTreeMap)

/-- The times and slots of an interval and of the epochs that are walked for it are words. -/
structure IntervalBounds.Fit (bounds : IntervalBounds) (config : BeaconConfig) : Prop where
  slots : 1 ≤ config.slotsPerEpoch
  ordered : bounds.firstSlot ≤ bounds.lastSlot
  times : config.genesisTime.toNat + bounds.lastSlot.toNat * config.secondsPerSlot.toNat < UInt64.size
  epochs : (config.epochNumber bounds.lastSlot + 2) * config.slotsPerEpoch.toNat < UInt64.size

theorem IntervalBounds.Fit.slotTime {bounds : IntervalBounds} {config : BeaconConfig} {slot : UInt64}
    (h : bounds.Fit config) (hin : bounds.contains slot = true) :
    config.slotTime slot = .ok (config.startOf slot) := by
  have hlast : slot ≤ bounds.lastSlot := by
    rw [IntervalBounds.contains, Bool.and_eq_true, decide_eq_true_eq, decide_eq_true_eq] at hin
    exact hin.2
  have hmul := Nat.mul_le_mul_right config.secondsPerSlot.toNat (UInt64.le_iff_toNat_le.mp hlast)
  exact config.slotTime_of_lt (Nat.lt_of_le_of_lt (Nat.add_le_add_left hmul _) h.times)

namespace Tracker

variable {start tracker : Tracker} {validator : UInt64} {place other : Place} {node : PoolNode}
  {minipool : PoolMinipool} {slot time : UInt64} {key : DutyKey} {positions : ExtTreeMap Nat Place}
  {f : PoolMinipool → PoolMinipool}

/-! ### What can still be counted

The pairs are finitely many, as there are finitely many validators and slots, and `ncard`
counts them.  A change that forgets nothing seen can only take pairs away.
-/

/-- Validators with the slots of the interval for which no attestation of theirs was seen. -/
def unmet (tracker : Tracker) : Set (UInt64 × UInt64) :=
  {x | tracker.bounds.contains x.2 = true ∧
    ∃ node minipool, tracker.linked? x.1 = some (node, minipool) ∧ x.2 ∉ minipool.fulfilled}

theorem unmet_modifyAt (hgrow : ∀ minipool, ∀ slot ∈ minipool.fulfilled, slot ∈ (f minipool).fulfilled) :
    (tracker.modifyAt place f).unmet ⊆ tracker.unmet := by
  intro x hx
  obtain ⟨hin, node, minipool, hlinked, hunseen⟩ := hx
  obtain ⟨other, hv, hat⟩ := Option.bind_eq_some_iff.mp hlinked
  have hv : tracker.validators[x.1]? = some other := hv
  obtain ⟨node', minipool', hat', hminipool, -⟩ := at?_modifyAt hat
  refine ⟨hin, node', minipool', (linked?_of_validators hv).trans hat', ?_⟩
  intro hseen
  apply hunseen
  rw [hminipool]
  split
  · exact hgrow minipool' x.2 hseen
  · exact hseen

/-- **An attestation that is seen for the first time takes a pair away.** -/
theorem ncard_unmet_modifyAt (hv : tracker.validators[validator]? = some place)
    (hat : tracker.at? place = some (node, minipool)) (hin : tracker.bounds.contains slot = true)
    (hnew : slot ∉ minipool.fulfilled)
    (hf : ∀ minipool, (f minipool).fulfilled = minipool.fulfilled.insert slot) :
    (tracker.modifyAt place f).unmet.ncard + 1 ≤ tracker.unmet.ncard := by
  have hsub : (tracker.modifyAt place f).unmet ⊆ tracker.unmet := by
    refine unmet_modifyAt ?_
    intro minipool other hseen
    rw [hf]
    exact SlotSet.mem_insert_iff.mpr (Or.inr hseen)
  have hbefore : (validator, slot) ∈ tracker.unmet :=
    ⟨hin, node, minipool, (linked?_of_validators hv).trans hat, hnew⟩
  have hafter : (validator, slot) ∉ (tracker.modifyAt place f).unmet := by
    intro hunmet
    obtain ⟨-, node', minipool', hlinked, hunseen⟩ := hunmet
    have hv' : (tracker.modifyAt place f).validators[validator]? = some place := hv
    have hself := (linked?_of_validators hv').trans (at?_modifyAt_self (f := f) hat)
    rw [hself] at hlinked
    cases hlinked
    apply hunseen
    rw [hf]
    exact SlotSet.mem_insert_iff.mpr (Or.inl rfl)
  exact Set.ncard_lt_ncard ⟨hsub, fun hback => hafter (hback hbefore)⟩

/-! ### The invariant

The guard is about the tracker at hand and the one that it started as.  Validators and
bounds never change, so the open duties may be described by those of the start.
-/

/-- The minipool at a place is tracked. -/
def Tracks (tracker : Tracker) (place : Place) : Prop :=
  ∃ validator : UInt64, tracker.validators[validator]? = some place

/-- A tracker on which no step has a fault: its validators are those of the tracker that it started
as, each has a minipool, the open duties are theirs and of slots of the interval, and there is room
to count what can still be counted. -/
structure Guarded (start tracker : Tracker) : Prop where
  config : tracker.config = start.config
  bounds : tracker.bounds = start.bounds
  validators : tracker.validators = start.validators
  linked : ∀ {place : Place}, start.Tracks place →
    ∃ node minipool, tracker.at? place = some (node, minipool)
  duty : ∀ {key : DutyKey} {positions : ExtTreeMap Nat Place}, tracker.duties[key]? = some positions →
    start.bounds.contains key.slot = true ∧
      ∀ (position : Nat) (place : Place), positions[position]? = some place → start.Tracks place
  room : tracker.totals.successful.toNat + tracker.unmet.ncard < UInt64.size

/-- A change of one minipool that takes nothing seen away, with totals that there is room for. -/
theorem Guarded.change (h : Guarded start tracker) (totals : AttestationTotals)
    (hroom : totals.successful.toNat + (tracker.modifyAt place f).unmet.ncard < UInt64.size) :
    Guarded start (tracker.change place f totals) where
  config := h.config
  bounds := h.bounds
  validators := h.validators
  linked htracks := by
    obtain ⟨node, minipool, hat⟩ := h.linked htracks
    exact exists_at?_modifyAt hat
  duty := h.duty
  room := hroom

theorem Guarded.modifyAt (h : Guarded start tracker)
    (hgrow : ∀ minipool, ∀ slot ∈ minipool.fulfilled, slot ∈ (f minipool).fulfilled) :
    Guarded start (tracker.modifyAt place f) :=
  h.change tracker.totals
    (Nat.lt_of_le_of_lt (Nat.add_le_add_left (Set.ncard_le_ncard (unmet_modifyAt hgrow)) _) h.room)

theorem Guarded.with_duties (h : Guarded start tracker) {duties : ExtTreeMap DutyKey (ExtTreeMap Nat Place)}
    (hduties : ∀ (key : DutyKey) (positions : ExtTreeMap Nat Place), duties[key]? = some positions →
      start.bounds.contains key.slot = true ∧
        ∀ (position : Nat) (place : Place), positions[position]? = some place → start.Tracks place) :
    Guarded start { tracker with duties } where
  config := h.config
  bounds := h.bounds
  validators := h.validators
  linked := h.linked
  duty := hduties _ _
  room := h.room

theorem Guarded.reaches (h : Guarded start tracker) : tracker.Reaches :=
  fun validator _ hv => h.linked ⟨validator, h.validators ▸ hv⟩

theorem Guarded.contains (h : Guarded start tracker) (slot : UInt64) :
    tracker.bounds.contains slot = start.bounds.contains slot := by
  rw [h.bounds]

theorem Guarded.slotTime (h : Guarded start tracker) (hfit : start.bounds.Fit start.config)
    (hin : start.bounds.contains slot = true) :
    tracker.config.slotTime slot = .ok (start.config.startOf slot) := by
  rw [h.config]
  exact hfit.slotTime hin

/-! ### Attestations

An attestation is looked up first.  If there is something open for it, its slot is one of
the interval and its places are tracked; and if there is nothing, neither its slot nor its
bits are looked at any further.
-/

/-- **A duty that is met is counted, and there is room to count it.** -/
theorem Guarded.fulfill (h : Guarded start tracker) (hin : start.bounds.contains slot = true)
    (hplace : start.Tracks place) :
    Ends (fulfill slot time place) tracker (fun _ after => Guarded start after) False := by
  obtain ⟨node, minipool, hat⟩ := h.linked hplace
  obtain ⟨validator, hv⟩ := hplace
  rw [← h.validators] at hv
  rw [← h.contains] at hin
  refine ends_fulfill hat ?_
  split
  · exact ends_pure h
  · next hunseen =>
    have hnew : slot ∉ minipool.fulfilled := fun hc => hunseen (Std.ExtTreeSet.contains_iff_mem.mpr hc)
    have hroom := h.room
    rw [ends_bind]
    apply ends_modify
    split
    · rw [ends_bind]
      apply ends_modify
      rw [modifyAt_modifyAt]
      have hspent :=
        ncard_unmet_modifyAt (f := fun m => (m.fulfill slot).complete slot time) hv hat hin hnew fun _ => rfl
      have htotals : (tracker.modifyAt place fun m => (m.fulfill slot).complete slot time).totals =
        tracker.totals := rfl
      refine (count_ends _).mono ?_ ?_
      · intro _ after h'
        obtain ⟨totals, rfl, -, hsuccessful⟩ := h'
        rw [htotals] at hsuccessful
        exact h.change totals (by omega)
      · intro hfull
        rw [htotals] at hfull
        omega
    · have hspent := ncard_unmet_modifyAt (f := (·.fulfill slot)) hv hat hin hnew fun _ => rfl
      refine ends_pure (h.change tracker.totals ?_)
      omega

theorem Guarded.fulfillAll (hin : start.bounds.contains slot = true) (places : List Place) :
    ∀ {tracker : Tracker}, Guarded start tracker → (∀ place ∈ places, start.Tracks place) →
      Ends (fulfillAll slot time places) tracker (fun _ after => Guarded start after) False := by
  induction places with
  | nil =>
      intro tracker h _
      exact ends_pure h
  | cons place rest ih =>
      intro tracker h hplaces
      unfold Tracker.fulfillAll
      rw [ends_bind]
      refine (h.fulfill hin (hplaces place List.mem_cons_self)).mono ?_ id
      intro _ mid hmid
      exact ih hmid fun other hmem => hplaces other (List.mem_cons_of_mem _ hmem)

theorem Guarded.leave (h : Guarded start tracker) (hd : tracker.duties[key]? = some positions)
    (keep : Nat → Place → Bool) : Guarded start (tracker.leave key (positions.filter keep)) := by
  refine h.with_duties ?_
  intro other left hl
  obtain ⟨opened, hopened, -, hbefore⟩ := exists_opened_of_leave hd hl
  refine ⟨(h.duty hopened).1, ?_⟩
  intro position place hpos
  exact (h.duty hopened).2 position place (hbefore position place hpos)

/-- **Attestations of any slots and committees, with any bits, are taken in without a fault.** -/
theorem Guarded.check (hfit : start.bounds.Fit start.config) (attestations : List Attestation) :
    ∀ {tracker : Tracker}, Guarded start tracker →
      Ends (check attestations) tracker (fun _ after => Guarded start after) False := by
  induction attestations with
  | nil =>
      intro tracker h
      exact ends_pure h
  | cons attestation rest ih =>
      intro tracker h
      unfold Tracker.check
      rw [ends_bind]
      apply ends_get
      dsimp only
      rcases hd : tracker.duties[(⟨attestation.slot, attestation.committee⟩ : DutyKey)]? with _ | positions
      · exact ih h
      · obtain ⟨hin, hplaces⟩ := h.duty hd
        dsimp only
        rw [ends_bind, h.slotTime hfit hin]
        apply ends_ok
        rw [ends_bind]
        apply ends_set
        rw [ends_bind]
        refine (Guarded.fulfillAll hin _ (h.leave hd _) ?_).mono (fun _ mid hmid => ih hmid) id
        intro place hmem
        obtain ⟨⟨position, place⟩, hseen, rfl⟩ := List.mem_map.mp hmem
        rw [ExtTreeMap.mem_toList_iff_getElem?_eq_some, ExtTreeMap.getElem?_filter'] at hseen
        exact hplaces position place (Option.eq_some_of_filter_eq_some hseen)

theorem Guarded.checkAll (hfit : start.bounds.Fit start.config) (blocks : List (List Attestation)) :
    ∀ {tracker : Tracker}, Guarded start tracker →
      Ends (checkAll blocks) tracker (fun _ after => Guarded start after) False := by
  induction blocks with
  | nil =>
      intro tracker h
      exact ends_pure h
  | cons attestations rest ih =>
      intro tracker h
      unfold Tracker.checkAll
      rw [ends_bind]
      exact (h.check hfit attestations).mono (fun _ mid hmid => ih hmid) id

/-! ### Committees

A committee of a slot outside the interval is passed over before its time is worked out.  Of
one inside, the members without a tracked validator are passed over.
-/

theorem Guarded.owe (slot : UInt64) (places : List Place) :
    ∀ {tracker : Tracker}, Guarded start tracker → Guarded start (tracker.owe slot places) := by
  induction places with
  | nil =>
      intro tracker h
      exact h
  | cons place rest ih =>
      intro tracker h
      exact ih (h.modifyAt fun _ _ hseen => hseen)

/-- A committee of a slot of the interval opens duties of tracked minipools. -/
theorem Guarded.recordAt (h : Guarded start tracker) {committee : Committee}
    (hin : start.bounds.contains committee.slot = true) :
    Guarded start (tracker.recordAt time committee) := by
  have howe := h.owe committee.slot ((tracker.owingMembers time committee).map (·.2))
  unfold Tracker.recordAt
  dsimp only
  split
  · exact howe
  · refine howe.with_duties ?_
    intro key positions hd
    simp only [ExtTreeMap.getElem?_insert, Std.LawfulEqCmp.compare_eq_iff_eq] at hd
    split at hd
    · next hkey =>
      subst hkey
      cases hd
      refine ⟨hin, ?_⟩
      intro position place hpos
      rw [getElem?_owingMembers] at hpos
      obtain ⟨validator, -, howing⟩ := Option.bind_eq_some_iff.mp hpos
      exact ⟨validator, h.validators ▸ (owing?_eq_some.mp howing).1⟩
    · exact howe.duty hd

/-- **Committees of any slots, with any members, are taken in without a fault.** -/
theorem Guarded.record (hfit : start.bounds.Fit start.config) (committees : List Committee) :
    ∀ {tracker : Tracker}, Guarded start tracker →
      Ends (record committees) tracker (fun _ after => Guarded start after) False := by
  induction committees with
  | nil =>
      intro tracker h
      exact ends_pure h
  | cons committee rest ih =>
      intro tracker h
      unfold Tracker.record
      rw [ends_bind]
      apply ends_get
      dsimp only
      split
      · next hin =>
        rw [h.contains] at hin
        rw [ends_bind, h.slotTime hfit hin]
        apply ends_ok
        rw [ends_bind]
        refine (recordOne_ends h.reaches _ committee).mono ?_ id
        intro _ _ hmid
        rw [hmid]
        exact ih (h.recordAt hin)
      · exact ih h

/-! ### Duties that are past

What remains open was open before.
-/

/-- **What is past is dropped without a fault**, behind any epoch whose first slot is a word. -/
theorem Guarded.prune (h : Guarded start tracker) {epoch : UInt64}
    (hepoch : epoch.toNat * start.config.slotsPerEpoch.toNat < UInt64.size) :
    Ends (prune epoch) tracker (fun _ after => Guarded start after) False := by
  obtain ⟨oldest, holdest, -⟩ := start.config.exists_oldest epoch hepoch
  unfold Tracker.prune
  rw [ends_bind]
  apply ends_get
  rw [ends_bind, h.config, holdest]
  apply ends_ok
  apply ends_modify
  refine h.with_duties ?_
  intro key positions hd
  rw [ExtTreeMap.getElem?_filter'] at hd
  exact h.duty (Option.eq_some_of_filter_eq_some hd)

end Tracker

end PoolRewards
