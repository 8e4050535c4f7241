/-
What is true of a tracker all the time.

The sets of slots, the scores, the totals and the duties still open are four records of
one thing.  `Sound` says how they hang together: a slot is owed only by a tracked minipool
and only inside the interval and the node's time in the pool; whatever is fulfilled is
owed, and counts; a score is what the completed slots are worth; the totals add up the
minipools; and an open duty belongs to a minipool that owes it.

Two changes keep a tracker sound, of one tracked minipool each: a further slot is owed, or
an owed slot is fulfilled and counted.
-/
import Mathlib.Data.FinEnum
import Mathlib.Data.Set.Card
import PoolRewards.Proofs.Beacon.Slots
import PoolRewards.Proofs.Duties.Places

namespace PoolRewards

open Std (ExtTreeMap)

/-! ### One minipool

The sets of one minipool and its score hang together by themselves.  The node matters only
for the times at which it is in the pool, and the configuration for the starts of slots.
-/

/-- What the attestations of some slots are worth together. -/
def BondHistory.scoreOver (bond : BondHistory) (config : BeaconConfig) (slots : SlotSet) : Amount :=
  (slots.toList.map fun slot => bond.scoreAt (config.startOf slot)).sum

theorem BondHistory.scoreOver_empty {bond : BondHistory} {config : BeaconConfig} :
    bond.scoreOver config ∅ = 0 := by
  have hnil : (∅ : SlotSet).toList = [] := by
    rw [← List.isEmpty_iff, Std.ExtTreeSet.isEmpty_toList, Std.ExtTreeSet.isEmpty_empty]
  rw [scoreOver, hnil]
  rfl

theorem BondHistory.scoreOver_insert {bond : BondHistory} {config : BeaconConfig} {slots : SlotSet}
    {slot : UInt64} (h : slot ∉ slots) :
    bond.scoreOver config (slots.insert slot) =
      bond.scoreOver config slots + bond.scoreAt (config.startOf slot) := by
  unfold scoreOver
  rw [((SlotSet.toList_insert_perm h).map _).sum_eq, List.map_cons, List.sum_cons, add_comm]

/-- A slot at which a minipool of a node can owe an attestation. -/
structure PoolMinipool.CanOwe (config : BeaconConfig) (bounds : IntervalBounds) (node : PoolNode)
    (minipool : PoolMinipool) (slot : UInt64) : Prop where
  inBounds : bounds.contains slot = true
  timed : config.slotTime slot = .ok (config.startOf slot)
  optedIn : node.isOptedInAt (config.startOf slot) = true
  staking : minipool.stakingSince ≤ config.startOf slot

/-- The duties of a minipool hang together. -/
structure PoolMinipool.Sound (config : BeaconConfig) (bounds : IntervalBounds) (node : PoolNode)
    (minipool : PoolMinipool) : Prop where
  owed : ∀ slot ∈ minipool.owed, minipool.CanOwe config bounds node slot
  fulfilled : ∀ slot ∈ minipool.fulfilled, slot ∈ minipool.owed
  completed : minipool.completed = minipool.fulfilled
  score : minipool.score = minipool.bond.scoreOver config minipool.completed

namespace PoolMinipool

variable {config : BeaconConfig} {bounds : IntervalBounds} {node : PoolNode} {minipool : PoolMinipool}
  {slot : UInt64}

theorem Sound.of_node {node' : PoolNode} (h : minipool.Sound config bounds node)
    (hnode : node'.isOptedInAt = node.isOptedInAt) : minipool.Sound config bounds node' where
  owed slot hs := by
    obtain ⟨hin, htime, hopt, hstake⟩ := h.owed slot hs
    exact ⟨hin, htime, by rw [hnode]; exact hopt, hstake⟩
  fulfilled := h.fulfilled
  completed := h.completed
  score := h.score

theorem Sound.owe (h : minipool.Sound config bounds node)
    (hslot : minipool.CanOwe config bounds node slot) :
    (minipool.owe slot).Sound config bounds node where
  owed other ho := by
    have hcan : minipool.CanOwe config bounds node other := by
      rcases SlotSet.mem_insert_iff.mp ho with rfl | ho
      · exact hslot
      · exact h.owed other ho
    exact ⟨hcan.inBounds, hcan.timed, hcan.optedIn, hcan.staking⟩
  fulfilled other ho := SlotSet.mem_insert_iff.mpr (Or.inr (h.fulfilled other ho))
  completed := h.completed
  score := h.score

/-- The minipool whose attestation of a slot has been seen and counts. -/
def attest (minipool : PoolMinipool) (slot time : UInt64) : PoolMinipool :=
  (minipool.fulfill slot).complete slot time

theorem Sound.attest (h : minipool.Sound config bounds node) (howed : slot ∈ minipool.owed)
    (hnew : slot ∉ minipool.fulfilled) :
    (minipool.attest slot (config.startOf slot)).Sound config bounds node where
  owed other ho := by
    obtain ⟨hin, htime, hopt, hstake⟩ := h.owed other ho
    exact ⟨hin, htime, hopt, hstake⟩
  fulfilled other ho := by
    rcases SlotSet.mem_insert_iff.mp ho with rfl | ho
    · exact howed
    · exact h.fulfilled other ho
  completed := by
    show minipool.completed.insert slot = minipool.fulfilled.insert slot
    rw [h.completed]
  score := by
    show minipool.score + minipool.bond.scoreAt (config.startOf slot) =
      minipool.bond.scoreOver config (minipool.completed.insert slot)
    rw [BondHistory.scoreOver_insert (h.completed ▸ hnew), ← h.score]

theorem Sound.of_owed_empty (h : minipool.Sound config bounds node) (howed : minipool.owed = ∅) :
    minipool.fulfilled = ∅ ∧ minipool.completed = ∅ ∧ minipool.score = 0 := by
  have hfulfilled : minipool.fulfilled = ∅ := by
    rw [Std.ExtTreeSet.eq_empty_iff_forall_not_mem]
    intro slot hs
    have hs' := h.fulfilled slot hs
    rw [howed] at hs'
    exact Std.ExtTreeSet.not_mem_empty hs'
  have hcompleted := h.completed.trans hfulfilled
  refine ⟨hfulfilled, hcompleted, ?_⟩
  rw [h.score, hcompleted]
  exact BondHistory.scoreOver_empty

/-- A score stands for slots that were met. -/
theorem Sound.fulfilled_ne_empty (h : minipool.Sound config bounds node) (hscore : minipool.score ≠ 0) :
    minipool.fulfilled ≠ ∅ := by
  intro hfulfilled
  apply hscore
  rw [h.score, h.completed, hfulfilled]
  exact BondHistory.scoreOver_empty

/-- A sound minipool is told by what it is without duties, by what it owes and by what it has met. -/
theorem Sound.eq_of_cleared {node' : PoolNode} {minipool' : PoolMinipool}
    (h : minipool.Sound config bounds node) (h' : minipool'.Sound config bounds node')
    (hclear : minipool'.cleared = minipool.cleared) (howed : minipool'.owed = minipool.owed)
    (hfulfilled : minipool'.fulfilled = minipool.fulfilled) : minipool' = minipool := by
  have hcompleted : minipool'.completed = minipool.completed := by
    rw [h'.completed, h.completed, hfulfilled]
  have hbond : minipool'.bond = minipool.bond := congrArg (·.bond) hclear
  have hscore : minipool'.score = minipool.score := by
    rw [h'.score, h.score, hcompleted, hbond]
  have hmk : ∀ m : PoolMinipool, m = { m.cleared with
    owed := m.owed, fulfilled := m.fulfilled, completed := m.completed, score := m.score } := fun _ => rfl
  rw [hmk minipool', hmk minipool, hclear, howed, hfulfilled, hcompleted, hscore]

end PoolMinipool

namespace Tracker

/-! ### All minipools

A validator leads to a place, and a place to a minipool.  No place is that of two
validators, so a set of pairs of validators and slots says the same as the sets of all
tracked minipools.
-/

/-- The minipool that is tracked for a validator, with its node. -/
def linked? (tracker : Tracker) (validator : UInt64) : Option (PoolNode × PoolMinipool) :=
  tracker.validators[validator]?.bind tracker.at?

/-- Validators with the slots that a set of their minipools holds. -/
def slotsOf (tracker : Tracker) (slots : PoolMinipool → SlotSet) : Set (UInt64 × UInt64) :=
  {x | ∃ node minipool, tracker.linked? x.1 = some (node, minipool) ∧ x.2 ∈ slots minipool}

/-- Validators with the slots at which they owe an attestation. -/
def owed (tracker : Tracker) : Set (UInt64 × UInt64) := tracker.slotsOf (·.owed)

/-- Validators with the slots for which their attestation was seen. -/
def met (tracker : Tracker) : Set (UInt64 × UInt64) := tracker.slotsOf (·.fulfilled)

/-- The minipool at a place is tracked and owes an attestation at a slot. -/
def Owes (tracker : Tracker) (place : Place) (slot : UInt64) : Prop :=
  ∃ (validator : UInt64) (node : PoolNode) (minipool : PoolMinipool),
    tracker.validators[validator]? = some place ∧
    tracker.at? place = some (node, minipool) ∧ slot ∈ minipool.owed

/-- The records of a tracker hang together. -/
structure Sound (tracker : Tracker) : Prop where
  minipool : ∀ {place node minipool}, tracker.at? place = some (node, minipool) →
    minipool.Sound tracker.config tracker.bounds node
  /-- A tracked minipool is at work and knows its validator. -/
  linked : ∀ {validator : UInt64} {place : Place}, tracker.validators[validator]? = some place →
    ∃ node minipool, tracker.at? place = some (node, minipool) ∧
      minipool.validator = some validator ∧ minipool.wasActive = true ∧ node.eligible = true
  untracked : ∀ {place node minipool}, tracker.at? place = some (node, minipool) →
    (∀ validator : UInt64, tracker.validators[validator]? ≠ some place) → minipool.owed = ∅
  duty : ∀ {key : DutyKey} {positions : ExtTreeMap Nat Place}, tracker.duties[key]? = some positions →
    positions.isEmpty = false ∧
      ∀ (position : Nat) (place), positions[position]? = some place → tracker.Owes place key.slot
  score : tracker.totals.score = ((minipoolsOf tracker.nodes).map (·.score)).sum
  successful : tracker.totals.successful.toNat =
    ((minipoolsOf tracker.nodes).map (·.completed.size)).sum
  /-- The same number, counted by validator and slot. -/
  counted : tracker.totals.successful.toNat = tracker.met.ncard

variable {tracker : Tracker} {validator : UInt64} {place : Place} {node : PoolNode}
  {minipool : PoolMinipool} {slot : UInt64}

theorem linked?_of_validators (hv : tracker.validators[validator]? = some place) :
    tracker.linked? validator = tracker.at? place := by
  unfold linked?
  rw [hv]
  rfl

/-- A place is tracked for one validator only. -/
theorem Sound.validator_unique (h : tracker.Sound) {other : UInt64}
    (hv : tracker.validators[validator]? = some place)
    (ho : tracker.validators[other]? = some place) : other = validator := by
  obtain ⟨node, minipool, hat, hval, -⟩ := h.linked hv
  obtain ⟨node', minipool', hat', hval', -⟩ := h.linked ho
  rw [hat] at hat'
  cases hat'
  rw [hval] at hval'
  exact (Option.some.inj hval').symm

/-- Whatever has a score is tracked. -/
theorem Sound.tracked_of_score (h : tracker.Sound)
    (hat : tracker.at? place = some (node, minipool)) (hscore : minipool.score ≠ 0) :
    ∃ validator : UInt64, tracker.validators[validator]? = some place := by
  by_contra hno
  apply hscore
  have howed := h.untracked hat fun validator hv => hno ⟨validator, hv⟩
  exact ((h.minipool hat).of_owed_empty howed).2.2

theorem Sound.exists_met (h : tracker.Sound) (hat : tracker.at? place = some (node, minipool))
    (hscore : minipool.score ≠ 0) :
    ∃ validator slot : UInt64, tracker.validators[validator]? = some place ∧ slot ∈ minipool.fulfilled := by
  obtain ⟨validator, hv⟩ := h.tracked_of_score hat hscore
  by_contra hnone
  refine (h.minipool hat).fulfilled_ne_empty hscore (Std.ExtTreeSet.eq_empty_iff_forall_not_mem.mpr ?_)
  intro slot hslot
  exact hnone ⟨validator, slot, hv, hslot⟩

/-! ### A change of one tracked minipool

Both changes of the walk are of this form, so what they have in common is proved once: other
validators keep what they have, and the totals move with the one minipool.
-/

/-- The tracker after a change of the minipool at a place, and of the totals. -/
def change (tracker : Tracker) (place : Place) (f : PoolMinipool → PoolMinipool)
    (totals : AttestationTotals) : Tracker :=
  { tracker.modifyAt place f with totals }

section change

variable {f : PoolMinipool → PoolMinipool} (totals : AttestationTotals)

theorem frame_change (hclear : ∀ minipool, (f minipool).cleared = minipool.cleared) :
    (tracker.change place f totals).frame = tracker.frame := by
  show (tracker.modifyAt place f).frame = tracker.frame
  exact frame_modifyAt hclear

theorem mem_slotsOf_of_tracked (hv : tracker.validators[validator]? = some place)
    (hat : tracker.at? place = some (node, minipool)) (slots : PoolMinipool → SlotSet)
    (slot : UInt64) : (validator, slot) ∈ tracker.slotsOf slots ↔ slot ∈ slots minipool := by
  refine ⟨?_, ?_⟩
  · intro h
    obtain ⟨node', minipool', hl, hs⟩ := h
    rw [linked?_of_validators hv, hat] at hl
    cases hl
    exact hs
  · intro hs
    exact ⟨node, minipool, by rw [linked?_of_validators hv, hat], hs⟩

theorem linked?_change_self (hv : tracker.validators[validator]? = some place)
    (hat : tracker.at? place = some (node, minipool)) :
    (tracker.change place f totals).linked? validator =
      some (withMinipoolAt node place.minipool f, f minipool) := by
  show tracker.validators[validator]?.bind (tracker.modifyAt place f).at? = _
  rw [hv]
  exact at?_modifyAt_self hat

/-- Another validator keeps its minipool. -/
theorem exists_linked?_change (h : tracker.Sound) (hv : tracker.validators[validator]? = some place)
    {other : UInt64} (ho : other ≠ validator) {minipool' : PoolMinipool} :
    (∃ node', (tracker.change place f totals).linked? other = some (node', minipool')) ↔
      ∃ node', tracker.linked? other = some (node', minipool') := by
  have hne : ∀ place', tracker.validators[other]? = some place' → place ≠ place' := by
    intro place' hv' heq
    obtain rfl := heq
    exact ho (h.validator_unique hv hv')
  refine ⟨?_, ?_⟩
  · intro hlinked
    obtain ⟨node', hl⟩ := hlinked
    obtain ⟨place', hv', hat'⟩ := Option.bind_eq_some_iff.mp hl
    have hv' : tracker.validators[other]? = some place' := hv'
    obtain ⟨node'', minipool'', hat'', hm, -⟩ := at?_modifyAt hat'
    rw [if_neg (hne place' hv')] at hm
    exact ⟨node'', (linked?_of_validators hv').trans (hm ▸ hat'')⟩
  · intro hlinked
    obtain ⟨node', hl⟩ := hlinked
    obtain ⟨place', hv', hat'⟩ := Option.bind_eq_some_iff.mp hl
    obtain ⟨node'', hat'', -⟩ := at?_modifyAt_of_ne (hne place' hv') hat'
    refine ⟨node'', ?_⟩
    show tracker.validators[other]?.bind (tracker.modifyAt place f).at? = _
    rw [hv']
    exact hat''

theorem mem_slotsOf_change (h : tracker.Sound) (hv : tracker.validators[validator]? = some place)
    (hat : tracker.at? place = some (node, minipool)) (slots : PoolMinipool → SlotSet)
    (other slot : UInt64) :
    (other, slot) ∈ (tracker.change place f totals).slotsOf slots ↔
      if other = validator then slot ∈ slots (f minipool) else (other, slot) ∈ tracker.slotsOf slots := by
  by_cases ho : other = validator
  · subst ho
    rw [if_pos rfl]
    refine ⟨?_, ?_⟩
    · intro h'
      obtain ⟨node', minipool', hl, hs⟩ := h'
      rw [linked?_change_self totals hv hat] at hl
      cases hl
      exact hs
    · intro hs
      exact ⟨_, _, linked?_change_self totals hv hat, hs⟩
  · rw [if_neg ho]
    refine ⟨?_, ?_⟩
    · intro h'
      obtain ⟨node', minipool', hl, hs⟩ := h'
      obtain ⟨node'', hl'⟩ := (exists_linked?_change totals h hv ho).mp ⟨node', hl⟩
      exact ⟨node'', minipool', hl', hs⟩
    · intro h'
      obtain ⟨node', minipool', hl, hs⟩ := h'
      obtain ⟨node'', hl'⟩ := (exists_linked?_change totals h hv ho).mpr ⟨node', hl⟩
      exact ⟨node'', minipool', hl', hs⟩

theorem slotsOf_change_same (h : tracker.Sound) (hv : tracker.validators[validator]? = some place)
    (hat : tracker.at? place = some (node, minipool)) {slots : PoolMinipool → SlotSet}
    (hsame : slots (f minipool) = slots minipool) :
    (tracker.change place f totals).slotsOf slots = tracker.slotsOf slots := by
  ext ⟨other, slot⟩
  rw [mem_slotsOf_change totals h hv hat]
  split
  · next ho => rw [ho, mem_slotsOf_of_tracked hv hat, hsame]
  · exact Iff.rfl

theorem slotsOf_change_insert (h : tracker.Sound) (hv : tracker.validators[validator]? = some place)
    (hat : tracker.at? place = some (node, minipool)) {slots : PoolMinipool → SlotSet}
    (hinsert : slots (f minipool) = (slots minipool).insert slot) :
    (tracker.change place f totals).slotsOf slots =
      insert (validator, slot) (tracker.slotsOf slots) := by
  ext ⟨other, slot'⟩
  rw [mem_slotsOf_change totals h hv hat, Set.mem_insert_iff, Prod.mk.injEq]
  split
  · next ho =>
    rw [ho, mem_slotsOf_of_tracked hv hat, hinsert, SlotSet.mem_insert_iff, eq_comm]
    simp
  · next ho => simp [ho]

theorem Owes.change {other : Place} (h : tracker.Owes other slot)
    (hat : tracker.at? place = some (node, minipool))
    (hgrow : ∀ slot ∈ minipool.owed, slot ∈ (f minipool).owed) :
    (tracker.change place f totals).Owes other slot := by
  obtain ⟨validator, node', minipool', hv', hat', hs⟩ := h
  by_cases hp : place = other
  · subst hp
    rw [hat] at hat'
    cases hat'
    exact ⟨validator, _, _, hv', at?_modifyAt_self hat, hgrow _ hs⟩
  · obtain ⟨node'', hat'', -⟩ := at?_modifyAt_of_ne (f := f) hp hat'
    exact ⟨validator, node'', minipool', hv', hat'', hs⟩

/-- A change of one tracked minipool keeps the tracker sound if it keeps that minipool sound,
takes no owed slot away and moves the totals along. -/
theorem Sound.change (h : tracker.Sound) (hv : tracker.validators[validator]? = some place)
    (hat : tracker.at? place = some (node, minipool))
    (hclear : ∀ minipool, (f minipool).cleared = minipool.cleared)
    (hsound : (f minipool).Sound tracker.config tracker.bounds node)
    (hgrow : ∀ slot ∈ minipool.owed, slot ∈ (f minipool).owed)
    (hscore : totals.score + minipool.score = tracker.totals.score + (f minipool).score)
    (hsuccessful : totals.successful.toNat + minipool.completed.size =
      tracker.totals.successful.toNat + (f minipool).completed.size)
    (hcounted : totals.successful.toNat = (tracker.change place f totals).met.ncard) :
    (tracker.change place f totals).Sound where
  minipool {other node' minipool'} h' := by
    obtain ⟨node'', minipool'', hat'', hm, hopt, -⟩ := at?_modifyAt h'
    -- At the changed place the new minipool stands, elsewhere the old one.
    by_cases hp : place = other
    · subst hp
      rw [hat] at hat''
      cases hat''
      rw [if_pos rfl] at hm
      rw [hm]
      exact hsound.of_node hopt
    · rw [if_neg hp] at hm
      rw [hm]
      exact (h.minipool hat'').of_node hopt
  linked {other place'} ho := by
    obtain ⟨node', minipool', hat', hval, hact, helig⟩ := h.linked ho
    by_cases hp : place = place'
    · subst hp
      rw [hat] at hat'
      cases hat'
      refine ⟨_, _, at?_modifyAt_self hat, ?_, ?_, helig⟩
      · exact (congrArg (·.validator) (hclear minipool)).trans hval
      · exact (congrArg (·.wasActive) (hclear minipool)).trans hact
    · obtain ⟨node'', hat'', -, helig'⟩ := at?_modifyAt_of_ne (f := f) hp hat'
      exact ⟨node'', minipool', hat'', hval, hact, helig'.trans helig⟩
  untracked {other node' minipool'} h' hno := by
    obtain ⟨node'', minipool'', hat'', hm, -⟩ := at?_modifyAt h'
    have hp : place ≠ other := by
      intro heq
      obtain rfl := heq
      exact hno validator hv
    rw [if_neg hp] at hm
    rw [hm]
    exact h.untracked hat'' hno
  duty {key positions} hd := by
    obtain ⟨hne, hall⟩ := h.duty hd
    exact ⟨hne, fun position place' hpos => (hall position place' hpos).change totals hat hgrow⟩
  score := by
    have hsum := sum_modifyAt (·.score) (f := f) hat
    refine add_right_cancel (b := minipool.score) (hscore.trans ?_)
    rw [h.score]
    exact hsum.symm
  successful := by
    have hsum := sum_modifyAt (·.completed.size) (f := f) hat
    refine add_right_cancel (b := minipool.completed.size) (hsuccessful.trans ?_)
    rw [h.successful]
    exact hsum.symm
  counted := hcounted

end change

/-! ### A further slot is owed, or an owed one is met

The first takes nothing away and counts nothing.  The second adds one attestation to the
count and its worth to both scores.
-/

theorem Sound.owe (h : tracker.Sound) (hv : tracker.validators[validator]? = some place)
    (hat : tracker.at? place = some (node, minipool))
    (hslot : minipool.CanOwe tracker.config tracker.bounds node slot) :
    (tracker.modifyAt place (·.owe slot)).Sound ∧
      (tracker.modifyAt place (·.owe slot)).owed = insert (validator, slot) tracker.owed ∧
      (tracker.modifyAt place (·.owe slot)).met = tracker.met := by
  have hmet : (tracker.change place (·.owe slot) tracker.totals).met = tracker.met :=
    slotsOf_change_same tracker.totals h hv hat rfl
  refine ⟨?_, slotsOf_change_insert tracker.totals h hv hat rfl, hmet⟩
  refine h.change tracker.totals hv hat (fun _ => rfl) ((h.minipool hat).owe hslot) ?_ rfl rfl ?_
  · intro other ho
    exact SlotSet.mem_insert_iff.mpr (Or.inr ho)
  · rw [hmet]
    exact h.counted

theorem Sound.attest (h : tracker.Sound) (hv : tracker.validators[validator]? = some place)
    (hat : tracker.at? place = some (node, minipool)) (howed : slot ∈ minipool.owed)
    (hnew : slot ∉ minipool.fulfilled) {totals : AttestationTotals}
    (hscore : totals.score =
      tracker.totals.score + minipool.bond.scoreAt (tracker.config.startOf slot))
    (hsuccessful : totals.successful.toNat = tracker.totals.successful.toNat + 1) :
    let after := tracker.change place (·.attest slot (tracker.config.startOf slot)) totals
    after.Sound ∧ after.owed = tracker.owed ∧ after.met = insert (validator, slot) tracker.met := by
  intro after
  have hminipool := h.minipool hat
  have hmet : after.met = insert (validator, slot) tracker.met :=
    slotsOf_change_insert totals h hv hat rfl
  have hfresh : (validator, slot) ∉ tracker.met := by
    rw [met, mem_slotsOf_of_tracked hv hat]
    exact hnew
  refine ⟨?_, slotsOf_change_same totals h hv hat rfl, hmet⟩
  refine h.change totals hv hat (fun _ => rfl) (hminipool.attest howed hnew) (fun _ hs => hs) ?_ ?_ ?_
  · show totals.score + minipool.score = tracker.totals.score +
      (minipool.score + minipool.bond.scoreAt (tracker.config.startOf slot))
    rw [hscore, add_right_comm, add_assoc]
  · have hsize : (minipool.completed.insert slot).size = minipool.completed.size + 1 :=
      SlotSet.size_insert (by rw [hminipool.completed]; exact hnew)
    show totals.successful.toNat + minipool.completed.size =
      tracker.totals.successful.toNat + (minipool.completed.insert slot).size
    omega
  · rw [hmet, Set.ncard_insert_of_notMem hfresh, hsuccessful, h.counted]

end Tracker

end PoolRewards
