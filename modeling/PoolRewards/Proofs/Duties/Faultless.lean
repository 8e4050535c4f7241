/-
Nothing but a failed lookup stops a walk.

A walk is put together from lookups, from arithmetic on slots and epochs, and from steps on the
tracker.  A step has a fault if it looks for a minipool that is not there or counts what no word
can tell.  It has none on a guarded tracker and leaves it guarded, whatever the client says, so
what is left is arithmetic.  The walk comes to no slot behind the epoch after the
interval's last one, so its slots are words if those of that epoch are.
-/
import Mathlib.Order.Interval.Finset.Nat
import PoolRewards.Proofs.Duties.AnyClient
import PoolRewards.Proofs.Duties.Attested
import PoolRewards.Proofs.Duties.Room

namespace PoolRewards

namespace IntervalBounds

/-- The slots of an interval. -/
def slots (bounds : IntervalBounds) : Finset UInt64 :=
  (Finset.Icc bounds.firstSlot.toNat bounds.lastSlot.toNat).image UInt64.ofNat

theorem mem_slots (bounds : IntervalBounds) {slot : UInt64} (h : bounds.contains slot = true) :
    slot ∈ bounds.slots := by
  rw [contains, Bool.and_eq_true, decide_eq_true_eq, decide_eq_true_eq] at h
  refine Finset.mem_image.mpr ⟨slot.toNat, ?_, UInt64.ofNat_toNat⟩
  exact Finset.mem_Icc.mpr ⟨UInt64.le_iff_toNat_le.mp h.1, UInt64.le_iff_toNat_le.mp h.2⟩

theorem card_slots_le (bounds : IntervalBounds) :
    bounds.slots.card ≤ bounds.lastSlot.toNat + 1 - bounds.firstSlot.toNat := by
  rw [← Nat.card_Icc]
  exact Finset.card_image_le

end IntervalBounds

/-- Nothing but a lookup failed. -/
def Halt.IsLookup (halt : Halt) : Prop := ∃ context cause, halt = .error (.client context cause)

namespace Tracker

variable {m : Type → Type} [Monad m] {α β : Type} {start tracker : Tracker} {snapshot : Snapshot}
  {bounds : IntervalBounds} {nodes : Array PoolNode} {client : ConsensusClient m} {epoch first last : UInt64}
  {p : α → Prop} {q : β → Prop}

/-- A computation has no fault on a guarded tracker and leaves it guarded: it has an answer with a
property, or a lookup fails. -/
def Faultless (start : Tracker) (step : Walking m α) (p : α → Prop) : Prop :=
  ∀ tracker, Guarded start tracker →
    Always (fun result => Guarded start result.2 ∧ match result.1 with
      | .ok a => p a
      | .error halt => halt.IsLookup) (step.run.run tracker)

section lawful

variable [LawfulMonad m]

theorem faultless_pure {a : α} (h : p a) : Faultless start (pure a : Walking m α) p :=
  fun _ hguarded => always_pure ⟨hguarded, h⟩

theorem Faultless.bind {step : Walking m α} {f : α → Walking m β} (h : Faultless start step p)
    (hf : ∀ a, p a → Faultless start (f a) q) : Faultless start (step >>= f) q := by
  intro tracker hguarded
  rw [ExceptT.run_bind, StateT.run_bind]
  refine Always.bind (h tracker hguarded) ?_
  intro result hresult
  obtain ⟨halt | a, mid⟩ := result
  · exact always_pure hresult
  · exact hf a hresult.2 mid hresult.1

theorem faultless_get : Faultless start (get : Walking m Tracker) fun tracker => Guarded start tracker := by
  intro tracker hguarded
  rw [run_get]
  exact always_pure ⟨hguarded, hguarded⟩

theorem faultless_calculate {result : Except Fault α} {a : α} (h : result = .ok a) :
    Faultless start (calculate result : Walking m α) (· = a) := by
  intro tracker hguarded
  rw [h]
  exact always_pure ⟨hguarded, rfl⟩

theorem faultless_ask (epoch : UInt64) (lookup : m (Except ClientError α)) :
    Faultless start (ask epoch lookup) fun _ => True := by
  intro tracker hguarded
  rw [run_ask]
  refine (always_true lookup).map ?_
  intro answer _
  rcases answer with cause | a
  · exact ⟨hguarded, _, cause, rfl⟩
  · exact ⟨hguarded, trivial⟩

theorem faultless_work {step : Tracking Unit}
    (h : ∀ tracker, Guarded start tracker → Ends step tracker (fun _ after => Guarded start after) False) :
    Faultless start (work step : Walking m Unit) fun _ => True := by
  intro tracker hguarded
  obtain ⟨a, after, hrun, hafter⟩ := (h tracker hguarded).exists_ok id
  show Always _ (pure ((step.run.run tracker).1.mapError Halt.fault, (step.run.run tracker).2))
  rw [hrun]
  exact always_pure ⟨hafter, trivial⟩

/-! ### Epochs

An epoch's arithmetic is on its first slot, on the slots behind it and on the number of the
next epoch.  All of them are words if the first slot behind the epoch is one.
-/

theorem faultless_askCommittees (epoch : UInt64) (withCommittees : Bool) :
    Faultless start (askCommittees client epoch withCommittees) fun _ => True := by
  unfold askCommittees
  split
  · exact faultless_ask _ _
  · exact faultless_pure trivial

theorem faultless_askAttestations (count : Nat) :
    ∀ offset : UInt64, first.toNat + offset.toNat + count < UInt64.size →
      Faultless start (askAttestations client epoch first count offset) fun _ => True := by
  induction count with
  | zero => exact fun _ _ => faultless_pure trivial
  | succ count ih =>
      intro offset hlt
      have hslot : Word.add first offset = .ok (first + offset) := if_pos (by omega)
      have hnext := (Word.add_one (show offset.toNat + 1 < UInt64.size by omega)).2
      unfold askAttestations
      refine (faultless_calculate hslot).bind fun slot _ => ?_
      refine (faultless_ask epoch _).bind fun block _ => ?_
      refine (ih (offset + 1) (by omega)).bind fun rest _ => ?_
      exact faultless_pure trivial

/-- **An epoch is walked without a fault** if the first slot behind it is a word. -/
theorem faultless_walkEpoch (hfit : start.bounds.Fit start.config) (withCommittees : Bool)
    (hepoch : (epoch.toNat + 1) * start.config.slotsPerEpoch.toNat < UInt64.size) :
    Faultless start (walkEpoch client epoch withCommittees) fun _ => True := by
  have hsplit : (epoch.toNat + 1) * start.config.slotsPerEpoch.toNat =
      epoch.toNat * start.config.slotsPerEpoch.toNat + start.config.slotsPerEpoch.toNat := Nat.succ_mul _ _
  have hlt : epoch.toNat * start.config.slotsPerEpoch.toNat < UInt64.size := by omega
  obtain ⟨first, hfirst, hnumber⟩ := start.config.exists_firstSlotOf epoch hlt
  unfold walkEpoch
  refine faultless_get.bind fun tracker hguarded => ?_
  rw [hguarded.config]
  refine (faultless_calculate hfirst).bind fun _ heq => ?_
  rw [heq]
  refine (faultless_askCommittees epoch withCommittees).bind fun committees _ => ?_
  refine (faultless_askAttestations _ 0 ?_).bind fun blocks _ => ?_
  · have hzero : (0 : UInt64).toNat = 0 := rfl
    rw [hnumber, hzero]
    omega
  refine (faultless_work fun _ h => h.record hfit committees).bind fun _ _ => ?_
  refine (faultless_work fun _ h => h.checkAll hfit blocks).bind fun _ _ => ?_
  exact faultless_work fun _ h => h.prune hlt

theorem faultless_walkEpochs (hfit : start.bounds.Fit start.config) (count : Nat) :
    ∀ epoch : UInt64, (epoch.toNat + count) * start.config.slotsPerEpoch.toNat < UInt64.size →
      Faultless start (walkEpochs client count epoch) fun _ => True := by
  induction count with
  | zero => exact fun _ _ => faultless_pure trivial
  | succ count ih =>
      intro epoch hlt
      have hle := Nat.le_mul_of_pos_right (epoch.toNat + (count + 1)) (UInt64.le_iff_toNat_le.mp hfit.slots)
      have hnext := (Word.add_one (show epoch.toNat + 1 < UInt64.size by omega)).2
      have hfirst := Nat.mul_le_mul_right start.config.slotsPerEpoch.toNat
        (show epoch.toNat + 1 ≤ epoch.toNat + (count + 1) by omega)
      have hrest : (epoch + 1).toNat + count = epoch.toNat + (count + 1) := by omega
      unfold walkEpochs
      refine (faultless_walkEpoch hfit true (Nat.lt_of_le_of_lt hfirst hlt)).bind fun _ _ => ?_
      exact ih (epoch + 1) (by rw [hrest]; exact hlt)

/-- **The whole walk has no fault.** -/
theorem faultless_walk (hfit : start.bounds.Fit start.config) :
    Faultless start (walk client) fun _ => True := by
  have hpos : 0 < start.config.slotsPerEpoch.toNat := UInt64.le_iff_toNat_le.mp hfit.slots
  have hfirst : start.config.epochOf start.bounds.firstSlot =
      .ok (start.bounds.firstSlot / start.config.slotsPerEpoch) := start.config.epochOf_of_pos hpos
  have hlast : start.config.epochOf start.bounds.lastSlot =
      .ok (start.bounds.lastSlot / start.config.slotsPerEpoch) := start.config.epochOf_of_pos hpos
  have hfirstNumber := BeaconConfig.toNat_of_epochOf hfirst
  have hlastNumber := BeaconConfig.toNat_of_epochOf hlast
  have hle : start.config.epochNumber start.bounds.firstSlot ≤
      start.config.epochNumber start.bounds.lastSlot :=
    Nat.div_le_div_right (UInt64.le_iff_toNat_le.mp hfit.ordered)
  have hbehind : (start.config.epochNumber start.bounds.lastSlot + 1) * start.config.slotsPerEpoch.toNat <
      UInt64.size := Nat.lt_of_le_of_lt (Nat.mul_le_mul_right _ (by omega)) hfit.epochs
  have hword := Nat.le_mul_of_pos_right (start.config.epochNumber start.bounds.lastSlot + 1) hpos
  unfold walk
  refine faultless_get.bind fun tracker hguarded => ?_
  rw [hguarded.config, hguarded.bounds]
  refine (faultless_calculate hfirst).bind fun first heq => ?_
  rw [heq]
  refine (faultless_calculate hlast).bind fun last heq => ?_
  rw [heq]
  refine (faultless_walkEpochs hfit _ _ ?_).bind fun _ _ => ?_
  · rw [hfirstNumber, hlastNumber, Nat.add_sub_cancel' (by omega)]
    exact hbehind
  have hlast : (start.bounds.lastSlot / start.config.slotsPerEpoch).toNat + 1 < UInt64.size := by
    rw [hlastNumber]
    exact Nat.lt_of_le_of_lt hword hbehind
  obtain ⟨hadd, hnext⟩ := Word.add_one hlast
  refine (faultless_calculate hadd).bind fun next heq => ?_
  rw [heq]
  refine (faultless_walkEpoch hfit false ?_).bind fun _ _ => ?_
  · rw [hnext, hlastNumber]
    exact hfit.epochs
  exact faultless_get.bind fun _ _ => faultless_pure trivial

end lawful

/-! ### The tracker that the walk starts from

A new tracker has counted nothing and opened nothing, so it is guarded as soon as its pairs
of validators and slots can be counted.  The guard says of every tracker on the way that the
places which it looks up are there, and behind the walk this is said again without it.
-/

/-- No more can be counted than there are pairs of a tracked validator and a slot of the interval. -/
theorem ncard_unmet_le (tracker : Tracker) :
    tracker.unmet.ncard ≤
      tracker.validators.size * (tracker.bounds.lastSlot.toNat + 1 - tracker.bounds.firstSlot.toNat) := by
  have hsub : tracker.unmet ⊆ ↑(tracker.validators.keys.toFinset ×ˢ tracker.bounds.slots) := by
    intro x hx
    obtain ⟨hin, node, minipool, hlinked, -⟩ := hx
    obtain ⟨place, hv, -⟩ := Option.bind_eq_some_iff.mp hlinked
    rw [Finset.mem_coe, Finset.mem_product, List.mem_toFinset, Std.ExtTreeMap.mem_keys]
    exact ⟨Std.ExtTreeMap.mem_iff_isSome_getElem?.mpr (by rw [hv]; rfl), tracker.bounds.mem_slots hin⟩
  have hkeys : tracker.validators.keys.toFinset.card ≤ tracker.validators.size := by
    rw [← Std.ExtTreeMap.length_keys]
    exact List.toFinset_card_le _
  calc tracker.unmet.ncard
      ≤ (tracker.validators.keys.toFinset ×ˢ tracker.bounds.slots).card := by
        rw [← Set.ncard_coe_finset]
        exact Set.ncard_le_ncard hsub
    _ = tracker.validators.keys.toFinset.card * tracker.bounds.slots.card := Finset.card_product _ _
    _ ≤ _ := Nat.mul_le_mul hkeys tracker.bounds.card_slots_le

/-- A new tracker is guarded, if its pairs can be counted. -/
theorem Started.guarded (h : Started snapshot bounds nodes start)
    (hpairs : start.validators.size * (bounds.lastSlot.toNat + 1 - bounds.firstSlot.toNat) < UInt64.size) :
    Guarded start start where
  config := rfl
  bounds := rfl
  validators := rfl
  linked htracks := by
    obtain ⟨validator, hv⟩ := htracks
    obtain ⟨node, minipool, hat, -⟩ := h.tracked _ _ hv
    exact ⟨_, _, h.at?_of_eligibleAt hat⟩
  duty hd := by
    rw [h.duties, Std.ExtTreeMap.getElem?_empty] at hd
    cases hd
  room := by
    have hle := ncard_unmet_le start
    have hzero : (0 : UInt64).toNat = 0 := rfl
    rw [h.bounds] at hle
    rw [h.totals, hzero, Nat.zero_add]
    exact Nat.lt_of_le_of_lt hle hpairs

/-- Every minipool that is tracked is there, and so is every one that has an open duty. -/
structure InRange (tracker : Tracker) : Prop where
  tracked : ∀ (validator : UInt64) (place : Place), tracker.validators[validator]? = some place →
    ∃ node minipool, tracker.at? place = some (node, minipool)
  owing : ∀ (key : DutyKey) (positions : Std.ExtTreeMap Nat Place) (position : Nat) (place : Place),
    tracker.duties[key]? = some positions → positions[position]? = some place →
      ∃ node minipool, tracker.at? place = some (node, minipool)

theorem Guarded.inRange (h : Guarded start tracker) : tracker.InRange where
  tracked := h.reaches
  owing _ _ position place hd hpos := h.linked ((h.duty hd).2 position place hpos)

/-- **No beacon data stops a walk.**  Whatever a client answers, and in whatever way it runs, the walk
has an answer or a lookup failed: no step of arithmetic has a fault, and at no step is a minipool looked
for that is not there.  Behind the walk every minipool that is tracked or has an open duty is still to be
found. -/
theorem walk_faultless [LawfulMonad m]
    (hnew : new snapshot bounds nodes = (.ok (), start)) (hfit : bounds.Fit snapshot.config)
    (hpairs : start.validators.size * (bounds.lastSlot.toNat + 1 - bounds.firstSlot.toNat) < UInt64.size)
    (client : ConsensusClient m) :
    Always (fun result => result.2.InRange ∧
        ((∃ totals, result.1 = .ok totals) ∨
          ∃ context cause, result.1 = .error (.error (.client context cause))))
      ((walk client).run.run start) := by
  have hstarted := (new_ends snapshot bounds nodes).post_of_ok hnew
  have hfit' : start.bounds.Fit start.config := by
    rw [hstarted.bounds, hstarted.config]
    exact hfit
  refine (faultless_walk hfit' start (hstarted.guarded hpairs)).mono ?_
  intro result hresult
  obtain ⟨hguarded, hanswer⟩ := hresult
  refine ⟨hguarded.inRange, ?_⟩
  rcases hresult : result.1 with halt | totals
  · rw [hresult] at hanswer
    obtain ⟨context, cause, rfl⟩ := hanswer
    exact Or.inr ⟨context, cause, rfl⟩
  · exact Or.inl ⟨totals, rfl⟩

/-- Slots and indices up to the last word, members and votes repeated, and bits of any length or none. -/
def unruly : ConsensusClient Id where
  config := .ok ⟨0, 12, 2⟩
  block _ := .ok none
  committees _ := .ok [⟨Word.last, Word.last, [7, Word.last]⟩, ⟨3, Word.last, [8, Word.last, 7, 7]⟩,
    ⟨3, 0, []⟩]
  attestations _ := .ok (some [⟨Word.last, Word.last, ⟨[255]⟩⟩, ⟨3, Word.last, ⟨[]⟩⟩,
    ⟨3, Word.last, ⟨[255, 255, 255]⟩⟩, ⟨3, Word.last, ⟨[255]⟩⟩])

end Tracker

theorem Tracker.walk_faultless_unruly :
    ∃ start after, Tracker.new twoNodes secondEpoch twoNodes.poolNodes = (.ok (), start) ∧
      secondEpoch.Fit twoNodes.config ∧
      start.validators.size * (secondEpoch.lastSlot.toNat + 1 - secondEpoch.firstSlot.toNat) < UInt64.size ∧
      Id.run ((walk unruly).run.run start) = (.ok ⟨650000000000000000, 2⟩, after) ∧ after.InRange := by
  have heval :
      (Tracker.new twoNodes secondEpoch twoNodes.poolNodes).2.validators.size = 2 ∧
      (Id.run ((walk unruly).run.run (Tracker.new twoNodes secondEpoch twoNodes.poolNodes).2)).1 =
        .ok ⟨650000000000000000, 2⟩ := by
    decide +kernel
  obtain ⟨start, hnew, -⟩ := slotsFit_twoNodes.started
  rw [hnew] at heval
  obtain ⟨hsize, htotals⟩ := heval
  have hfit : secondEpoch.Fit twoNodes.config := ⟨by decide, by decide, by decide, by decide⟩
  have hpairs : start.validators.size * (secondEpoch.lastSlot.toNat + 1 - secondEpoch.firstSlot.toNat) <
      UInt64.size := by
    rw [hsize]
    decide
  have hwalk := always_id.mp (Tracker.walk_faultless hnew hfit hpairs unruly)
  exact ⟨start, _, hnew, hfit, hpairs, Prod.ext htotals rfl, hwalk.1⟩

end PoolRewards
