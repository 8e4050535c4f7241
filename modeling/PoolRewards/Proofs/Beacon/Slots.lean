/-
Slots as natural numbers, and sets of slots.

Checked arithmetic on slots either has the result that the natural numbers have, or none.
A set of slots is listed without repetition, so that a new slot adds one term to a sum
over the set.
-/
import PoolRewards.Beacon.Config
import PoolRewards.Pool.Basic

namespace PoolRewards

namespace BeaconConfig

variable {config : BeaconConfig} {slot time : UInt64}

/-- The time at which a slot starts, whether or not there is a word for it. -/
def startOf (config : BeaconConfig) (slot : UInt64) : UInt64 :=
  config.genesisTime + slot * config.secondsPerSlot

theorem slotTime_eq_ok_iff :
    config.slotTime slot = .ok time ↔
      time.toNat = config.genesisTime.toNat + slot.toNat * config.secondsPerSlot.toNat := by
  unfold slotTime
  refine ⟨?_, ?_⟩
  · intro h
    rcases hmul : Word.mul slot config.secondsPerSlot with fault | product
    · rw [hmul] at h
      cases h
    · rw [hmul] at h
      rw [Word.add_eq_ok_iff.mp h, Word.mul_eq_ok_iff.mp hmul]
  · intro h
    have hlt : slot.toNat * config.secondsPerSlot.toNat < UInt64.size := by
      have := time.toNat_lt_size
      omega
    have hmul : Word.mul slot config.secondsPerSlot = .ok (slot * config.secondsPerSlot) := by
      unfold Word.mul
      rw [if_pos hlt]
    rw [hmul]
    exact Word.add_eq_ok_iff.mpr (by rw [h, Word.mul_eq_ok_iff.mp hmul])

theorem eq_startOf (h : config.slotTime slot = .ok time) : time = config.startOf slot := by
  apply UInt64.toNat_inj.mp
  have hlt := time.toNat_lt_size
  rw [slotTime_eq_ok_iff] at h
  simp only [startOf, UInt64.toNat_add, UInt64.toNat_mul]
  rw [Nat.add_mod_mod, ← h]
  exact (Nat.mod_eq_of_lt hlt).symm

theorem slotTime_of_lt
    (h : config.genesisTime.toNat + slot.toNat * config.secondsPerSlot.toNat < UInt64.size) :
    config.slotTime slot = .ok (config.startOf slot) := by
  rw [slotTime_eq_ok_iff]
  simp only [startOf, UInt64.toNat_add, UInt64.toNat_mul]
  rw [Nat.add_mod_mod]
  exact Nat.mod_eq_of_lt h

/-- A slot behind slot zero starts behind time zero. -/
theorem one_le_slotTime (hslot : 1 ≤ slot) (hseconds : 1 ≤ config.secondsPerSlot)
    (h : config.slotTime slot = .ok time) : 1 ≤ time := by
  rw [UInt64.le_iff_toNat_le, UInt64.toNat_one] at hslot hseconds ⊢
  rw [slotTime_eq_ok_iff.mp h]
  exact Nat.le_add_left_of_le (Nat.mul_pos hslot hseconds)

/-- The number of a slot's epoch. -/
def epochNumber (config : BeaconConfig) (slot : UInt64) : Nat :=
  slot.toNat / config.slotsPerEpoch.toNat

theorem toNat_of_epochOf {epoch : UInt64} (h : config.epochOf slot = .ok epoch) :
    epoch.toNat = config.epochNumber slot := by
  obtain ⟨-, rfl⟩ := Word.div_eq_ok_iff.mp h
  exact UInt64.toNat_div ..

theorem epochOf_of_pos (h : 0 < config.slotsPerEpoch.toNat) :
    config.epochOf slot = .ok (slot / config.slotsPerEpoch) := by
  refine Word.div_eq_ok_iff.mpr ⟨?_, rfl⟩
  intro hzero
  rw [hzero] at h
  exact absurd h (by decide)

theorem epochOf_eq_ok_iff (h : 0 < config.slotsPerEpoch.toNat) {epoch : UInt64} :
    config.epochOf slot = .ok epoch ↔ config.epochNumber slot = epoch.toNat := by
  refine ⟨fun hepoch => (toNat_of_epochOf hepoch).symm, ?_⟩
  intro hepoch
  have hslot : config.epochOf slot = .ok (slot / config.slotsPerEpoch) := epochOf_of_pos h
  rw [hslot]
  congr 1
  apply UInt64.toNat_inj.mp
  rw [toNat_of_epochOf hslot, hepoch]

/-- The first slot of an epoch has a word if the natural numbers say so. -/
theorem exists_firstSlotOf (config : BeaconConfig) (epoch : UInt64)
    (h : epoch.toNat * config.slotsPerEpoch.toNat < UInt64.size) :
    ∃ first, config.firstSlotOf epoch = .ok first ∧
      first.toNat = epoch.toNat * config.slotsPerEpoch.toNat := by
  refine ⟨UInt64.ofNat _, ?_, UInt64.toNat_ofNat_of_lt' h⟩
  rw [firstSlotOf, Word.mul_eq_ok_iff]
  exact UInt64.toNat_ofNat_of_lt' h

theorem exists_oldest (config : BeaconConfig) (epoch : UInt64)
    (h : epoch.toNat * config.slotsPerEpoch.toNat < UInt64.size) :
    ∃ oldest, config.firstSlotOf (Word.less epoch 1) = .ok oldest ∧
      oldest.toNat = (epoch.toNat - 1) * config.slotsPerEpoch.toNat := by
  have hless : (Word.less epoch 1).toNat = epoch.toNat - 1 := Word.toNat_less epoch 1
  rw [← hless]
  refine config.exists_firstSlotOf _ (Nat.lt_of_le_of_lt ?_ h)
  rw [hless]
  exact Nat.mul_le_mul_right _ (Nat.sub_le _ _)

/-- The slots of an epoch are those from its first one on. -/
theorem epochNumber_eq_iff (h : 0 < config.slotsPerEpoch.toNat) {epoch : Nat} :
    config.epochNumber slot = epoch ↔
      epoch * config.slotsPerEpoch.toNat ≤ slot.toNat ∧
        slot.toNat < epoch * config.slotsPerEpoch.toNat + config.slotsPerEpoch.toNat := by
  rw [epochNumber, Nat.div_eq_iff h]
  constructor <;> omega

end BeaconConfig

/-! ### Sets of slots

A set lists each of its slots once, in an order that matters to nothing here.  A new slot
stands beside the others, so it adds one term to whatever is summed over the set.
-/

namespace SlotSet

theorem nodup_toList (slots : SlotSet) : slots.toList.Nodup := by
  refine List.Pairwise.imp ?_ slots.distinct_toList
  intro a b h heq
  obtain rfl := heq
  exact h Std.ReflCmp.compare_self

theorem mem_insert_iff {slots : SlotSet} {slot other : UInt64} :
    other ∈ slots.insert slot ↔ slot = other ∨ other ∈ slots := by
  rw [Std.ExtTreeSet.mem_insert, Std.LawfulEqCmp.compare_eq_iff_eq]

theorem toList_insert_perm {slots : SlotSet} {slot : UInt64} (h : slot ∉ slots) :
    (slots.insert slot).toList.Perm (slot :: slots.toList) := by
  have hmem : slot ∉ slots.toList := fun hc => h (Std.ExtTreeSet.mem_toList.mp hc)
  refine (List.perm_ext_iff_of_nodup (nodup_toList _)
    (List.nodup_cons.mpr ⟨hmem, nodup_toList _⟩)).mpr ?_
  intro other
  rw [Std.ExtTreeSet.mem_toList, mem_insert_iff, List.mem_cons, Std.ExtTreeSet.mem_toList,
    eq_comm]

theorem size_insert {slots : SlotSet} {slot : UInt64} (h : slot ∉ slots) :
    (slots.insert slot).size = slots.size + 1 := by
  rw [Std.ExtTreeSet.size_insert, if_neg (by simpa using h)]

end SlotSet

end PoolRewards
