/-
The walk, taken apart.

Against a client that answers without side effects a walk is a function, and `Yields` says
what it returns and which tracker it leaves.  The lemmas below read a walk backwards: it
has an answer exactly if every lookup, every step of arithmetic and every step on the
tracker has one, in the order of the epochs.
-/
import Mathlib.Data.List.Forall2
import PoolRewards.Duties.Walk
import PoolRewards.Proofs.Answers

namespace PoolRewards.Tracker

variable {α β : Type} {tracker after : Tracker} {client : ConsensusClient Id}

/-- The walk has an answer and leaves a tracker. -/
def Yields (step : Walking Id α) (tracker : Tracker) (a : α) (after : Tracker) : Prop :=
  Id.run (step.run.run tracker) = (.ok a, after)

theorem yields_pure {a b : α} :
    Yields (pure a) tracker b after ↔ b = a ∧ after = tracker := by
  show ((.ok a, tracker) : Except Halt α × Tracker) = (.ok b, after) ↔ _
  simp only [Prod.mk.injEq, Except.ok.injEq, eq_comm]

theorem yields_bind {step : Walking Id α} {next : α → Walking Id β} {b : β} :
    Yields (step >>= next) tracker b after ↔
      ∃ a mid, Yields step tracker a mid ∧ Yields (next a) mid b after := by
  have hrun : Id.run ((step >>= next).run.run tracker) = match Id.run (step.run.run tracker) with
      | (.ok a, mid) => Id.run ((next a).run.run mid)
      | (.error halt, mid) => (.error halt, mid) := by
    show (step >>= next) tracker = _
    simp only [bind, ExceptT.bind, ExceptT.mk, StateT.bind, ExceptT.bindCont, ExceptT.run,
      StateT.run]
    rcases step tracker with ⟨_ | _, _⟩ <;> rfl
  unfold Yields
  rw [hrun]
  rcases Id.run (step.run.run tracker) with ⟨halt | a, mid⟩ <;> simp

theorem yields_get {a : Tracker} :
    Yields get tracker a after ↔ a = tracker ∧ after = tracker := by
  show ((.ok tracker, tracker) : Except Halt Tracker × Tracker) = (.ok a, after) ↔ _
  simp only [Prod.mk.injEq, Except.ok.injEq, eq_comm]

theorem yields_work {step : Tracking α} {a : α} :
    Yields (work step) tracker a after ↔ Id.run (step.run.run tracker) = (.ok a, after) := by
  show ((Id.run (step.run.run tracker)).1.mapError Halt.fault, (Id.run (step.run.run tracker)).2) =
    (.ok a, after) ↔ _
  rw [Prod.mk.injEq, mapError_eq_ok_iff, Prod.ext_iff]

theorem yields_calculate {result : Except Fault α} {a : α} :
    Yields (calculate result) tracker a after ↔ result = .ok a ∧ after = tracker := by
  show ((result.mapError Halt.fault, tracker) : Except Halt α × Tracker) = (.ok a, after) ↔ _
  rw [Prod.mk.injEq, mapError_eq_ok_iff, eq_comm (a := tracker)]

theorem yields_ask {epoch : UInt64} {lookup : Id (Except ClientError α)} {a : α} :
    Yields (ask epoch lookup) tracker a after ↔ Id.run lookup = .ok a ∧ after = tracker := by
  show ((Halt.ofLookup _ (Id.run lookup), tracker) : Except Halt α × Tracker) = (.ok a, after) ↔ _
  rw [Halt.ofLookup, Prod.mk.injEq, mapError_eq_ok_iff, eq_comm (a := tracker)]

/-! ### One epoch

The slots of an epoch are asked for by an offset that is counted up as a word, and the
answers are told by natural numbers.  The two agree as long as no slot of the epoch wraps.
-/

/-- The attestations that the block of a slot includes, none if there is no block. -/
def included (client : ConsensusClient Id) (slot : UInt64) : Except ClientError (List Attestation) :=
  (·.getD []) <$> Id.run (client.attestations slot)

/-- What the block of the slot with a number includes. -/
def IncludedAt (client : ConsensusClient Id) (n : Nat) (block : List Attestation) : Prop :=
  ∃ slot : UInt64, slot.toNat = n ∧ included client slot = .ok block

theorem related_of_forall₂ {R : α → β → Prop} {l : List α} {l' : List β} (h : List.Forall₂ R l l') :
    (∀ a ∈ l, ∃ b ∈ l', R a b) ∧ ∀ b ∈ l', ∃ a ∈ l, R a b := by
  induction h with
  | nil => exact ⟨fun _ hm => absurd hm List.not_mem_nil, fun _ hm => absurd hm List.not_mem_nil⟩
  | @cons a b rest rest' hab _ ih =>
      refine ⟨?_, ?_⟩
      · intro x hx
        rcases List.mem_cons.mp hx with rfl | hx
        · exact ⟨b, List.mem_cons_self, hab⟩
        · obtain ⟨y, hy, hr⟩ := ih.1 x hx
          exact ⟨y, List.mem_cons_of_mem _ hy, hr⟩
      · intro y hy
        rcases List.mem_cons.mp hy with rfl | hy
        · exact ⟨a, List.mem_cons_self, hab⟩
        · obtain ⟨x, hx, hr⟩ := ih.2 y hy
          exact ⟨x, List.mem_cons_of_mem _ hx, hr⟩

/-- The slots are asked for one after the other. -/
theorem yields_askAttestations {epoch first : UInt64} (count : Nat) :
    ∀ {offset : UInt64} {blocks : List (List Attestation)},
      offset.toNat + count < UInt64.size →
      (Yields (askAttestations client epoch first count offset) tracker blocks after ↔
        after = tracker ∧
          List.Forall₂ (IncludedAt client) (List.range' (first.toNat + offset.toNat) count) blocks) := by
  induction count with
  | zero =>
      intro offset blocks _
      rw [askAttestations, yields_pure, List.range'_zero, List.forall₂_nil_left_iff, and_comm]
  | succ count ih =>
      intro offset blocks hlt
      have hnext := (Word.add_one (show offset.toNat + 1 < UInt64.size by omega)).2
      rw [askAttestations, List.range'_succ]
      simp only [yields_bind, yields_calculate, yields_ask, yields_pure, Word.add_eq_ok_iff]
      refine ⟨?_, ?_⟩
      · intro h
        obtain ⟨slot, mid, ⟨hslot, rfl⟩, answer, mid, ⟨hanswer, rfl⟩, rest, mid, hrest, rfl, rfl⟩ := h
        obtain ⟨rfl, hblocks⟩ := (ih (by omega)).mp hrest
        rw [hnext, ← Nat.add_assoc] at hblocks
        refine ⟨rfl, List.Forall₂.cons ⟨slot, hslot, ?_⟩ hblocks⟩
        rw [included, hanswer]
        rfl
      · intro h
        obtain ⟨rfl, hblocks⟩ := h
        cases hblocks with
        | cons hblock hrest =>
          obtain ⟨slot, hslot, hincluded⟩ := hblock
          rw [Nat.add_assoc, ← hnext] at hrest
          unfold included at hincluded
          rcases hanswer : Id.run (client.attestations slot) with _ | answer
          · rw [hanswer] at hincluded
            cases hincluded
          · rw [hanswer] at hincluded
            cases hincluded
            exact ⟨slot, after, ⟨hslot, rfl⟩, answer, after, ⟨hanswer, rfl⟩, _, after,
              (ih (by omega)).mpr ⟨rfl, hrest⟩, rfl, rfl⟩

/-- The committees that are taken in for an epoch. -/
def IsAnswer (client : ConsensusClient Id) (epoch : UInt64) (withCommittees : Bool)
    (committees : List Committee) : Prop :=
  if withCommittees then Id.run (client.committees epoch) = .ok committees else committees = []

theorem yields_askCommittees {epoch : UInt64} {withCommittees : Bool} {committees : List Committee} :
    Yields (askCommittees client epoch withCommittees) tracker committees after ↔
      IsAnswer client epoch withCommittees committees ∧ after = tracker := by
  unfold askCommittees IsAnswer
  split
  · exact yields_ask
  · exact yields_pure

/-- One epoch's walk, from `tracker` to `after`. -/
structure EpochRun (client : ConsensusClient Id) (tracker : Tracker) (epoch : UInt64)
    (withCommittees : Bool) (first : UInt64) (committees : List Committee)
    (blocks : List (List Attestation)) (recorded checked after : Tracker) : Prop where
  start : tracker.config.firstSlotOf epoch = .ok first
  answer : IsAnswer client epoch withCommittees committees
  included : List.Forall₂ (IncludedAt client)
    (List.range' first.toNat tracker.config.slotsPerEpoch.toNat) blocks
  recording : Id.run ((record committees).run.run tracker) = (.ok (), recorded)
  checking : Id.run ((checkAll blocks).run.run recorded) = (.ok (), checked)
  pruning : Id.run ((prune epoch).run.run checked) = (.ok (), after)

theorem yields_walkEpoch {epoch : UInt64} {withCommittees : Bool} :
    Yields (walkEpoch client epoch withCommittees) tracker () after ↔
      ∃ first committees blocks recorded checked,
        EpochRun client tracker epoch withCommittees first committees blocks recorded checked after := by
  have hlt : (0 : UInt64).toNat + tracker.config.slotsPerEpoch.toNat < UInt64.size := by
    have := tracker.config.slotsPerEpoch.toNat_lt_size
    have hzero : (0 : UInt64).toNat = 0 := rfl
    omega
  unfold walkEpoch
  simp only [yields_bind, yields_get, yields_calculate, yields_work, yields_askCommittees,
    exists_and_left, exists_eq_left, and_assoc, yields_askAttestations _ hlt]
  refine ⟨?_, ?_⟩
  · intro h'
    obtain ⟨first, hfirst, committees, hanswer, blocks, hblocks, ⟨⟩, recorded, hrecord, ⟨⟩, checked,
      hcheck, hprune⟩ := h'
    exact ⟨first, committees, blocks, recorded, checked, hfirst, hanswer, hblocks, hrecord, hcheck, hprune⟩
  · intro h'
    obtain ⟨first, committees, blocks, recorded, checked, h⟩ := h'
    exact ⟨first, h.start, committees, h.answer, blocks, h.included, (), recorded, h.recording, (),
      checked, h.checking, h.pruning⟩

theorem yields_walkEpochs_zero {epoch : UInt64} :
    Yields (walkEpochs client 0 epoch) tracker () after ↔ after = tracker := by
  rw [walkEpochs, yields_pure, and_iff_right rfl]

theorem yields_walkEpochs_succ {epoch : UInt64} {count : Nat} :
    Yields (walkEpochs client (count + 1) epoch) tracker () after ↔
      ∃ mid, Yields (walkEpoch client epoch true) tracker () mid ∧
        Yields (walkEpochs client count (epoch + 1)) mid () after := by
  rw [walkEpochs, yields_bind]
  refine ⟨?_, ?_⟩
  · intro h'
    obtain ⟨⟨⟩, mid, h⟩ := h'
    exact ⟨mid, h⟩
  · intro h'
    obtain ⟨mid, h⟩ := h'
    exact ⟨(), mid, h⟩

theorem yields_walk {totals : AttestationTotals} :
    Yields (walk client) tracker totals after ↔
      ∃ first last next mid, tracker.config.epochOf tracker.bounds.firstSlot = .ok first ∧
        tracker.config.epochOf tracker.bounds.lastSlot = .ok last ∧
        Word.add last 1 = .ok next ∧
        Yields (walkEpochs client (last.toNat + 1 - first.toNat) first) tracker () mid ∧
        Yields (walkEpoch client next false) mid () after ∧ totals = after.totals := by
  unfold walk
  simp only [yields_bind, yields_get, yields_calculate, yields_pure, exists_eq_left, and_assoc,
    exists_and_left]
  refine ⟨?_, ?_⟩
  · intro h
    obtain ⟨first, hfirst, last, hlast, ⟨⟩, mid, hepochs, next, hnext, ⟨⟩, after', htrailing, rfl, rfl⟩ := h
    exact ⟨first, hfirst, last, hlast, next, hnext, mid, hepochs, htrailing, rfl⟩
  · intro h
    obtain ⟨first, hfirst, last, hlast, next, hnext, mid, hepochs, htrailing, rfl⟩ := h
    exact ⟨first, hfirst, last, hlast, (), mid, hepochs, next, hnext, (), after, htrailing, rfl, rfl⟩

end PoolRewards.Tracker
