/-
Where an interval starts on a chain that answers.

A search that has come to a slot has found no block before it, so the first block that it meets
is the first one there is, and a search that runs out has met every slot up to the interval's
last one.  What it finds from the next slot on is what it finds from here if there is no block
here, and it stops as soon as it has passed the last slot.

The interval starts with the epoch behind the previous interval's last slot.  So it starts
behind that slot, whatever slots of the epoch were skipped, and two intervals have no slot in
common.
-/
import PoolRewards.Interval.Resolve
import PoolRewards.Proofs.Answers
import PoolRewards.Proofs.Beacon.Slots

namespace PoolRewards

variable {m : Type → Type} [Monad m] {α β : Type} {a : α} {p : Except Halt β → Prop}
  {consensus : ConsensusClient m} {execution : ExecutionClient m} {config : BeaconConfig}
  {blocks : UInt64 → Option BeaconBlock} {headers : UInt64 → BlockHeader}
  {previous : RewardsEvent} {snapshotEnd : SnapshotEnd} {first last slot next : UInt64}

/-! ### Lookups that do not fail

A chain that answers has one answer to every lookup, so a computation on it has one answer
too, and what comes of it can be worked out step by step.  What a lookup does besides
answering is left open.
-/

/-- A computation has one answer. -/
def Surely (a : α) (x : ExceptT Halt m α) : Prop := Always (· = .ok a) x.run

/-- The chain is known, and so are the headers of its execution blocks. -/
structure Serves (consensus : ConsensusClient m) (execution : ExecutionClient m)
    (blocks : UInt64 → Option BeaconBlock) (headers : UInt64 → BlockHeader) : Prop where
  block : ∀ slot, Always (· = .ok (blocks slot)) (consensus.block slot)
  header : ∀ number, Always (· = .ok (headers number)) (execution.header number)

section lawful

variable [LawfulMonad m]

theorem surely_pure (a : α) : Surely a (pure a : ExceptT Halt m α) := always_pure rfl

theorem surely_arithmetic {result : Except Fault α} (h : result = .ok a) :
    Surely a (Halt.arithmetic result : ExceptT Halt m α) :=
  always_pure (by rw [h]; rfl)

theorem surely_lookup {context : String} {ask : m (Except ClientError α)} (h : Always (· = .ok a) ask) :
    Surely a (Halt.lookup context ask) :=
  h.map fun _ ha => by rw [ha]; rfl

theorem Surely.bind {x : ExceptT Halt m α} {f : α → ExceptT Halt m β} (hx : Surely a x)
    (hf : Always p (f a).run) : Always p (x >>= f).run := by
  rw [ExceptT.run_bind]
  refine Always.bind hx ?_
  intro result ha
  rw [ha]
  exact hf

theorem stops_bind {halt : Halt} {f : α → ExceptT Halt m β} (h : p (.error halt)) :
    Always p ((throw halt : ExceptT Halt m α) >>= f).run := by
  have hrun : ((throw halt : ExceptT Halt m α) >>= f).run = pure (.error halt) := by
    rw [ExceptT.run_bind, ExceptT.run_throw, pure_bind]
  rw [hrun]
  exact always_pure h

end lawful

/-! ### The search

The loop looks at one slot a round.  What is left to look at is what the induction is on,
and a round that finds nothing hands its slot to what is found from the next one on.
-/

/-- Every slot between two was skipped. -/
def Skipped (blocks : UInt64 → Option BeaconBlock) (first last : UInt64) : Prop :=
  ∀ slot, first ≤ slot → slot ≤ last → blocks slot = none

/-- What is found from a slot on, up to the last one: the first block, or that there is none. -/
inductive Found (blocks : UInt64 → Option BeaconBlock) (first last slot : UInt64) :
    Except Halt (UInt64 × BeaconBlock) → Prop
  | block {found : UInt64} {block : BeaconBlock} (hat : blocks found = some block) (hfrom : slot ≤ found)
      (hto : found ≤ last) (hskipped : ∀ other, slot ≤ other → other < found → blocks other = none) :
      Found blocks first last slot (.ok (found, block))
  | nothing (hnone : Skipped blocks slot last) :
      Found blocks first last slot (.error (.error (.intervalStartNotFound first last)))

theorem eq_or_next_le {other : UInt64} (hnext : next.toNat = slot.toNat + 1) (hfrom : slot ≤ other) :
    other = slot ∨ next ≤ other := by
  rw [UInt64.le_iff_toNat_le] at hfrom ⊢
  rw [← UInt64.toNat_inj]
  omega

/-- **A slot without a block is passed over.** -/
theorem Found.skip {result : Except Halt (UInt64 × BeaconBlock)} (hslot : blocks slot = none)
    (hnext : next.toNat = slot.toNat + 1) (h : Found blocks first last next result) :
    Found blocks first last slot result := by
  have hle : slot ≤ next := by
    rw [UInt64.le_iff_toNat_le]
    omega
  cases h with
  | @block found block hat hfrom hto hskipped =>
      refine .block hat (UInt64.le_trans hle hfrom) hto ?_
      intro other hother hlt
      obtain rfl | hbehind := eq_or_next_le hnext hother
      · exact hslot
      · exact hskipped other hbehind hlt
  | nothing hnone =>
      refine .nothing ?_
      intro other hother hlast
      obtain rfl | hbehind := eq_or_next_le hnext hother
      · exact hslot
      · exact hnone other hbehind hlast

/-- **The search finds the first block**, if there is a slot behind the last one to look at. -/
theorem found_firstBlock [LawfulMonad m]
    (hblock : ∀ slot, Always (· = .ok (blocks slot)) (consensus.block slot))
    (hlast : last.toNat + 1 < UInt64.size) (first slot : UInt64) :
    Always (Found blocks first last slot) (firstBlock consensus first last slot).run := by
  -- The slots that are left become fewer with every round.
  induction hleft : last.toNat + 1 - slot.toNat using Nat.strongRecOn generalizing slot with
  | ind left ih =>
    rw [firstBlock_eq]
    by_cases hbehind : last < slot
    · rw [if_pos hbehind]
      refine always_pure (.nothing ?_)
      intro other hother hle
      exact absurd hbehind (UInt64.not_lt.mpr (UInt64.le_trans hother hle))
    · have hle : slot ≤ last := UInt64.not_lt.mp hbehind
      rw [if_neg hbehind]
      refine (surely_lookup (hblock slot)).bind ?_
      rcases hslot : blocks slot with _ | block
      · have hleNat := UInt64.le_iff_toNat_le.mp hle
        obtain ⟨hadd, hnext⟩ := Word.add_one (show slot.toNat + 1 < UInt64.size by omega)
        refine (surely_arithmetic hadd).bind ?_
        exact (ih _ (hleft ▸ nextSlot_fewer hbehind hadd) (slot + 1) rfl).mono
          fun _ h => h.skip hslot hnext
      · refine always_pure (.block hslot (UInt64.le_refl slot) hle ?_)
        intro other hother hlt
        exact absurd hlt (UInt64.not_lt.mpr hother)

/-- A search that finds nothing asks for every slot from the first to the last, each once. -/
theorem run_firstBlock_of_skipped [LawfulMonad m] {asked : UInt64 → m Unit}
    (hlast : last.toNat + 1 < UInt64.size) (first slot : UInt64)
    (hnone : ∀ other, slot ≤ other → other ≤ last → consensus.block other = (do
      asked other
      return .ok none)) :
    (firstBlock consensus first last slot).run = (do
      forM ((List.range' slot.toNat (last.toNat + 1 - slot.toNat)).map UInt64.ofNat) asked
      return .error (.error (.intervalStartNotFound first last))) := by
  induction hleft : last.toNat + 1 - slot.toNat generalizing slot with
  | zero =>
      have hbehind : last < slot := by
        rw [UInt64.lt_iff_toNat_lt]
        omega
      rw [firstBlock_eq, if_pos hbehind]
      simp
  | succ left ih =>
      have hle : slot ≤ last := by
        rw [UInt64.le_iff_toNat_le]
        omega
      obtain ⟨hadd, hnext⟩ := Word.add_one (show slot.toNat + 1 < UInt64.size by omega)
      have hbehind : slot ≤ slot + 1 := by
        rw [UInt64.le_iff_toNat_le]
        omega
      have hrest := ih (slot + 1) (fun other hother => hnone other (UInt64.le_trans hbehind hother)) (by omega)
      rw [hnext] at hrest
      have hask : ∀ context : String, (Halt.lookup context (consensus.block slot)).run = (do
          asked slot
          return .ok none) := by
        intro context
        rw [hnone slot (UInt64.le_refl slot) hle, Halt.lookup, ExceptT.run_mk, map_bind, map_pure]
        rfl
      rw [firstBlock_eq, if_neg (UInt64.not_lt.mpr hle), ExceptT.run_bind, hask, hadd,
        List.range'_succ, List.map_cons, List.forM_cons, UInt64.ofNat_toNat]
      simp [hrest, Halt.arithmetic_ok_bind]

/-! ### The interval

There are three outcomes, and each has its condition: the last block of the previous
interval is missing, every slot up to the snapshot was skipped, or there is a first block.
All else that is worked out has a word under `ResolutionFits`, so no fault comes between.
-/

/-- An interval that starts with the first block from a slot on. -/
structure StartsFrom (blocks : UInt64 → Option BeaconBlock) (headers : UInt64 → BlockHeader)
    (config : BeaconConfig) (previous : RewardsEvent) (snapshotEnd : SnapshotEnd) (first : UInt64)
    (resolved : ResolvedInterval) : Prop where
  behind : previous.consensusBlock < resolved.bounds.firstSlot
  firstSlot : first ≤ resolved.bounds.firstSlot ∧ resolved.bounds.firstSlot ≤ resolved.bounds.lastSlot
  skipped : ∀ slot, first ≤ slot → slot < resolved.bounds.firstSlot → blocks slot = none
  /-- A block from before the merge has no execution block of its own. -/
  firstBlock : ∃ block, blocks resolved.bounds.firstSlot = some block ∧
    resolved.bounds.firstBlock.toNat =
      if block.executionBlock = 0 then previous.executionBlock.toNat + 1 else block.executionBlock.toNat
  startTime : config.slotTime first = .ok resolved.bounds.startTime
  endTime : config.slotTime snapshotEnd.slot = .ok resolved.bounds.endTime
  lastSlot : resolved.bounds.lastSlot = snapshotEnd.consensusBlock
  lastBlock : resolved.bounds.lastBlock = snapshotEnd.executionBlock
  startHeader : resolved.startHeader = headers resolved.bounds.firstBlock

/-- What comes of the bounds of an interval whose slots start with a given one. -/
structure Resolved (blocks : UInt64 → Option BeaconBlock) (headers : UInt64 → BlockHeader)
    (config : BeaconConfig) (previous : RewardsEvent) (snapshotEnd : SnapshotEnd) (first : UInt64)
    (result : Except Halt ResolvedInterval) : Prop where
  unavailable : result = .error (.error (.blockUnavailable previous.consensusBlock)) ↔
    blocks previous.consensusBlock = none
  notFound : blocks previous.consensusBlock ≠ none →
    (result = .error (.error (.intervalStartNotFound first snapshotEnd.consensusBlock)) ↔
      Skipped blocks first snapshotEnd.consensusBlock)
  starts : blocks previous.consensusBlock ≠ none → ¬Skipped blocks first snapshotEnd.consensusBlock →
    ∃ resolved, result = .ok resolved ∧
      StartsFrom blocks headers config previous snapshotEnd first resolved

theorem StartsFrom.not_skipped {resolved : ResolvedInterval}
    (h : StartsFrom blocks headers config previous snapshotEnd first resolved) :
    ¬Skipped blocks first snapshotEnd.consensusBlock := by
  intro hall
  obtain ⟨block, hat, -⟩ := h.firstBlock
  have hnone := hall _ h.firstSlot.1 (h.lastSlot ▸ h.firstSlot.2)
  rw [hat] at hnone
  cases hnone

theorem resolved_unavailable (hprevious : blocks previous.consensusBlock = none) :
    Resolved blocks headers config previous snapshotEnd first
      (.error (.error (.blockUnavailable previous.consensusBlock))) where
  unavailable := iff_of_true rfl hprevious
  notFound h := absurd hprevious h
  starts h := absurd hprevious h

theorem resolved_notFound (hprevious : blocks previous.consensusBlock ≠ none)
    (hall : Skipped blocks first snapshotEnd.consensusBlock) :
    Resolved blocks headers config previous snapshotEnd first
      (.error (.error (.intervalStartNotFound first snapshotEnd.consensusBlock))) where
  unavailable := iff_of_false (by intro h; cases h) hprevious
  notFound _ := iff_of_true rfl hall
  starts _ h := absurd hall h

theorem StartsFrom.resolved {interval : ResolvedInterval}
    (hprevious : blocks previous.consensusBlock ≠ none)
    (h : StartsFrom blocks headers config previous snapshotEnd first interval) :
    Resolved blocks headers config previous snapshotEnd first (.ok interval) where
  unavailable := iff_of_false (by intro h; cases h) hprevious
  notFound _ := iff_of_false (by intro h; cases h) h.not_skipped
  starts _ _ := ⟨interval, rfl, h⟩

/-- The slots, times and blocks that a resolution works out are words. -/
structure ResolutionFits (blocks : UInt64 → Option BeaconBlock) (config : BeaconConfig)
    (previous : RewardsEvent) (snapshotEnd : SnapshotEnd) (first : UInt64) : Prop where
  slots : 1 ≤ config.slotsPerEpoch
  /-- The interval starts with the epoch behind the previous one's last slot. -/
  firstSlot : first.toNat = (config.epochNumber previous.consensusBlock + 1) * config.slotsPerEpoch.toNat
  lastSlot : snapshotEnd.consensusBlock.toNat + 1 < UInt64.size
  startTime : config.genesisTime.toNat + first.toNat * config.secondsPerSlot.toNat < UInt64.size
  endTime : config.genesisTime.toNat + snapshotEnd.slot.toNat * config.secondsPerSlot.toNat < UInt64.size
  /-- Only a block from before the merge needs the execution block behind the previous interval. -/
  merge : ∀ slot block, first ≤ slot → slot ≤ snapshotEnd.consensusBlock → blocks slot = some block →
    block.executionBlock = 0 → previous.executionBlock.toNat + 1 < UInt64.size

/-- The epoch behind a slot starts behind it. -/
theorem ResolutionFits.lt_first (h : ResolutionFits blocks config previous snapshotEnd first) :
    previous.consensusBlock < first := by
  have hpos : 0 < config.slotsPerEpoch.toNat := h.slots
  rw [UInt64.lt_iff_toNat_lt, h.firstSlot]
  exact Nat.lt_mul_of_div_lt (Nat.lt_succ_self _) hpos

theorem ResolutionFits.firstSlotOf (h : ResolutionFits blocks config previous snapshotEnd first) :
    ∃ epoch next, config.epochOf previous.consensusBlock = .ok epoch ∧ Word.add epoch 1 = .ok next ∧
      config.firstSlotOf next = .ok first := by
  have hpos : 0 < config.slotsPerEpoch.toNat := h.slots
  have hepoch : config.epochOf previous.consensusBlock =
      .ok (previous.consensusBlock / config.slotsPerEpoch) := config.epochOf_of_pos hpos
  have hnumber := BeaconConfig.toNat_of_epochOf hepoch
  have hle := Nat.le_mul_of_pos_right (config.epochNumber previous.consensusBlock + 1) hpos
  rw [← h.firstSlot, ← hnumber] at hle
  obtain ⟨hadd, hnext⟩ := Word.add_one (Nat.lt_of_le_of_lt hle first.toNat_lt_size)
  refine ⟨_, _, hepoch, hadd, ?_⟩
  rw [BeaconConfig.firstSlotOf, Word.mul_eq_ok_iff, hnext, hnumber]
  exact h.firstSlot

theorem ResolutionFits.startsFrom (h : ResolutionFits blocks config previous snapshotEnd first)
    (headers : UInt64 → BlockHeader) {block : BeaconBlock} {start : UInt64} (hat : blocks slot = some block) (hfrom : first ≤ slot)
    (hto : slot ≤ snapshotEnd.consensusBlock)
    (hskipped : ∀ other, first ≤ other → other < slot → blocks other = none)
    (hstart : start.toNat =
      if block.executionBlock = 0 then previous.executionBlock.toNat + 1 else block.executionBlock.toNat) :
    StartsFrom blocks headers config previous snapshotEnd first {
      bounds := {
        startTime := config.startOf first
        endTime := config.startOf snapshotEnd.slot
        firstSlot := slot
        lastSlot := snapshotEnd.consensusBlock
        firstBlock := start
        lastBlock := snapshotEnd.executionBlock }
      startHeader := headers start } where
  behind := UInt64.lt_of_lt_of_le h.lt_first hfrom
  firstSlot := ⟨hfrom, hto⟩
  skipped := hskipped
  firstBlock := ⟨block, hat, hstart⟩
  startTime := config.slotTime_of_lt h.startTime
  endTime := config.slotTime_of_lt h.endTime
  lastSlot := rfl
  lastBlock := rfl
  startHeader := rfl

/-- **An interval starts with the first block behind the previous one**, whatever slots were skipped;
there is none only if the chain does not have the previous interval's last block, or none after it. -/
theorem resolveInterval_resolved [LawfulMonad m] (hserves : Serves consensus execution blocks headers)
    (hfits : ResolutionFits blocks config previous snapshotEnd first) :
    Always (Resolved blocks headers config previous snapshotEnd first)
      (resolveInterval consensus execution config previous snapshotEnd).run := by
  obtain ⟨epoch, next, hepoch, hnext, hfirst⟩ := hfits.firstSlotOf
  unfold resolveInterval
  refine (surely_lookup (hserves.block previous.consensusBlock)).bind ?_
  rcases hprevious : blocks previous.consensusBlock with _ | before
  · exact stops_bind (resolved_unavailable hprevious)
  have hsome : blocks previous.consensusBlock ≠ none := by simp [hprevious]
  refine (surely_arithmetic hepoch).bind ?_
  refine (surely_arithmetic hnext).bind ?_
  refine (surely_arithmetic hfirst).bind ?_
  refine (surely_arithmetic (config.slotTime_of_lt hfits.startTime)).bind ?_
  refine (surely_arithmetic (config.slotTime_of_lt hfits.endTime)).bind ?_
  rw [ExceptT.run_bind]
  refine Always.bind (found_firstBlock hserves.block hfits.lastSlot first first) ?_
  intro result hfound
  cases hfound with
  | nothing hnone => exact always_pure (resolved_notFound hsome hnone)
  | @block slot block hat hfrom hlast hskipped =>
      dsimp only
      split
      · next hmerge =>
        obtain ⟨hadd, hstart⟩ := Word.add_one (hfits.merge slot block hfrom hlast hat hmerge)
        refine (surely_arithmetic hadd).bind ?_
        refine (surely_lookup (hserves.header _)).bind ?_
        have hstarts := hfits.startsFrom headers hat hfrom hlast hskipped (hstart.trans (if_pos hmerge).symm)
        exact always_pure (hstarts.resolved hsome)
      · next hmerge =>
        refine (surely_pure _).bind ?_
        refine (surely_lookup (hserves.header _)).bind ?_
        have hstarts := hfits.startsFrom headers hat hfrom hlast hskipped (if_neg hmerge).symm
        exact always_pure (hstarts.resolved hsome)

/-- Slots 96 and 97 were skipped, and the block of slot 98 is from before the merge. -/
def lateChain (slot : UInt64) : Option BeaconBlock :=
  if slot = 95 then some ⟨95, 500⟩
  else if 98 ≤ slot then some ⟨slot, if slot = 98 then 0 else 501⟩
  else none

def lateConsensus : ConsensusClient Id where
  config := .ok ⟨1000, 12, 32⟩
  block slot := .ok (lateChain slot)
  committees _ := .ok []
  attestations _ := .ok none

def lateExecution : ExecutionClient Id where
  snapshot _ := .error (.of "no snapshot")
  header number := .ok ⟨number, number + 7⟩
  isEnabled _ _ := .ok true
  rewardsEvent _ := .error (.of "no event")

theorem resolveInterval_resolved_lateChain :
    Serves lateConsensus lateExecution lateChain (fun number => ⟨number, number + 7⟩) ∧
    ResolutionFits lateChain ⟨1000, 12, 32⟩ ⟨4, 95, 500, 1⟩ ⟨199, 199, 501⟩ 96 ∧
    ∃ resolved, Id.run (resolveInterval lateConsensus lateExecution ⟨1000, 12, 32⟩ ⟨4, 95, 500, 1⟩
        ⟨199, 199, 501⟩).run = .ok resolved ∧
      StartsFrom lateChain (fun number => ⟨number, number + 7⟩) ⟨1000, 12, 32⟩ ⟨4, 95, 500, 1⟩
        ⟨199, 199, 501⟩ 96 resolved ∧
      resolved.bounds = ⟨2152, 3388, 98, 199, 501, 501⟩ := by
  have hserves : Serves lateConsensus lateExecution lateChain (fun number => ⟨number, number + 7⟩) :=
    ⟨fun _ => always_id.mpr rfl, fun _ => always_id.mpr rfl⟩
  have hfits : ResolutionFits lateChain ⟨1000, 12, 32⟩ ⟨4, 95, 500, 1⟩ ⟨199, 199, 501⟩ 96 :=
    ⟨by decide, by decide, by decide, by decide, by decide, fun _ _ _ _ _ _ => by decide⟩
  have hresolved := always_id.mp (resolveInterval_resolved hserves hfits)
  have hsome : lateChain 95 ≠ none := by decide
  have hblock : ¬Skipped lateChain 96 199 := fun h => absurd (h 98 (by decide) (by decide)) (by decide)
  obtain ⟨resolved, hrun, hstarts⟩ := hresolved.starts hsome hblock
  have hbounds : (Id.run (resolveInterval lateConsensus lateExecution ⟨1000, 12, 32⟩ ⟨4, 95, 500, 1⟩
      ⟨199, 199, 501⟩).run).toOption.map (·.bounds) = some ⟨2152, 3388, 98, 199, 501, 501⟩ := by
    decide +kernel
  rw [hrun] at hbounds
  exact ⟨hserves, hfits, resolved, hrun, hstarts, Option.some.inj hbounds⟩

end PoolRewards
