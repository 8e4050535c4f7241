/-
What a walk over an interval finds.

Against a well-formed client the walk's bookkeeping comes to a plain statement about the
chain: a validator owes the slots of the interval in which a committee has it while its
node is in the pool, and has met those of them whose committee bit some block of the
interval, or of the epoch behind it, shows.
-/
import PoolRewards.Proofs.Duties.Epochs
import PoolRewards.Proofs.Duties.Links

namespace PoolRewards

open Std (ExtTreeMap)

namespace Tracker

variable {client : ConsensusClient Id} {start after : Tracker} {validator slot : UInt64}

/-! ### The interval

The walk starts with nothing owed and nothing met, which is the invariant of `Walked` before
the first epoch.  Behind the epoch after the interval's last one the invariant speaks of the
whole interval.
-/

/-- A tracker without duties, of an interval whose first slot is not behind its last one. -/
structure Blank (tracker : Tracker) : Prop where
  sound : tracker.Sound
  owed : tracker.owed = ∅
  met : tracker.met = ∅
  pending : ∀ key position, tracker.pending key position = none
  perEpoch : 0 < tracker.config.slotsPerEpoch.toNat
  ordered : tracker.bounds.firstSlot ≤ tracker.bounds.lastSlot

theorem epochNumber_of_contains (h : start.bounds.contains slot = true) :
    start.config.epochNumber start.bounds.firstSlot ≤ start.config.epochNumber slot ∧
      start.config.epochNumber slot ≤ start.config.epochNumber start.bounds.lastSlot := by
  unfold IntervalBounds.contains at h
  simp only [Bool.and_eq_true, decide_eq_true_eq, UInt64.le_iff_toNat_le] at h
  exact ⟨Nat.div_le_div_right h.1, Nat.div_le_div_right h.2⟩

theorem Blank.walked (h : Blank start) (client : ConsensusClient Id) :
    Walked client start (start.config.epochNumber start.bounds.firstSlot)
      (start.config.epochNumber start.bounds.firstSlot)
      (start.config.epochNumber start.bounds.firstSlot) start where
  sound := h.sound
  frame := rfl
  owed x := by
    rw [h.owed]
    refine ⟨fun hx => absurd hx (Set.notMem_empty x), ?_⟩
    intro h'
    obtain ⟨hdue, hlt⟩ := h'
    have := (epochNumber_of_contains hdue.1).1
    omega
  met x := by
    rw [h.met]
    refine ⟨fun hx => absurd hx (Set.notMem_empty x), ?_⟩
    intro h'
    obtain ⟨-, committee, position, -, -, -, slot, attestations, hfirst, hlast, -⟩ := h'
    omega
  pending key position validator _ := by
    rw [h.pending]
    refine ⟨fun hx => absurd hx (by simp), ?_⟩
    intro h'
    obtain ⟨hlt, ⟨committee, -, rfl, htakes, -⟩, -⟩ := h'
    have := (epochNumber_of_contains (Bool.and_eq_true_iff.mp htakes).1).1
    change start.config.epochNumber committee.slot < _ at hlt
    omega

/-- **What a walk finds.** -/
theorem Blank.walk (h : Blank start) (hwell : client.WellFormed start.config)
    {totals : AttestationTotals} (hyields : Yields (walk client) start totals after) :
    Walked client start (start.config.epochNumber start.bounds.firstSlot)
      (start.config.epochNumber start.bounds.lastSlot + 2)
      (start.config.epochNumber start.bounds.lastSlot + 2) after := by
  obtain ⟨firstEpoch, lastEpoch, next, mid, hfirst, hlast, hnext, hepochs, htrailing, -⟩ :=
    yields_walk.mp hyields
  have hnext := Word.toNat_of_add_one hnext
  have hlt := next.toNat_lt_size
  rw [← BeaconConfig.toNat_of_epochOf hfirst, ← BeaconConfig.toNat_of_epochOf hlast]
  have hblank := h.walked client
  rw [← BeaconConfig.toNat_of_epochOf hfirst] at hblank
  have hle : firstEpoch.toNat ≤ lastEpoch.toNat := by
    rw [BeaconConfig.toNat_of_epochOf hfirst, BeaconConfig.toNat_of_epochOf hlast]
    exact Nat.div_le_div_right (UInt64.le_iff_toNat_le.mp h.ordered)
  have hmid := hblank.walkEpochs hwell h.perEpoch _ (Nat.le_refl _) (by omega) hepochs
  rw [show firstEpoch.toNat + (lastEpoch.toNat + 1 - firstEpoch.toNat) = next.toNat by omega] at hmid
  have hafter := hmid.walkEpoch hwell h.perEpoch (by omega) ?_ htrailing
  · rw [show next.toNat + 1 = lastEpoch.toNat + 2 by omega] at hafter
    exact hafter
  · intro committees hanswer
    rw [IsAnswer, if_neg Bool.false_ne_true] at hanswer
    subst hanswer
    refine epochCommittees_nil fun slot hin => ?_
    have := (epochNumber_of_contains hin).2
    rw [← BeaconConfig.toNat_of_epochOf hlast] at this
    omega

theorem Blank.exists_walk (h : Blank start) (hwell : client.WellFormed start.config)
    (hfits : (start.config.epochNumber start.bounds.lastSlot + 2) *
      start.config.slotsPerEpoch.toNat ≤ UInt64.size)
    (htimed : ∀ slot, start.bounds.contains slot = true → ∃ time, start.config.slotTime slot = .ok time)
    (hfew : {x | Due client start x}.ncard < UInt64.size) :
    ∃ totals after, Yields (Tracker.walk client) start totals after := by
  let firstEpoch := start.bounds.firstSlot / start.config.slotsPerEpoch
  let lastEpoch := start.bounds.lastSlot / start.config.slotsPerEpoch
  have hfirst : start.config.epochOf start.bounds.firstSlot = .ok firstEpoch :=
    BeaconConfig.epochOf_of_pos h.perEpoch
  have hlast : start.config.epochOf start.bounds.lastSlot = .ok lastEpoch :=
    BeaconConfig.epochOf_of_pos h.perEpoch
  have hfirst' := BeaconConfig.toNat_of_epochOf hfirst
  have hlast' := BeaconConfig.toNat_of_epochOf hlast
  have hle : firstEpoch.toNat ≤ lastEpoch.toNat := by
    rw [hfirst', hlast']
    exact Nat.div_le_div_right (UInt64.le_iff_toNat_le.mp h.ordered)
  rw [← hlast'] at hfits
  have hroom : lastEpoch.toNat + 2 ≤ UInt64.size :=
    (Nat.le_mul_of_pos_right _ h.perEpoch).trans hfits
  obtain ⟨hnext, hnumber⟩ := Word.add_one (show lastEpoch.toNat + 1 < UInt64.size by omega)
  have hblank := h.walked client
  rw [← hfirst'] at hblank
  have hcount : firstEpoch.toNat + (lastEpoch.toNat + 1 - firstEpoch.toNat) = (lastEpoch + 1).toNat := by
    rw [hnumber]
    omega
  obtain ⟨mid, hepochs⟩ := hblank.exists_walkEpochs hwell h.perEpoch htimed hfew
    (lastEpoch.toNat + 1 - firstEpoch.toNat) (Nat.le_refl _) (by omega)
    ((Nat.mul_le_mul_right _ (by omega)).trans hfits)
  have hmid := hblank.walkEpochs hwell h.perEpoch _ (Nat.le_refl _) (by omega) hepochs
  rw [hcount] at hmid
  have hnone : IsAnswer client (lastEpoch + 1) false [] := rfl
  obtain ⟨after, htrailing⟩ := hmid.exists_walkEpoch hwell h.perEpoch (by omega) hnone
    (epochCommittees_nil fun slot hin => by
      have := (epochNumber_of_contains hin).2
      omega)
    ((Nat.mul_le_mul_right _ (by omega)).trans hfits) htimed hfew
  exact ⟨after.totals, after, yields_walk.mpr ⟨firstEpoch, lastEpoch, lastEpoch + 1, mid, hfirst, hlast,
    hnext, hepochs, htrailing, rfl⟩⟩

/-! ### From a snapshot

A slot has a start, and an epoch a number, wherever `SlotsFit` holds.  Then the walk can
only be stopped by its count of attestations, as the client always answers.
-/

/-- An interval whose slots, their starts and the epochs around it have words. -/
structure SlotsFit (snapshot : Snapshot) (bounds : IntervalBounds) : Prop where
  perEpoch : 0 < snapshot.config.slotsPerEpoch.toNat
  ordered : bounds.firstSlot ≤ bounds.lastSlot
  activation : ∀ (pubkey : PublicKey) (status : ValidatorStatus),
    snapshot.validators[pubkey]? = some status → status.activationEpoch ≠ farEpoch →
      ∃ slot, snapshot.config.firstSlotOf status.activationEpoch = .ok slot
  exit : ∀ (pubkey : PublicKey) (status : ValidatorStatus),
    snapshot.validators[pubkey]? = some status → status.exitEpoch ≠ farEpoch →
      ∃ slot, snapshot.config.firstSlotOf status.exitEpoch = .ok slot
  time : ∃ time, snapshot.config.slotTime bounds.lastSlot = .ok time
  epochs : (snapshot.config.epochNumber bounds.lastSlot + 2) * snapshot.config.slotsPerEpoch.toNat ≤
    UInt64.size

/-- The duties of the minipool that is tracked for a validator, as the chain tells them. -/
structure DutiesAttested (client : ConsensusClient Id) (config : BeaconConfig) (bounds : IntervalBounds)
    (validator : UInt64) (node : PoolNode) (minipool : PoolMinipool) : Prop where
  owed : ∀ slot, slot ∈ minipool.owed ↔
    bounds.contains slot = true ∧
    (∃ committee, client.Names committee ∧ committee.slot = slot ∧ validator ∈ committee.validators) ∧
    ∃ time, config.slotTime slot = .ok time ∧ node.isOptedInAt time = true ∧
      minipool.stakingSince ≤ time
  fulfilled : ∀ slot, slot ∈ minipool.fulfilled ↔
    slot ∈ minipool.owed ∧ ∃ committee position, client.Names committee ∧ committee.slot = slot ∧
      committee.validators[position]? = some validator ∧
      client.ShowsIn config (config.epochNumber bounds.firstSlot)
        (config.epochNumber bounds.lastSlot + 2) committee.key position
  completed : minipool.completed = minipool.fulfilled

variable {snapshot : Snapshot} {bounds : IntervalBounds}

theorem SlotsFit.slotTime (h : SlotsFit snapshot bounds) (hin : bounds.contains slot = true) :
    snapshot.config.slotTime slot = .ok (snapshot.config.startOf slot) := by
  obtain ⟨time, htime⟩ := h.time
  rw [BeaconConfig.slotTime_eq_ok_iff] at htime
  have hlt := time.toNat_lt_size
  unfold IntervalBounds.contains at hin
  simp only [Bool.and_eq_true, decide_eq_true_eq, UInt64.le_iff_toNat_le] at hin
  have hmul := Nat.mul_le_mul_right snapshot.config.secondsPerSlot.toNat hin.2
  exact BeaconConfig.slotTime_of_lt (by omega)

theorem SlotsFit.trackedValidator (h : SlotsFit snapshot bounds) (pubkey : PublicKey) :
    ∃ found, Tracker.trackedValidator snapshot bounds pubkey = .ok found := by
  unfold Tracker.trackedValidator
  rcases hstatus : snapshot.validators[pubkey]? with _ | status
  · exact ⟨none, rfl⟩
  · dsimp only
    split
    · exact ⟨none, rfl⟩
    · next hactive =>
      obtain ⟨active, hslot⟩ := h.activation pubkey status hstatus fun hc => hactive (Or.inr hc)
      rw [hslot]
      show ∃ found, (if bounds.lastSlot < active then pure none else _ : Except Fault _) =
        Except.ok found
      split
      · exact ⟨none, rfl⟩
      · split
        · next hexit =>
          obtain ⟨exit, hslot⟩ := h.exit pubkey status hstatus hexit
          rw [hslot]
          show ∃ found, (if exit < bounds.firstSlot then pure none else _ : Except Fault _) =
            Except.ok found
          split
          · exact ⟨none, rfl⟩
          · exact ⟨some status.index, rfl⟩
        · exact ⟨some status.index, rfl⟩

theorem SlotsFit.started (h : SlotsFit snapshot bounds) :
    ∃ start, Tracker.new snapshot bounds snapshot.poolNodes = (.ok (), start) ∧
      Started snapshot bounds snapshot.poolNodes start := by
  obtain ⟨⟨⟩, start, hrun, hstarted⟩ := (new_ends snapshot bounds snapshot.poolNodes).exists_ok (by
    intro h'
    obtain ⟨place, node, minipool, -, fault, hfault⟩ := h'
    obtain ⟨found, hfound⟩ := h.trackedValidator minipool.pubkey
    rw [hfound] at hfault
    cases hfault)
  exact ⟨start, hrun, hstarted⟩

theorem Started.blank (h : Started snapshot bounds snapshot.poolNodes start)
    (hfits : SlotsFit snapshot bounds) : Blank start where
  sound := h.sound (fresh_poolNodes snapshot)
  owed := h.slotsOf_eq_empty (fresh_poolNodes snapshot) fun _ => rfl
  met := h.slotsOf_eq_empty (fresh_poolNodes snapshot) fun _ => rfl
  pending := h.pending
  perEpoch := by
    rw [h.config]
    exact hfits.perEpoch
  ordered := by
    rw [h.bounds]
    exact hfits.ordered

/-- The duties of a tracked minipool are what the invariant says of its validator. -/
theorem Walked.dutiesAttested (hfits : SlotsFit snapshot bounds)
    (hconfig : start.config = snapshot.config) (hbounds : start.bounds = bounds)
    (h : Walked client start (start.config.epochNumber start.bounds.firstSlot)
      (start.config.epochNumber start.bounds.lastSlot + 2)
      (start.config.epochNumber start.bounds.lastSlot + 2) after)
    {place : Place} {node : PoolNode} {minipool : PoolMinipool}
    (hv : after.validators[validator]? = some place)
    (hat : after.at? place = some (node, minipool)) :
    DutiesAttested client snapshot.config bounds validator node minipool := by
  rw [hconfig, hbounds] at h
  have howing : ∀ slot, start.isOwing (snapshot.config.startOf slot) validator = true ↔
      node.isOptedInAt (snapshot.config.startOf slot) = true ∧
        minipool.stakingSince ≤ snapshot.config.startOf slot := by
    intro slot
    rw [← isOwing_of_frame h.frame, isOwing_iff, linked?_of_validators hv, hat]
    refine ⟨?_, ?_⟩
    · intro h'
      obtain ⟨_, _, heq, hwhen⟩ := h'
      cases heq
      exact hwhen
    · intro hwhen
      exact ⟨node, minipool, rfl, hwhen⟩
  have howed : ∀ slot, slot ∈ minipool.owed ↔ Due client start (validator, slot) := by
    intro slot
    rw [← mem_slotsOf_of_tracked hv hat (·.owed)]
    refine (h.owed _).trans (and_iff_left_of_imp ?_)
    intro hdue
    have := (epochNumber_of_contains hdue.1).2
    rw [hconfig, hbounds] at this
    rw [hconfig]
    exact Nat.lt_add_right 1 (Nat.lt_succ_of_le this)
  refine ⟨?_, ?_, (h.sound.minipool hat).completed⟩
  · intro slot
    rw [howed, Due, hconfig, hbounds, howing, and_congr_right_iff]
    intro hin
    have htime := hfits.slotTime hin
    refine ⟨?_, ?_⟩
    · intro h'
      obtain ⟨hwhen, hcommittee⟩ := h'
      exact ⟨hcommittee, _, htime, hwhen⟩
    · intro h'
      obtain ⟨hcommittee, time, htime', hwhen⟩ := h'
      rw [htime] at htime'
      cases htime'
      exact ⟨hwhen, hcommittee⟩
  · intro slot
    rw [howed, ← mem_slotsOf_of_tracked hv hat (·.fulfilled)]
    refine (h.met _).trans ?_
    rw [Shown, hconfig]

/-- **The duties that a walk records are those that the chain attests.**  The walk has an answer
unless more pairs of a tracked validator and a slot of the interval are met than there are words. -/
theorem walk_attested (hwell : client.WellFormed snapshot.config) (hfits : SlotsFit snapshot bounds) :
    ∃ start, Tracker.new snapshot bounds snapshot.poolNodes = (.ok (), start) ∧
      (∀ totals after, Id.run ((walk client).run.run start) = (.ok totals, after) →
        after.frame = start.frame ∧
        ∀ place node minipool, after.at? place = some (node, minipool) →
          ((∀ validator : UInt64, after.validators[validator]? ≠ some place) →
            minipool.owed = ∅ ∧ minipool.fulfilled = ∅ ∧ minipool.completed = ∅) ∧
          ∀ validator : UInt64, after.validators[validator]? = some place →
            DutiesAttested client snapshot.config bounds validator node minipool) ∧
      ({x : UInt64 × UInt64 | x.1 ∈ start.validators ∧ bounds.contains x.2 = true}.ncard < UInt64.size →
        ∃ totals after, Id.run ((walk client).run.run start) = (.ok totals, after)) := by
  obtain ⟨start, hnew, hstarted⟩ := hfits.started
  have hblank := hstarted.blank hfits
  rw [← hstarted.config] at hwell
  refine ⟨start, hnew, ?_, ?_⟩
  · intro totals after hrun
    have hwalked := hblank.walk hwell hrun
    refine ⟨hwalked.frame, ?_⟩
    intro place node minipool hat
    refine ⟨?_, fun validator hv =>
      hwalked.dutiesAttested hfits hstarted.config hstarted.bounds hv hat⟩
    intro huntracked
    have howed := hwalked.sound.untracked hat huntracked
    obtain ⟨hfulfilled, hcompleted, -⟩ := (hwalked.sound.minipool hat).of_owed_empty howed
    exact ⟨howed, hfulfilled, hcompleted⟩
  · intro hfew
    refine hblank.exists_walk hwell ?_ ?_ ?_
    · rw [hstarted.config, hstarted.bounds]
      exact hfits.epochs
    · rw [hstarted.config, hstarted.bounds]
      exact fun slot hin => ⟨_, hfits.slotTime hin⟩
    · refine (Set.ncard_le_ncard ?_).trans_lt hfew
      intro x hx
      obtain ⟨hin, howing, -⟩ := hx
      obtain ⟨node, minipool, hlinked, -⟩ := isOwing_iff.mp howing
      obtain ⟨place, hv, -⟩ := Option.bind_eq_some_iff.mp hlinked
      refine ⟨ExtTreeMap.mem_iff_isSome_getElem?.mpr (Option.isSome_iff_exists.mpr ⟨place, hv⟩), ?_⟩
      rw [← hstarted.bounds]
      exact hin

end Tracker

/-! ### Two validators

One epoch with two committees is enough for both halves: something is owed, and all of it is
met.
-/

open Tracker

/-- Two nodes in the pool, whose minipools have the validators 7 and 8. -/
def twoNodes : Snapshot where
  executionBlock := 3
  beaconSlot := 3
  config := ⟨0, 12, 2⟩
  network := ⟨1, 24, 1000000000000000000, 150000000000000000, 700000000000000000, 150000000000000000,
    1000000000000000000⟩
  nodes := [⟨1, 0, true, 0, 3, 1⟩, ⟨2, 0, true, 0, 1, 1⟩]
  minipools := [
    ⟨11, 1, 21, true, .staking, 0, 0, 100000000000000000, 8000000000000000000, 0, 0, 0⟩,
    ⟨12, 2, 22, true, .staking, 0, 0, 100000000000000000, 8000000000000000000, 0, 0, 0⟩]
  oracleMembers := [⟨1, 0⟩, ⟨3, 0⟩]
  validators := ((∅ : ExtTreeMap PublicKey ValidatorStatus).insert 21
    ⟨7, .activeOngoing, 0, farEpoch⟩).insert 22 ⟨8, .activeOngoing, 0, farEpoch⟩

/-- The second epoch. -/
def secondEpoch : IntervalBounds := ⟨24, 36, 2, 3, 2, 3⟩

/-- Each validator is in a committee, and the block of slot 4 includes both attestations. -/
def twoCommittees : ConsensusClient Id where
  config := .ok ⟨0, 12, 2⟩
  block slot := .ok (some ⟨slot, slot⟩)
  committees epoch := .ok (if epoch = 1 then [⟨2, 0, [7]⟩, ⟨3, 0, [8]⟩] else [])
  attestations slot := .ok (if slot = 4 then some [⟨2, 0, ⟨[1]⟩⟩, ⟨3, 0, ⟨[1]⟩⟩] else none)

theorem distinct_twoCommittees {epoch : UInt64} {committees : List Committee}
    (h : Id.run (twoCommittees.committees epoch) = .ok committees) : (committees.map (·.key)).Nodup := by
  cases h
  split
  · decide
  · exact List.nodup_nil

theorem wellFormed_twoCommittees : twoCommittees.WellFormed twoNodes.config where
  committees epoch := ⟨_, rfl⟩
  attestations slot := ⟨_, rfl⟩
  ofEpoch epoch committees h committee hmem := by
    cases h
    split at hmem
    · next hepoch =>
      subst hepoch
      rcases List.mem_pair.mp hmem with rfl | rfl <;> rfl
    · cases hmem
  distinct epoch committees := distinct_twoCommittees
  timely slot attestations h attestation hmem := by
    have h : (if slot = 4 then some [Attestation.mk 2 0 ⟨[1]⟩, ⟨3, 0, ⟨[1]⟩⟩] else none) =
        some attestations := Except.ok.inj h
    split at h
    · next hslot =>
      cases h
      subst hslot
      rcases List.mem_pair.mp hmem with rfl | rfl <;> exact ⟨2, 1, rfl, rfl, Or.inr rfl⟩
    · cases h

theorem validators_twoNodes {pubkey : PublicKey} {status : ValidatorStatus}
    (h : twoNodes.validators[pubkey]? = some status) :
    pubkey = 21 ∧ status = ⟨7, .activeOngoing, 0, farEpoch⟩ ∨
      pubkey = 22 ∧ status = ⟨8, .activeOngoing, 0, farEpoch⟩ := by
  simp only [twoNodes, ExtTreeMap.getElem?_insert, ExtTreeMap.getElem?_empty,
    Std.LawfulEqCmp.compare_eq_iff_eq] at h
  split at h
  · next hkey =>
    cases h
    exact .inr ⟨hkey.symm, rfl⟩
  · split at h
    · next hkey =>
      cases h
      exact .inl ⟨hkey.symm, rfl⟩
    · cases h

theorem slotsFit_twoNodes : SlotsFit twoNodes secondEpoch := by
  refine ⟨by decide, by decide, ?_, ?_, ⟨36, rfl⟩, by decide⟩
  · intro pubkey status h _
    rcases validators_twoNodes h with ⟨-, rfl⟩ | ⟨-, rfl⟩ <;> exact ⟨0, rfl⟩
  · intro pubkey status h hexit
    rcases validators_twoNodes h with ⟨-, rfl⟩ | ⟨-, rfl⟩ <;> exact absurd rfl hexit

theorem Tracker.walk_twoCommittees :
    ∃ start totals after node minipool,
      Tracker.new twoNodes secondEpoch twoNodes.poolNodes = (.ok (), start) ∧
      Id.run ((walk twoCommittees).run.run start) = (.ok totals, after) ∧
      after.validators[(7 : UInt64)]? = some ⟨0, 0⟩ ∧ after.at? ⟨0, 0⟩ = some (node, minipool) := by
  have heval :
      (Id.run ((walk twoCommittees).run.run (new twoNodes secondEpoch twoNodes.poolNodes).2)).1 =
        .ok ⟨650000000000000000, 2⟩ ∧
      (Id.run ((walk twoCommittees).run.run
        (new twoNodes secondEpoch twoNodes.poolNodes).2)).2.validators[(7 : UInt64)]? = some ⟨0, 0⟩ ∧
      ((Id.run ((walk twoCommittees).run.run
        (new twoNodes secondEpoch twoNodes.poolNodes).2)).2.at? ⟨0, 0⟩).isSome = true := by
    decide +kernel
  obtain ⟨start, hnew, -⟩ := slotsFit_twoNodes.started
  rw [hnew] at heval
  obtain ⟨htotals, hv, hsome⟩ := heval
  obtain ⟨⟨node, minipool⟩, hat⟩ := Option.isSome_iff_exists.mp hsome
  exact ⟨start, _, _, node, minipool, hnew, Prod.ext htotals rfl, hv, hat⟩

theorem Tracker.walk_attested_twoCommittees :
    ∃ start totals after node minipool,
      Tracker.new twoNodes secondEpoch twoNodes.poolNodes = (.ok (), start) ∧
      Id.run ((walk twoCommittees).run.run start) = (.ok totals, after) ∧
      after.at? ⟨0, 0⟩ = some (node, minipool) ∧
      DutiesAttested twoCommittees twoNodes.config secondEpoch 7 node minipool := by
  obtain ⟨start, hnew, hattested, -⟩ := walk_attested wellFormed_twoCommittees slotsFit_twoNodes
  obtain ⟨start', totals, after, node, minipool, hnew', hrun, hv, hat⟩ := walk_twoCommittees
  rw [hnew] at hnew'
  cases hnew'
  exact ⟨start, totals, after, node, minipool, hnew, hrun, hat, ((hattested _ _ hrun).2 _ _ _ hat).2 _ hv⟩

end PoolRewards
