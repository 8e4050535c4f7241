/-
What an epoch comes to depends on the bits that its blocks show, and on nothing else.

Attestations close the positions whose bits they show, so two families of blocks that show the
same bits leave trackers in which the same is owed, met and open, and a sound tracker is told by
that.  It does not matter in which block or how often a bit is shown, or which others are shown
with it; and a bit that was shown closes nothing when it is shown again.
-/
import PoolRewards.Proofs.Duties.Determined
import PoolRewards.Proofs.Duties.Steps

namespace PoolRewards

open Std (ExtTreeMap)

/-- The client with other blocks, each with its attestations. -/
def ConsensusClient.showing {m : Type → Type} [Monad m] (client : ConsensusClient m)
    (blocks : UInt64 → Option (List Attestation)) : ConsensusClient m :=
  { client with attestations := fun slot => pure (.ok (blocks slot)) }

/-- A block of an epoch shows the bit of a position. -/
def ShownInEpoch (config : BeaconConfig) (epoch : UInt64) (blocks : UInt64 → Option (List Attestation))
    (key : DutyKey) (position : Nat) : Prop :=
  ∃ slot attestations, config.epochOf slot = .ok epoch ∧ blocks slot = some attestations ∧
    Shows attestations key position

namespace Tracker

variable {snapshot : Snapshot} {bounds : IntervalBounds} {tracker after after' : Tracker}
  {step step' : Tracking Unit} {first second : List Attestation} {client : ConsensusClient Id}
  {epoch : UInt64} {withCommittees : Bool} {blocks blocks' : UInt64 → Option (List Attestation)}

/-- Some steps have led to the tracker, from one that tracks the validators of a snapshot. -/
def Reachable (snapshot : Snapshot) (bounds : IntervalBounds) (tracker : Tracker) : Prop :=
  ∃ start steps, new snapshot bounds snapshot.poolNodes = (.ok (), start) ∧
    (takeAll steps).run.run start = (.ok (), tracker)

theorem Reachable.sound (h : Reachable snapshot bounds tracker) : tracker.Sound := by
  obtain ⟨start, steps, hnew, hrun⟩ := h
  have hstarted := (new_ends snapshot bounds snapshot.poolNodes).post_of_ok hnew
  exact ((Sound.takeAll steps (hstarted.sound (fresh_poolNodes snapshot))).post_of_ok hrun).sound

/-! ### The bits that are shown

A position that is not open cannot be closed, so of the bits that are shown only those of
open duties count.  Where they are the same, the same is met, and `Alike.eq` makes one
tracker of the two.
-/

/-- Some attestations show the same of the open duties as others. -/
def SameShown (tracker : Tracker) (first second : List Attestation) : Prop :=
  ∀ key position validator, tracker.pending key position = some validator →
    (Shows first key position ↔ Shows second key position)

theorem SameShown.metAfter (h : tracker.SameShown first second) :
    tracker.metAfter second = tracker.metAfter first := by
  ext x
  simp only [Tracker.metAfter, Set.mem_union, Set.mem_ofPred_eq]
  refine or_congr Iff.rfl (exists_congr fun committee => exists_congr fun position => ?_)
  exact and_congr_right fun hpending => (h _ _ _ hpending).symm

/-- **Attestations that show the same have the same effect.** -/
theorem Matches.eq_of_sameShown (h : tracker.Matches after first) (h' : tracker.Matches after' second)
    (hsame : tracker.SameShown first second) : after' = after := by
  refine Alike.eq ⟨h.sound, h'.sound, h'.frame.trans h.frame.symm, h'.owed.trans h.owed.symm, ?_, ?_⟩
  · rw [h'.met, h.met, hsame.metAfter]
  · funext key position
    refine Option.ext fun validator => ?_
    rw [h.pending, h'.pending]
    exact and_congr_right fun hpending => not_congr (hsame _ _ _ hpending).symm

/-- A computation takes in some attestations, unless more are met than can be counted. -/
def TakesIn (step : Tracking Unit) (tracker : Tracker) (attestations : List Attestation) : Prop :=
  Ends step tracker (fun _ after => tracker.Matches after attestations)
    (UInt64.size ≤ (tracker.metAfter attestations).ncard)

theorem Matches.few (h : tracker.Matches after first) : (tracker.metAfter first).ncard < UInt64.size := by
  rw [← h.met, ← h.sound.counted]
  exact after.totals.successful.toNat_lt_size

theorem TakesIn.run_of_sameShown (h : TakesIn step tracker first) (h' : TakesIn step' tracker second)
    (hsame : tracker.SameShown first second) (hrun : step.run.run tracker = (.ok (), after)) :
    step'.run.run tracker = (.ok (), after) := by
  have hmatches := h.post_of_ok hrun
  obtain ⟨⟨⟩, after', hrun', hmatches'⟩ := h'.exists_ok (by
    rw [hsame.metAfter, Nat.not_le]
    exact hmatches.few)
  rw [hrun', hmatches.eq_of_sameShown hmatches' hsame]

/-- **Attestations that show no bit of an open duty change nothing.** -/
theorem Sound.check_of_closed (h : tracker.Sound)
    (hclosed : ∀ key position validator, tracker.pending key position = some validator →
      ¬ Shows first key position) : (Tracker.check first).run.run tracker = (.ok (), tracker) := by
  have hnone : TakesIn (Tracker.check []) tracker [] := h.check []
  refine hnone.run_of_sameShown (h.check first) ?_ rfl
  intro key position validator hpending
  exact iff_of_false (by simp [Shows]) (hclosed _ _ _ hpending)

/-- **It does not matter how an aggregate is split.** -/
theorem Sound.check_split (h : tracker.Sound) {parts : List Attestation} {whole : Attestation}
    (hkey : ∀ part ∈ parts, part.key = whole.key)
    (hbits : ∀ position, whole.bits.has position = true ↔ ∃ part ∈ parts, part.bits.has position = true)
    (before rest : List Attestation) :
    (Tracker.check (before ++ whole :: rest)).run.run tracker = (.ok (), after) ↔
      (Tracker.check (before ++ parts ++ rest)).run.run tracker = (.ok (), after) := by
  have hwhole : ∀ key position, Shows [whole] key position ↔ Shows parts key position := by
    intro key position
    rw [shows_singleton, hbits]
    refine ⟨?_, ?_⟩
    · intro h'
      obtain ⟨rfl, part, hpart, hbit⟩ := h'
      exact ⟨part, hpart, hkey part hpart, hbit⟩
    · intro h'
      obtain ⟨part, hpart, rfl, hbit⟩ := h'
      exact ⟨(hkey part hpart).symm, part, hpart, hbit⟩
  have hshows : ∀ key position,
      Shows (before ++ whole :: rest) key position ↔ Shows (before ++ parts ++ rest) key position := by
    intro key position
    rw [List.append_assoc, show whole :: rest = [whole] ++ rest from rfl, shows_append, shows_append,
      shows_append, shows_append, hwhole]
  have htakes : ∀ attestations, TakesIn (Tracker.check attestations) tracker attestations := fun _ => h.check _
  refine ⟨?_, ?_⟩
  · exact (htakes _).run_of_sameShown (htakes _) fun key position _ _ => hshows key position
  · exact (htakes _).run_of_sameShown (htakes _) fun key position _ _ => (hshows key position).symm

/-! ### One epoch

The blocks are those of the slots of the epoch, and the client's own blocks are replaced by
them.  Everything else that the client answers is left as it is.
-/

theorem shows_flatten_showing {config : BeaconConfig} {lists : List (List Attestation)}
    (hincluded : List.Forall₂ (IncludedAt (client.showing blocks))
      (List.range' (epoch.toNat * config.slotsPerEpoch.toNat) config.slotsPerEpoch.toNat) lists)
    (key : DutyKey) (position : Nat) :
    Shows lists.flatten key position ↔ ShownInEpoch config epoch blocks key position := by
  rcases Nat.eq_zero_or_pos config.slotsPerEpoch.toNat with hnone | hpos
  · -- An epoch without slots has no blocks.
    rw [hnone, List.range'_zero, List.forall₂_nil_left_iff] at hincluded
    subst hincluded
    refine iff_of_false (by simp [Shows]) ?_
    intro h
    obtain ⟨slot, -, hslot, -⟩ := h
    obtain ⟨hne, -⟩ := Word.div_eq_ok_iff.mp hslot
    exact hne (UInt64.toNat_inj.mp hnone)
  · rw [shows_flatten hpos hincluded]
    refine ⟨?_, ?_⟩
    · intro h
      obtain ⟨slot, attestations, hfirst, hlast, hanswer, hshows⟩ := h
      refine ⟨slot, attestations, (BeaconConfig.epochOf_eq_ok_iff hpos).mpr ?_, Except.ok.inj hanswer, hshows⟩
      omega
    · intro h
      obtain ⟨slot, attestations, hslot, hblock, hshows⟩ := h
      have hnumber := BeaconConfig.toNat_of_epochOf hslot
      exact ⟨slot, attestations, by omega, by omega, congrArg Except.ok hblock, hshows⟩

/-- Walks of an epoch whose blocks show the same come to the same. -/
theorem Sound.walkEpoch_of_shown (h : tracker.Sound)
    (hsame : ∀ key position, ShownInEpoch tracker.config epoch blocks key position ↔
      ShownInEpoch tracker.config epoch blocks' key position)
    (hyields : Yields (Tracker.walkEpoch (client.showing blocks) epoch withCommittees) tracker () after) :
    Yields (Tracker.walkEpoch (client.showing blocks') epoch withCommittees) tracker () after := by
  obtain ⟨first, committees, lists, recorded, checked, hrun⟩ := yields_walkEpoch.mp hyields
  have hincluded := hrun.forall₂_included rfl
  have hanswers : ∀ slot, ∃ answer, Id.run ((client.showing blocks').attestations slot) = .ok answer :=
    fun slot => ⟨_, rfl⟩
  obtain ⟨lists', hincluded'⟩ := exists_blocks hanswers
    (List.range' (epoch.toNat * tracker.config.slotsPerEpoch.toNat) tracker.config.slotsPerEpoch.toNat) (by
      intro n hn
      obtain ⟨list, -, slot, rfl, -⟩ := (related_of_forall₂ hincluded).1 n hn
      exact slot.toNat_lt_size)
  have hrecords := (h.record committees).post_of_ok hrun.recording
  have hshows : recorded.SameShown lists.flatten lists'.flatten := by
    intro key position validator _
    rw [shows_flatten_showing hincluded, shows_flatten_showing hincluded', hsame]
  have htakes : ∀ lists, TakesIn (Tracker.checkAll lists) recorded lists.flatten := hrecords.sound.checkAll
  refine yields_walkEpoch.mpr ⟨first, committees, lists', recorded, checked, hrun.start, hrun.answer, ?_,
    hrun.recording, ?_, hrun.pruning⟩
  · rw [Word.mul_eq_ok_iff.mp hrun.start]
    exact hincluded'
  · exact (htakes lists).run_of_sameShown (htakes lists') hshows hrun.checking

/-- What was shown in an epoch changes nothing when it is shown again. -/
theorem Sound.check_again (h : tracker.Sound)
    (hyields : Yields (Tracker.walkEpoch (client.showing blocks) epoch withCommittees) tracker () after)
    {again : List Attestation} (hagain : ∀ key position, Shows again key position →
      ShownInEpoch tracker.config epoch blocks key position) :
    (Tracker.check again).run.run after = (.ok (), after) := by
  obtain ⟨first, committees, lists, recorded, checked, hrun⟩ := yields_walkEpoch.mp hyields
  have hrecords := (h.record committees).post_of_ok hrun.recording
  have hmatches := (hrecords.sound.checkAll lists).post_of_ok hrun.checking
  obtain ⟨hadvances, oldest, -, hpending⟩ := (hmatches.sound.prune epoch).post_of_ok hrun.pruning
  refine hadvances.sound.check_of_closed ?_
  intro key position validator hopen hshows
  rw [hpending] at hopen
  split at hopen
  · have hseen := (shows_flatten_showing (hrun.forall₂_included rfl) key position).mpr
      (hagain key position hshows)
    exact ((hmatches.pending key position validator).mp hopen).2 hseen
  · cases hopen

end Tracker

open Tracker

/-- **An epoch comes to what the bits that its blocks show come to**: blocks that show the same bits,
in whatever order, block, number and company, leave the same nodes, totals and open duties.  What
was shown changes nothing when it is shown again, and an aggregate does what its parts do. -/
theorem walkEpoch_shown {snapshot : Snapshot} {bounds : IntervalBounds} {tracker : Tracker}
    (h : Reachable snapshot bounds tracker) (client : ConsensusClient Id) (epoch : UInt64)
    (withCommittees : Bool) {blocks blocks' : UInt64 → Option (List Attestation)}
    (hsame : ∀ key position, ShownInEpoch tracker.config epoch blocks key position ↔
      ShownInEpoch tracker.config epoch blocks' key position) :
    (∀ after, Yields (walkEpoch (client.showing blocks) epoch withCommittees) tracker () after ↔
      Yields (walkEpoch (client.showing blocks') epoch withCommittees) tracker () after) ∧
    (∀ after again, Yields (walkEpoch (client.showing blocks) epoch withCommittees) tracker () after →
      (∀ key position, Shows again key position →
        ShownInEpoch tracker.config epoch blocks key position) →
      (check again).run.run after = (.ok (), after)) ∧
    ∀ before parts whole rest after, (∀ part ∈ parts, part.key = whole.key) →
      (∀ position, whole.bits.has position = true ↔ ∃ part ∈ parts, part.bits.has position = true) →
      ((check (before ++ whole :: rest)).run.run tracker = (.ok (), after) ↔
        (check (before ++ parts ++ rest)).run.run tracker = (.ok (), after)) := by
  have hsound := h.sound
  refine ⟨?_, ?_, ?_⟩
  · intro after
    exact ⟨hsound.walkEpoch_of_shown hsame,
      hsound.walkEpoch_of_shown fun key position => (hsame key position).symm⟩
  · intro after again hyields hagain
    exact hsound.check_again hyields hagain
  · intro before parts whole rest after hkey hbits
    exact hsound.check_split hkey hbits before rest

/-- Both validators are in one committee of slot 2. -/
def oneCommittee : ConsensusClient Id :=
  { twoCommittees with committees := fun epoch => .ok (if epoch = 1 then [⟨2, 0, [7, 8]⟩] else []) }

/-- The block of slot 3 includes one aggregate of both votes. -/
def aggregated (slot : UInt64) : Option (List Attestation) :=
  if slot = 3 then some [⟨2, 0, ⟨[3]⟩⟩] else none

/-- The votes are included one by one, the second one twice. -/
def scattered (slot : UInt64) : Option (List Attestation) :=
  if slot = 2 then some [⟨2, 0, ⟨[2]⟩⟩]
  else if slot = 3 then some [⟨2, 0, ⟨[2]⟩⟩, ⟨2, 0, ⟨[1]⟩⟩]
  else none

theorem has_three (position : Nat) : (AttestedBits.mk [3]).has position = true ↔
    (AttestedBits.mk [2]).has position = true ∨ (AttestedBits.mk [1]).has position = true := by
  unfold AttestedBits.has
  by_cases hfirst : position / 8 = 0
  · have hsplit : ∀ bit < 8, Nat.testBit 3 bit = true ↔ Nat.testBit 2 bit = true ∨ Nat.testBit 1 bit = true := by
      decide
    rw [hfirst]
    exact hsplit _ (Nat.mod_lt _ (by decide))
  · have hnone : ∀ byte : UInt8, [byte][position / 8]? = none := by
      intro byte
      exact List.getElem?_eq_none (Nat.one_le_iff_ne_zero.mpr hfirst)
    simp only [hnone, Bool.false_eq_true, or_self]

theorem shownInEpoch_aggregated (key : DutyKey) (position : Nat) :
    ShownInEpoch twoNodes.config 1 aggregated key position ↔
      ⟨2, 0⟩ = key ∧ (AttestedBits.mk [3]).has position = true := by
  refine ⟨?_, ?_⟩
  · intro h
    obtain ⟨slot, attestations, -, hblock, hshows⟩ := h
    unfold aggregated at hblock
    split at hblock
    · cases hblock
      exact shows_singleton.mp hshows
    · cases hblock
  · intro h
    exact ⟨3, _, rfl, rfl, shows_singleton.mpr h⟩

theorem shownInEpoch_scattered (key : DutyKey) (position : Nat) :
    ShownInEpoch twoNodes.config 1 scattered key position ↔
      ⟨2, 0⟩ = key ∧ ((AttestedBits.mk [2]).has position = true ∨
        (AttestedBits.mk [1]).has position = true) := by
  refine ⟨?_, ?_⟩
  · intro h
    obtain ⟨slot, attestations, -, hblock, attestation, hmem, hkey, hbit⟩ := h
    unfold scattered at hblock
    split at hblock
    · cases hblock
      rcases List.mem_singleton.mp hmem with rfl
      exact ⟨hkey, Or.inl hbit⟩
    · split at hblock
      · cases hblock
        rcases List.mem_pair.mp hmem with rfl | rfl
        · exact ⟨hkey, Or.inl hbit⟩
        · exact ⟨hkey, Or.inr hbit⟩
      · cases hblock
  · intro h
    obtain ⟨hkey, hbit | hbit⟩ := h
    · exact ⟨2, _, rfl, rfl, _, List.mem_singleton_self _, hkey, hbit⟩
    · exact ⟨3, _, rfl, rfl, ⟨2, 0, ⟨[1]⟩⟩, by decide, hkey, hbit⟩

/-- However the two votes are included, both count, and none of them counts again. -/
theorem walkEpoch_shown_scattered :
    ∃ start after, Reachable twoNodes secondEpoch start ∧
      Yields (walkEpoch (oneCommittee.showing aggregated) 1 true) start () after ∧
      Yields (walkEpoch (oneCommittee.showing scattered) 1 true) start () after ∧
      after.totals.successful = 2 ∧ (check [⟨2, 0, ⟨[2]⟩⟩]).run.run after = (.ok (), after) := by
  have heval :
      (Id.run ((walkEpoch (oneCommittee.showing aggregated) 1 true).run.run
        (new twoNodes secondEpoch twoNodes.poolNodes).2)).1 = .ok () ∧
      (Id.run ((walkEpoch (oneCommittee.showing aggregated) 1 true).run.run
        (new twoNodes secondEpoch twoNodes.poolNodes).2)).2.totals.successful = 2 := by
    decide +kernel
  obtain ⟨start, hnew, hstarted⟩ := slotsFit_twoNodes.started
  rw [hnew] at heval
  have hreachable : Reachable twoNodes secondEpoch start := ⟨start, [], hnew, rfl⟩
  have hsame : ∀ key position, ShownInEpoch start.config 1 aggregated key position ↔
      ShownInEpoch start.config 1 scattered key position := by
    intro key position
    rw [hstarted.config, shownInEpoch_aggregated, shownInEpoch_scattered, has_three]
  obtain ⟨hiff, hagain, -⟩ := walkEpoch_shown hreachable oneCommittee 1 true hsame
  have hyields : Yields (walkEpoch (oneCommittee.showing aggregated) 1 true) start () _ :=
    Prod.ext heval.1 rfl
  refine ⟨start, _, hreachable, hyields, (hiff _).mp hyields, heval.2, hagain _ _ hyields ?_⟩
  intro key position hshows
  rw [hsame, hstarted.config, shownInEpoch_scattered]
  obtain ⟨hkey, hbit⟩ := shows_singleton.mp hshows
  exact ⟨hkey, Or.inl hbit⟩

end PoolRewards
