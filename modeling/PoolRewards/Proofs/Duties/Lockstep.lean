/-
Two walks over one chain that is told in different orders.

A client may list the committees of an epoch and the attestations of a block in any order,
and a snapshot its nodes and minipools, so places differ from tracker to tracker.  What is
owed, met and still open is told by validator, and that does not depend on any order: two
trackers that agree on it still do after every step, and where one walk has an answer so
has the other.
-/
import PoolRewards.Proofs.Duties.Recording
import PoolRewards.Proofs.Duties.Walking

namespace PoolRewards

/-! ### Clients that differ in order

Lists are told in other orders, and nothing else differs.  Where a committee's key is told
twice the last one counts, so orders would show; hence the keys of an epoch are distinct.
-/

/-- Both lookups fail, or what they find is related. -/
inductive AnsweredAlike {α : Type} (related : α → α → Prop) :
    Except ClientError α → Except ClientError α → Prop where
  | found {a a' : α} (h : related a a') : AnsweredAlike related (.ok a) (.ok a')
  | failed (error error' : ClientError) : AnsweredAlike related (.error error) (.error error')

theorem AnsweredAlike.exists_ok {α : Type} {related : α → α → Prop} {answer answer' : Except ClientError α}
    {a : α} (h : AnsweredAlike related answer answer') (hok : answer = .ok a) :
    ∃ a', answer' = .ok a' ∧ related a a' := by
  cases h with
  | found hrelated =>
      cases hok
      exact ⟨_, rfl, hrelated⟩
  | failed => cases hok

/-- The second client says what the first one does, with lists in other orders. -/
structure ConsensusClient.Reordered (client client' : ConsensusClient Id) : Prop where
  config : client'.config = client.config
  block : client'.block = client.block
  committees : ∀ epoch, AnsweredAlike List.Perm (Id.run (client.committees epoch))
    (Id.run (client'.committees epoch))
  attestations : ∀ slot, AnsweredAlike (Option.Rel List.Perm) (Id.run (client.attestations slot))
    (Id.run (client'.attestations slot))

/-- No two committees of an epoch have one slot and one index. -/
def ConsensusClient.DistinctCommittees (client : ConsensusClient Id) : Prop :=
  ∀ epoch committees, Id.run (client.committees epoch) = .ok committees → (committees.map (·.key)).Nodup

namespace Tracker

variable {client client' : ConsensusClient Id} {tracker tracker' after : Tracker}
  {committees committees' : List Committee} {epoch : UInt64} {withCommittees : Bool}

/-- A block includes the same attestations, told by either client. -/
theorem exists_includedAt (h : client.Reordered client') {n : Nat} {block : List Attestation}
    (hblock : IncludedAt client n block) :
    ∃ block', IncludedAt client' n block' ∧ block.Perm block' := by
  obtain ⟨slot, hslot, hincluded⟩ := hblock
  unfold included at hincluded
  rcases hanswer : Id.run (client.attestations slot) with error | answer
  · rw [hanswer] at hincluded
    cases hincluded
  · rw [hanswer] at hincluded
    cases hincluded
    obtain ⟨answer', hanswer', hrelated⟩ := (h.attestations slot).exists_ok hanswer
    refine ⟨answer'.getD [], ⟨slot, hslot, ?_⟩, ?_⟩
    · rw [included, hanswer']
      rfl
    · cases hrelated with
      | some hperm => exact hperm
      | none => exact List.Perm.nil

theorem exists_blocks_perm (h : client.Reordered client') {slots : List Nat}
    {blocks : List (List Attestation)} (hblocks : List.Forall₂ (IncludedAt client) slots blocks) :
    ∃ blocks', List.Forall₂ (IncludedAt client') slots blocks' ∧ blocks.flatten.Perm blocks'.flatten := by
  induction hblocks with
  | nil => exact ⟨[], List.Forall₂.nil, List.Perm.nil⟩
  | cons hblock _ ih =>
      obtain ⟨block', hblock', hperm⟩ := exists_includedAt h hblock
      obtain ⟨rest', hrest', hperms⟩ := ih
      exact ⟨block' :: rest', List.Forall₂.cons hblock' hrest', hperm.append hperms⟩

theorem exists_isAnswer (h : client.Reordered client')
    (hanswer : IsAnswer client epoch withCommittees committees) :
    ∃ committees', IsAnswer client' epoch withCommittees committees' ∧ committees.Perm committees' := by
  unfold IsAnswer at hanswer ⊢
  split at hanswer
  · next hwith =>
    obtain ⟨committees', hok, hperm⟩ := (h.committees epoch).exists_ok hanswer
    exact ⟨committees', by rw [if_pos hwith]; exact hok, hperm⟩
  · next hwithout =>
    subst hanswer
    exact ⟨[], by rw [if_neg hwithout], List.Perm.nil⟩

theorem nodup_of_isAnswer (h : client.DistinctCommittees)
    (hanswer : IsAnswer client epoch withCommittees committees) : (committees.map (·.key)).Nodup := by
  unfold IsAnswer at hanswer
  split at hanswer
  · exact h epoch committees hanswer
  · rw [hanswer]
    exact List.nodup_nil

theorem shows_perm {attestations attestations' : List Attestation} (h : attestations.Perm attestations')
    (key : DutyKey) (position : Nat) :
    Shows attestations' key position ↔ Shows attestations key position := by
  simp only [Shows, h.mem_iff]

/-! ### Trackers that agree

Each tracker has its own frame, as its nodes may stand elsewhere.  They are compared by what
they say of a validator, and every step is known by what it does to that.
-/

/-- Two sound trackers agree on everything that is told by validator. -/
structure Agree (tracker tracker' : Tracker) : Prop where
  sound : tracker.Sound
  sound' : tracker'.Sound
  config : tracker'.config = tracker.config
  bounds : tracker'.bounds = tracker.bounds
  isOwing : tracker'.isOwing = tracker.isOwing
  owed : tracker'.owed = tracker.owed
  met : tracker'.met = tracker.met
  pending : tracker'.pending = tracker.pending

/-- Two walks that have come to agreeing trackers, each in its own frame. -/
structure InStep (tracker tracker' after after' : Tracker) : Prop where
  agree : Agree after after'
  frame : after.frame = tracker.frame
  frame' : after'.frame = tracker'.frame

theorem InStep.trans {mid mid' last last' : Tracker} (h : InStep tracker tracker' mid mid')
    (h' : InStep mid mid' last last') : InStep tracker tracker' last last' :=
  ⟨h'.agree, h'.frame.trans h.frame, h'.frame'.trans h.frame'⟩

theorem Agree.symm (h : Agree tracker tracker') : Agree tracker' tracker :=
  ⟨h.sound', h.sound, h.config.symm, h.bounds.symm, h.isOwing.symm, h.owed.symm, h.met.symm,
    h.pending.symm⟩

theorem InStep.symm {after' : Tracker} (h : InStep tracker tracker' after after') :
    InStep tracker' tracker after' after :=
  ⟨h.agree.symm, h.frame', h.frame⟩

theorem Agree.inStep (h : Agree tracker tracker') : InStep tracker tracker' tracker tracker' :=
  ⟨h, rfl, rfl⟩

theorem Agree.takes (h : Agree tracker tracker') : tracker'.takes = tracker.takes := by
  funext committee
  rw [Tracker.takes, Tracker.takes, h.bounds, h.config, h.isOwing]

theorem Agree.owingAt (h : Agree tracker tracker') : tracker'.owingAt = tracker.owingAt := by
  funext committee position
  rw [Tracker.owingAt, Tracker.owingAt, h.config, h.isOwing]

theorem Agree.duesOf (h : Agree tracker tracker') (hperm : committees.Perm committees') :
    tracker'.duesOf committees' = tracker.duesOf committees := by
  ext x
  simp only [Tracker.duesOf, Set.mem_ofPred_eq, h.bounds, h.config, h.isOwing, hperm.mem_iff]

theorem Agree.lastTaken (h : Agree tracker tracker') (hperm : committees.Perm committees')
    (hdistinct : (committees.map (·.key)).Nodup) (key : DutyKey) :
    tracker'.lastTaken committees' key = tracker.lastTaken committees key := by
  have hdistinct' : (committees'.map (·.key)).Nodup := (hperm.map _).nodup_iff.mp hdistinct
  ext committee
  rw [lastTaken_eq_some hdistinct, lastTaken_eq_some hdistinct', h.takes, hperm.mem_iff]

theorem Agree.of_frames {after' : Tracker} (h : Agree tracker tracker') (hsound : after.Sound)
    (hsound' : after'.Sound) (hframe : after.frame = tracker.frame) (hframe' : after'.frame = tracker'.frame)
    (howed : after'.owed = after.owed) (hmet : after'.met = after.met)
    (hpending : after'.pending = after.pending) : InStep tracker tracker' after after' := by
  refine ⟨⟨hsound, hsound', ?_, ?_, ?_, howed, hmet, hpending⟩, hframe, hframe'⟩
  · rw [show after'.config = tracker'.config from congrArg (·.config) hframe', h.config]
    exact (congrArg (·.config) hframe).symm
  · rw [show after'.bounds = tracker'.bounds from congrArg (·.bounds) hframe', h.bounds]
    exact (congrArg (·.bounds) hframe).symm
  · rw [isOwing_of_frame hframe', isOwing_of_frame hframe, h.isOwing]

/-- Committees can be taken in in any order. -/
theorem Agree.record (h : Agree tracker tracker') (hperm : committees.Perm committees')
    (hdistinct : (committees.map (·.key)).Nodup)
    (hrun : Id.run ((record committees).run.run tracker) = (.ok (), after)) :
    ∃ after', Id.run ((record committees').run.run tracker') = (.ok (), after') ∧
      InStep tracker tracker' after after' := by
  have hrecords := (h.sound.record committees).post_of_ok hrun
  obtain ⟨⟨⟩, after', hrun', hrecords'⟩ := (h.sound'.record committees').exists_ok (by
    intro h'
    obtain ⟨committee, hmem, hin, fault, hfault⟩ := h'
    rw [h.config, hrecords.timed committee (hperm.mem_iff.mpr hmem) (h.bounds ▸ hin)] at hfault
    cases hfault)
  refine ⟨after', hrun', h.of_frames hrecords.sound hrecords'.sound hrecords.frame hrecords'.frame ?_ ?_ ?_⟩
  · rw [hrecords'.owed, hrecords.owed, h.owed, h.duesOf hperm]
  · rw [hrecords'.met, hrecords.met, h.met]
  · funext key position
    rw [hrecords'.pending, hrecords.pending, h.lastTaken hperm hdistinct, h.owingAt, h.pending]

/-- So can attestations: the count has room on one side if it has on the other. -/
theorem Agree.checkAll (h : Agree tracker tracker') {blocks blocks' : List (List Attestation)}
    (hperm : blocks.flatten.Perm blocks'.flatten)
    (hrun : Id.run ((checkAll blocks).run.run tracker) = (.ok (), after)) :
    ∃ after', Id.run ((checkAll blocks').run.run tracker') = (.ok (), after') ∧
      InStep tracker tracker' after after' := by
  have hmatches := (h.sound.checkAll blocks).post_of_ok hrun
  have hmet : tracker'.metAfter blocks'.flatten = tracker.metAfter blocks.flatten := by
    ext x
    simp only [metAfter, h.met, h.pending, shows_perm hperm]
  obtain ⟨⟨⟩, after', hrun', hmatches'⟩ := (h.sound'.checkAll blocks').exists_ok (by
    intro hfull
    rw [hmet, ← hmatches.met, ← hmatches.sound.counted] at hfull
    exact absurd after.totals.successful.toNat_lt_size (Nat.not_lt.mpr hfull))
  refine ⟨after', hrun', h.of_frames hmatches.sound hmatches'.sound hmatches.frame hmatches'.frame ?_ ?_ ?_⟩
  · rw [hmatches'.owed, hmatches.owed, h.owed]
  · rw [hmatches'.met, hmatches.met, hmet]
  · funext key position
    ext validator
    rw [hmatches'.pending, hmatches.pending, h.pending, shows_perm hperm]

theorem Agree.prune (h : Agree tracker tracker')
    (hrun : Id.run ((prune epoch).run.run tracker) = (.ok (), after)) :
    ∃ after', Id.run ((prune epoch).run.run tracker') = (.ok (), after') ∧
      InStep tracker tracker' after after' := by
  obtain ⟨hadvances, oldest, holdest, hpending⟩ := (h.sound.prune epoch).post_of_ok hrun
  obtain ⟨⟨⟩, after', hrun', hadvances', oldest', holdest', hpending'⟩ :=
    (h.sound'.prune epoch).exists_ok (by
      intro h'
      obtain ⟨fault, hfault⟩ := h'
      rw [h.config, holdest] at hfault
      cases hfault)
  rw [h.config, holdest] at holdest'
  cases holdest'
  refine ⟨after', hrun', h.of_frames hadvances.sound hadvances'.sound hadvances.frame hadvances'.frame
    ?_ ?_ ?_⟩
  · rw [hadvances'.owed, hadvances.owed, h.owed]
  · rw [hadvances'.met, hadvances.met, h.met]
  · funext key position
    rw [hpending', hpending, h.pending]

/-! ### The walk

Both walks take the same number of epochs.  Their trackers are sound, so a step can only
fail for a time that has no word or for a count, and these are the same on both sides.
-/

variable (hclient : client.Reordered client') (hcommittees : client.DistinctCommittees)
include hclient hcommittees

/-- **Two walks over an epoch stay in step.** -/
theorem Agree.walkEpoch (h : Agree tracker tracker')
    (hrun : Yields (walkEpoch client epoch withCommittees) tracker () after) :
    ∃ after', Yields (walkEpoch client' epoch withCommittees) tracker' () after' ∧
      InStep tracker tracker' after after' := by
  obtain ⟨first, committees, blocks, recorded, checked, hepoch⟩ := yields_walkEpoch.mp hrun
  obtain ⟨committees', hanswer', hperm⟩ := exists_isAnswer hclient hepoch.answer
  obtain ⟨blocks', hincluded', hblocks⟩ := exists_blocks_perm hclient hepoch.included
  have hdistinct := nodup_of_isAnswer hcommittees hepoch.answer
  obtain ⟨recorded', hrecord', hrecorded⟩ := h.record hperm hdistinct hepoch.recording
  obtain ⟨checked', hcheck', hchecked⟩ := hrecorded.agree.checkAll hblocks hepoch.checking
  obtain ⟨after', hprune', hafter⟩ := hchecked.agree.prune hepoch.pruning
  refine ⟨after', yields_walkEpoch.mpr ⟨first, committees', blocks', recorded', checked', ?_⟩,
    (hrecorded.trans hchecked).trans hafter⟩
  refine ⟨?_, hanswer', ?_, hrecord', hcheck', hprune'⟩
  · rw [h.config]
    exact hepoch.start
  · rw [h.config]
    exact hincluded'

theorem Agree.walkEpochs (count : Nat) :
    ∀ {tracker tracker' : Tracker} {epoch : UInt64}, Agree tracker tracker' →
      Yields (walkEpochs client count epoch) tracker () after →
      ∃ after', Yields (walkEpochs client' count epoch) tracker' () after' ∧
        InStep tracker tracker' after after' := by
  induction count with
  | zero =>
      intro tracker tracker' epoch h hrun
      rw [yields_walkEpochs_zero] at hrun
      subst hrun
      exact ⟨tracker', yields_walkEpochs_zero.mpr rfl, h.inStep⟩
  | succ count ih =>
      intro tracker tracker' epoch h hrun
      obtain ⟨mid, hepoch, hrest⟩ := yields_walkEpochs_succ.mp hrun
      obtain ⟨mid', hepoch', hmid⟩ := h.walkEpoch hclient hcommittees hepoch
      obtain ⟨after', hrest', hafter⟩ := ih hmid.agree hrest
      exact ⟨after', yields_walkEpochs_succ.mpr ⟨mid', hepoch', hrest'⟩, hmid.trans hafter⟩

/-- **Two walks over an interval stay in step**: where the one has an answer so has the other. -/
theorem Agree.walk {totals : AttestationTotals} (h : Agree tracker tracker')
    (hrun : Yields (walk client) tracker totals after) :
    ∃ after', Yields (walk client') tracker' after'.totals after' ∧
      InStep tracker tracker' after after' ∧ totals = after.totals := by
  obtain ⟨first, last, next, mid, hfirst, hlast, hnext, hepochs, htrailing, htotals⟩ := yields_walk.mp hrun
  obtain ⟨mid', hepochs', hmid⟩ := h.walkEpochs hclient hcommittees _ hepochs
  obtain ⟨after', htrailing', hafter⟩ := hmid.agree.walkEpoch hclient hcommittees htrailing
  refine ⟨after', yields_walk.mpr ⟨first, last, next, mid', ?_, ?_, hnext, hepochs', htrailing', rfl⟩,
    hmid.trans hafter, htotals⟩
  · rw [h.config, h.bounds]
    exact hfirst
  · rw [h.config, h.bounds]
    exact hlast

end Tracker

end PoolRewards
