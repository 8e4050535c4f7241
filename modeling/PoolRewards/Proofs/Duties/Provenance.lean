/-
Where the duties of a tracker come from.

A client may answer with anything.  Whatever it answers, an open duty is a position of a
committee that it has told of, and a duty is met only where an attestation that it has
shown has the bit of such a position.  Taking in committees backs what it opens,
taking in attestations backs what it closes, and pruning takes away alone; so the walk
keeps every duty backed, whatever the committees and attestations have in common.
-/
import PoolRewards.Client
import PoolRewards.Proofs.Answers
import PoolRewards.Proofs.Duties.Recording

namespace PoolRewards

variable {told : Committee → Prop} {seen : Attestation → Prop}

/-- Every committee that a client answers with is `told`, and every attestation `seen`. -/
structure ConsensusClient.Tells {m : Type → Type} [Monad m] (client : ConsensusClient m)
    (told : Committee → Prop) (seen : Attestation → Prop) : Prop where
  committees : ∀ epoch, Always (fun answer => ∀ committees, answer = .ok committees →
    ∀ committee ∈ committees, told committee) (client.committees epoch)
  attestations : ∀ slot, Always (fun answer => ∀ attestations, answer = .ok (some attestations) →
    ∀ attestation ∈ attestations, seen attestation) (client.attestations slot)

/-- Nothing is claimed of what a client tells. -/
theorem ConsensusClient.tells_anything {m : Type → Type} [Monad m] [LawfulMonad m]
    (client : ConsensusClient m) : client.Tells (fun _ => True) (fun _ => True) where
  committees _ := (always_true _).mono fun _ _ _ _ _ _ => trivial
  attestations _ := (always_true _).mono fun _ _ _ _ _ _ => trivial

/-- A validator stands at a position of a committee that was told. -/
def StandsIn (told : Committee → Prop) (key : DutyKey) (position : Nat) (validator : UInt64) : Prop :=
  ∃ committee, told committee ∧ committee.key = key ∧ committee.validators[position]? = some validator

/-- An attestation that was seen shows the bit of a position. -/
def ShownBy (seen : Attestation → Prop) (key : DutyKey) (position : Nat) : Prop :=
  ∃ attestation, seen attestation ∧ attestation.key = key ∧ attestation.bits.has position = true

namespace Tracker

variable {tracker after : Tracker}

/-- Every open duty of a tracker was told, and every duty that is met was told and seen. -/
structure Backed (told : Committee → Prop) (seen : Attestation → Prop) (tracker : Tracker) : Prop where
  pending : ∀ (key : DutyKey) (position : Nat) (validator : UInt64),
    tracker.pending key position = some validator → StandsIn told key position validator
  met : ∀ validator slot, (validator, slot) ∈ tracker.met → ∃ committee position,
    StandsIn told ⟨slot, committee⟩ position validator ∧ ShownBy seen ⟨slot, committee⟩ position

/-- A tracker without duties is backed by whatever is told. -/
theorem backed_of_empty (hpending : ∀ key position, tracker.pending key position = none)
    (hmet : tracker.met = ∅) : tracker.Backed told seen where
  pending key position validator hp := by
    rw [hpending] at hp
    cases hp
  met validator slot hin := by
    rw [hmet] at hin
    exact absurd hin (Set.notMem_empty _)

/-- **Committees that were told open duties that were.** -/
theorem Records.backed {committees : List Committee} (h : tracker.Records after committees)
    (htold : ∀ committee ∈ committees, told committee) (hbacked : tracker.Backed told seen) :
    after.Backed told seen where
  pending key position validator hp := by
    rw [h.pending] at hp
    rcases hlast : tracker.lastTaken committees key with _ | committee
    · rw [hlast] at hp
      exact hbacked.pending key position validator hp
    · rw [hlast] at hp
      have htest := List.find?_some hlast
      rw [Bool.and_eq_true, decide_eq_true_eq] at htest
      have hmem := List.mem_reverse.mp (List.mem_of_find?_eq_some hlast)
      exact ⟨committee, htold committee hmem, htest.1, (Option.filter_eq_some_iff.mp hp).1⟩
  met := by
    rw [h.met]
    exact hbacked.met

/-- **Attestations that were seen close duties that were told.** -/
theorem Matches.backed {attestations : List Attestation} (h : tracker.Matches after attestations)
    (hseen : ∀ attestation ∈ attestations, seen attestation) (hbacked : tracker.Backed told seen) :
    after.Backed told seen where
  pending key position validator hp := by
    obtain ⟨hp, -⟩ := (h.pending key position validator).mp hp
    exact hbacked.pending key position validator hp
  met validator slot hin := by
    rw [h.met] at hin
    rcases hin with hin | ⟨committee, position, hp, attestation, hmem, hkey, hbit⟩
    · exact hbacked.met validator slot hin
    · exact ⟨committee, position, hbacked.pending _ _ _ hp,
        attestation, hseen attestation hmem, hkey, hbit⟩

theorem Advances.backed (h : tracker.Advances after tracker.met)
    (hpending : ∀ key position, after.pending key position = tracker.pending key position ∨
      after.pending key position = none) (hbacked : tracker.Backed told seen) :
    after.Backed told seen where
  pending key position validator hp := by
    rcases hpending key position with hkept | hgone
    · exact hbacked.pending key position validator (hkept.symm.trans hp)
    · rw [hgone] at hp
      cases hp
  met := by
    rw [h.met]
    exact hbacked.met

end Tracker

end PoolRewards
