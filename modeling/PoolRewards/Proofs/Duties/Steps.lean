/-
What any steps keep.

A walk takes in the committees of an epoch, then the attestations of its slots, and then
drops what is past.  Nothing depends on that order.  A list of steps may take in anything at
any moment: committees of any slots and with repeated keys, a validator several times over,
attestations that overlap or come twice, duties that were dropped or met before.  As long as
every step has an answer, the sets of slots, the scores, the totals and the open duties agree.
-/
import PoolRewards.Proofs.Duties.AnyClient
import PoolRewards.Proofs.Duties.Attested

namespace PoolRewards

open Std (ExtTreeMap)

namespace Tracker

variable {tracker start after : Tracker} {config : BeaconConfig} {bounds : IntervalBounds} {place : Place}
  {node : PoolNode} {minipool : PoolMinipool}

/-- A step of the search for attestations. -/
inductive Step where
  | record (committees : List Committee)
  | check (attestations : List Attestation)
  | prune (epoch : UInt64)

/-- Take a step. -/
def Step.take : Step → Tracking Unit
  | .record committees => Tracker.record committees
  | .check attestations => Tracker.check attestations
  | .prune epoch => Tracker.prune epoch

/-- Take steps in order. -/
def takeAll : List Step → Tracking Unit
  | [] => return
  | step :: rest => do
    step.take
    takeAll rest

/-! ### Soundness

Each kind of step is known to keep soundness by itself, with no condition on what it takes
in.  So steps can be put in any order, and the induction is on the list of them.
-/

/-- **One step keeps soundness and the frame.** -/
theorem Sound.take (h : tracker.Sound) (step : Step) :
    Ends step.take tracker (fun _ after => Keeps tracker after) True := by
  cases step with
  | record committees =>
      refine (h.record committees).mono ?_ fun _ => trivial
      intro _ after hrecords
      exact ⟨hrecords.sound, hrecords.frame⟩
  | check attestations =>
      refine (Sound.check attestations h).mono ?_ fun _ => trivial
      intro _ after hmatches
      exact ⟨hmatches.sound, hmatches.frame⟩
  | prune epoch =>
      refine (h.prune epoch).mono ?_ fun _ => trivial
      intro _ after hprunes
      exact ⟨hprunes.1.sound, hprunes.1.frame⟩

/-- **So do any steps.** -/
theorem Sound.takeAll (steps : List Step) :
    ∀ {tracker : Tracker}, tracker.Sound →
      Ends (takeAll steps) tracker (fun _ after => Keeps tracker after) True := by
  induction steps with
  | nil =>
      intro tracker h
      exact ends_pure ⟨h, rfl⟩
  | cons step rest ih =>
      intro tracker h
      refine ends_bind.mpr ((h.take step).mono ?_ fun _ => trivial)
      intro _ mid hmid
      refine (ih hmid.sound).mono ?_ fun _ => trivial
      intro _ after hafter
      exact hmid.trans hafter

/-! ### What soundness says of each minipool

Soundness is stated for the proofs.  Here it is told minipool by minipool and pair by pair,
with nothing but the fields of the tracker.
-/

/-- The records of a tracker of an interval agree. -/
structure Consistent (config : BeaconConfig) (bounds : IntervalBounds) (tracker : Tracker) : Prop where
  /-- What is fulfilled is owed and complete, and is what the score is for. -/
  minipool : ∀ {place node minipool}, tracker.at? place = some (node, minipool) →
    minipool.Sound config bounds node
  /-- Whatever owes anything is the minipool of its validator. -/
  tracked : ∀ {place node minipool}, tracker.at? place = some (node, minipool) → minipool.owed ≠ ∅ →
    minipool.wasActive = true ∧ ∃ validator : UInt64, minipool.validator = some validator ∧
      tracker.validators[validator]? = some place
  /-- An open duty is owed by a minipool whose node is in the pool at that time, so that meeting it
  always counts. -/
  duty : ∀ {key : DutyKey} {positions : ExtTreeMap Nat Place} {position : Nat} {place : Place},
    tracker.duties[key]? = some positions → positions[position]? = some place →
      ∃ node minipool, tracker.at? place = some (node, minipool) ∧ key.slot ∈ minipool.owed ∧
        config.slotTime key.slot = .ok (config.startOf key.slot) ∧
        node.isOptedInAt (config.startOf key.slot) = true
  successful : tracker.totals.successful.toNat =
    ((minipoolsOf tracker.nodes).map (·.completed.size)).sum
  score : tracker.totals.score = ((minipoolsOf tracker.nodes).map (·.score)).sum

theorem Sound.exists_validator (h : tracker.Sound) (hat : tracker.at? place = some (node, minipool))
    (howed : minipool.owed ≠ ∅) :
    minipool.wasActive = true ∧ ∃ validator : UInt64, minipool.validator = some validator ∧
      tracker.validators[validator]? = some place := by
  have htracked : ∃ validator : UInt64, tracker.validators[validator]? = some place := by
    by_contra hnone
    exact howed (h.untracked hat fun validator hv => hnone ⟨validator, hv⟩)
  obtain ⟨validator, hv⟩ := htracked
  obtain ⟨node', minipool', hat', hvalidator, hactive, -⟩ := h.linked hv
  rw [hat] at hat'
  cases hat'
  exact ⟨hactive, validator, hvalidator, hv⟩

theorem Sound.consistent (h : tracker.Sound) : Consistent tracker.config tracker.bounds tracker where
  minipool := h.minipool
  tracked := h.exists_validator
  duty hkey hposition := by
    obtain ⟨validator, node, minipool, -, hat, howed⟩ := (h.duty hkey).2 _ _ hposition
    have hcan := (h.minipool hat).owed _ howed
    exact ⟨node, minipool, hat, howed, hcan.timed, hcan.optedIn⟩
  successful := h.successful
  score := h.score

/-- **Whatever steps are taken, the records of the tracker agree**, and nodes, minipools and
validators are the ones that the tracker started with. -/
theorem takeAll_consistent {snapshot : Snapshot} {steps : List Step}
    (hnew : new snapshot bounds snapshot.poolNodes = (.ok (), start))
    (hrun : (takeAll steps).run.run start = (.ok (), after)) :
    Consistent snapshot.config bounds after ∧ after.frame = start.frame := by
  have hstarted := (new_ends snapshot bounds snapshot.poolNodes).post_of_ok hnew
  have hkeeps := (Sound.takeAll steps (hstarted.sound (fresh_poolNodes snapshot))).post_of_ok hrun
  have hconfig : after.config = snapshot.config := (congrArg (·.config) hkeeps.frame).trans hstarted.config
  have hbounds : after.bounds = bounds := (congrArg (·.bounds) hkeeps.frame).trans hstarted.bounds
  have hconsistent := hkeeps.sound.consistent
  rw [hconfig, hbounds] at hconsistent
  exact ⟨hconsistent, hkeeps.frame⟩

/-- Steps out of order: keys and members are repeated, aggregates overlap, one duty is recorded again
after it was met, and one is looked for after it was dropped. -/
def disorderly : List Step := [
  .record [⟨2, 0, [7, 8, 7]⟩, ⟨2, 0, [8, 7]⟩, ⟨9, 0, [7]⟩, ⟨3, 1, [7]⟩, ⟨3, 0, [7, 8]⟩],
  .check [⟨2, 0, ⟨[1]⟩⟩, ⟨2, 0, ⟨[3]⟩⟩, ⟨3, 0, ⟨[1]⟩⟩, ⟨3, 1, ⟨[1]⟩⟩, ⟨5, 0, ⟨[1]⟩⟩],
  .record [⟨2, 0, [7]⟩],
  .check [⟨2, 0, ⟨[1]⟩⟩],
  .prune 3,
  .check [⟨3, 0, ⟨[3]⟩⟩]]

end Tracker

open Tracker

theorem takeAll_consistent_disorderly :
    ∃ start after, Tracker.new twoNodes secondEpoch twoNodes.poolNodes = (.ok (), start) ∧
      (takeAll disorderly).run.run start = (.ok (), after) ∧ after.totals.successful = 3 ∧
      Consistent twoNodes.config secondEpoch after ∧ after.frame = start.frame := by
  have heval : ((takeAll disorderly).run.run (Tracker.new twoNodes secondEpoch twoNodes.poolNodes).2).1 =
        .ok () ∧
      ((takeAll disorderly).run.run
        (Tracker.new twoNodes secondEpoch twoNodes.poolNodes).2).2.totals.successful = 3 := by
    decide +kernel
  obtain ⟨start, hnew, -⟩ := slotsFit_twoNodes.started
  rw [hnew] at heval
  obtain ⟨hok, hthree⟩ := heval
  have hrun : (takeAll disorderly).run.run start =
      (.ok (), ((takeAll disorderly).run.run start).2) := Prod.ext hok rfl
  exact ⟨start, _, hnew, hrun, hthree, takeAll_consistent hnew hrun⟩

end PoolRewards
