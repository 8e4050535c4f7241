/-
How often a service is run before it is given up.

The loop counts failures and not retries.  After a run that settles nothing it compares the
failures so far, that run's included, with the number it was given, so it stops after as many
runs as there may be failures and has made one retry less than that.  Only where no failure
is allowed is there one run all the same.  A success or a fatal failure ends the loop at once,
whenever it comes, and the last run decides how it ends.
-/
import Mathlib.Data.ENat.Lattice
import PoolRewards.Command.Retry

namespace PoolRewards

/-- How often a service has been run, and how often there was a pause. -/
structure Tally where
  runs : Nat
  pauses : Nat
  deriving DecidableEq, Repr

namespace Tally

/-- A run of a service whose results are known in their order. -/
def run (results : Nat → Except RunFailure Outcome) : ExceptT RunFailure (StateM Tally) Outcome :=
  .mk fun tally => (results tally.runs, { tally with runs := tally.runs + 1 })

/-- A pause. -/
def pause : StateM Tally Unit := fun tally => ((), { tally with pauses := tally.pauses + 1 })

end Tally

namespace Retry

variable {results : Nat → Except RunFailure Outcome}

/-- A success or a fatal failure. -/
def Settles : Except RunFailure Outcome → Prop
  | .ok _ => True
  | .error failure => failure.isFatal

/-- The number of the first run that settles things, counted from one.  There may be none. -/
noncomputable def settledAt (results : Nat → Except RunFailure Outcome) : ℕ∞ :=
  ⨅ (n : Nat) (_ : Settles (results n)), (n + 1 : ℕ)

/-! ### One run

A run is judged by its result and by how many failures there were before it.  A result that
settles things ends the loop whatever the counter says.  Any other is counted, and decides
by the count whether there is another run.  The counter has room for it if it is at zero or
below the number allowed, and that is the invariant of the loop.
-/

theorem judge_of_settles {result : Except RunFailure Outcome} (h : Settles result)
    (retries failures : UInt32) : judge retries failures result = .ends (result.mapError .fatal) := by
  rcases result with failure | outcome
  · exact if_pos h
  · rfl

/-- A counter that is at zero or below the number allowed can tell one failure more. -/
theorem countFailure_eq_ok {retries failures : UInt32} (hroom : failures = 0 ∨ failures < retries) :
    countFailure failures = .ok (failures + 1) ∧ (failures + 1).toNat = failures.toNat + 1 := by
  have hroom' : failures.toNat + 1 < UInt32.size := by
    obtain rfl | hbelow := hroom
    · decide
    · have := UInt32.lt_iff_toNat_lt.mp hbelow
      exact Nat.lt_of_le_of_lt this retries.toNat_lt
  have hcount : countFailure failures = .ok (failures + 1) := if_pos hroom'
  exact ⟨hcount, countFailure_eq_ok_iff.mp hcount⟩

theorem judge_of_not_settles {result : Except RunFailure Outcome} (h : ¬ Settles result)
    {retries failures : UInt32} (hroom : failures = 0 ∨ failures < retries) :
    judge retries failures result =
      if failures + 1 ≥ retries then .ends (.error .retriesUsedUp) else .again (failures + 1) := by
  rcases result with failure | outcome
  · exact judge_of_counted h (countFailure_eq_ok hroom).1 retries
  · exact absurd trivial h

/-- One round of the loop, where the results are known. -/
theorem run_loop_tally (results : Nat → Except RunFailure Outcome) (retries failures : UInt32)
    (runs pauses : Nat) :
    (loop (Tally.run results) Tally.pause retries failures).run.run ⟨runs, pauses⟩ =
      match judge retries failures (results runs) with
      | .ends result => (result, ⟨runs + 1, pauses⟩)
      | .again counted =>
        (loop (Tally.run results) Tally.pause retries counted).run.run ⟨runs + 1, pauses + 1⟩ := by
  rw [run_loop]
  have hrun : ∀ {α : Type} (next : Except RunFailure Outcome → StateM Tally α),
      ((Tally.run results).run >>= next).run ⟨runs, pauses⟩ =
        (next (results runs)).run ⟨runs + 1, pauses⟩ := fun _ => rfl
  rw [hrun]
  cases judge retries failures (results runs) with
  | ends result => rfl
  | again counted => rfl

/-! ### All runs

As long as nothing is settled the counter, the runs and the pauses all stand at the same
number.  The induction is on what the counter has left to the number allowed.  It goes one
round at a time, from wherever the counter stands, so that the first failure to reach the
number allowed is the last run.
-/

/-- Run after run, the service is run until one of them settles things or the failures allowed
are used up. -/
theorem exists_last_run (results : Nat → Except RunFailure Outcome) (retries failures : UInt32)
    (hroom : failures = 0 ∨ failures < retries) :
    ∃ last, failures.toNat ≤ last ∧ last < max 1 retries.toNat ∧
      (∀ n, failures.toNat ≤ n → n < last → ¬ Settles (results n)) ∧
      (Settles (results last) ∧
          (loop (Tally.run results) Tally.pause retries failures).run.run
              ⟨failures.toNat, failures.toNat⟩ =
            ((results last).mapError .fatal, ⟨last + 1, last⟩) ∨
        ¬ Settles (results last) ∧ last + 1 = max 1 retries.toNat ∧
          (loop (Tally.run results) Tally.pause retries failures).run.run
              ⟨failures.toNat, failures.toNat⟩ =
            (.error .retriesUsedUp, ⟨last + 1, last⟩)) := by
  induction hleft : retries.toNat - failures.toNat using Nat.strong_induction_on
    generalizing failures with
  | _ left ih =>
    have hfirst : failures.toNat < max 1 retries.toNat := by
      obtain rfl | hbelow := hroom
      · exact Nat.lt_of_lt_of_le Nat.one_pos (Nat.le_max_left 1 _)
      · exact Nat.lt_of_lt_of_le (UInt32.lt_iff_toNat_lt.mp hbelow) (Nat.le_max_right 1 _)
    have hnone : ∀ n, failures.toNat ≤ n → n < failures.toNat → ¬ Settles (results n) :=
      fun n hle hlt => absurd hlt (Nat.not_lt.mpr hle)
    have hcount := (countFailure_eq_ok hroom).2
    rw [run_loop_tally]
    by_cases h : Settles (results failures.toNat)
    · rw [judge_of_settles h]
      exact ⟨failures.toNat, Nat.le_refl _, hfirst, hnone, Or.inl ⟨h, rfl⟩⟩
    · rw [judge_of_not_settles h hroom]
      by_cases hused : failures + 1 ≥ retries
      · have hlast : failures.toNat + 1 = max 1 retries.toNat := by
          rw [ge_iff_le, UInt32.le_iff_toNat_le] at hused
          omega
        rw [if_pos hused]
        exact ⟨failures.toNat, Nat.le_refl _, hfirst, hnone, Or.inr ⟨h, hlast, rfl⟩⟩
      · have hbelow : failures + 1 < retries := UInt32.not_le.mp hused
        have hfewer : retries.toNat - (failures + 1).toNat < left := by
          rw [UInt32.lt_iff_toNat_lt] at hbelow
          omega
        obtain ⟨last, hlater, hlast, hbefore, hends⟩ := ih _ hfewer (failures + 1) (Or.inr hbelow) rfl
        rw [hcount] at hlater hbefore hends
        rw [if_neg hused]
        refine ⟨last, by omega, hlast, ?_, hends⟩
        intro n hle hlt
        rcases Nat.eq_or_lt_of_le hle with rfl | hbehind
        · exact h
        · exact hbefore n hbehind hlt

/-- Things are not settled by runs of which none does. -/
theorem le_settledAt {runs : Nat} (h : ∀ n < runs, ¬ Settles (results n)) :
    ((runs + 1 : ℕ) : ℕ∞) ≤ settledAt results := by
  refine le_iInf₂ fun n hsettles => ?_
  have hle : runs ≤ n := Nat.le_of_not_lt fun hlt => h n hlt hsettles
  exact_mod_cast Nat.succ_le_succ hle

theorem settledAt_le {last : Nat} (h : Settles (results last)) : settledAt results ≤ (last + 1 : ℕ) :=
  iInf₂_le last h

/-- **A service is run until things are settled, but no more often than there may be failures**, and
once if there may be none.  Between two runs there is a pause.  The loop ends with the result that
settles things if there is one among those runs. -/
theorem untilDone_runs (results : Nat → Except RunFailure Outcome) (retries : UInt32) :
    ∃ (runs : Nat) (ending : Except Surrender Outcome),
      (untilDone (Tally.run results) Tally.pause retries).run.run ⟨0, 0⟩ = (ending, ⟨runs, runs - 1⟩) ∧
      (runs : ℕ∞) = min (settledAt results) (max 1 retries.toNat : ℕ) ∧
      (settledAt results ≤ (max 1 retries.toNat : ℕ) →
        Settles (results (runs - 1)) ∧ ending = (results (runs - 1)).mapError .fatal) ∧
      ((max 1 retries.toNat : ℕ) < settledAt results → ending = .error .retriesUsedUp) := by
  obtain ⟨last, -, hlast, hbefore, hends⟩ := exists_last_run results retries 0 (Or.inl rfl)
  have hlow := le_settledAt fun n hlt => hbefore n (Nat.zero_le n) hlt
  rcases hends with ⟨hsettles, hrun⟩ | ⟨hunsettled, hused, hrun⟩
  · have hposition : settledAt results = (last + 1 : ℕ) := le_antisymm (settledAt_le hsettles) hlow
    have hwithin : ((last + 1 : ℕ) : ℕ∞) ≤ (max 1 retries.toNat : ℕ) := by
      exact_mod_cast Nat.succ_le_of_lt hlast
    refine ⟨last + 1, _, hrun, ?_, ?_, ?_⟩
    · rw [hposition, min_eq_left hwithin]
    · exact fun _ => ⟨hsettles, rfl⟩
    · intro hbeyond
      rw [hposition] at hbeyond
      exact absurd hbeyond (not_lt.mpr hwithin)
  · rw [← hused]
    refine ⟨last + 1, _, hrun, (min_eq_right hlow).symm, ?_, fun _ => rfl⟩
    intro hwithin
    have hbeyond : ((last + 1 + 1 : ℕ) : ℕ∞) ≤ settledAt results := by
      refine le_settledAt fun n hlt => ?_
      rcases Nat.eq_or_lt_of_le (Nat.le_of_lt_succ hlt) with rfl | hbefore'
      · exact hunsettled
      · exact hbefore n (Nat.zero_le n) hbefore'
    have hless : last + 1 + 1 ≤ last + 1 := by exact_mod_cast hbeyond.trans hwithin
    omega

/-- A failure that does not recur, and then one success after the other. -/
def secondTry (n : Nat) : Except RunFailure Outcome :=
  if n = 0 then .error (.collaborator (.of "busy")) else .ok (.approximated 7 0)

/-- A service that would succeed if it were tried again is not, where one failure is allowed. -/
theorem untilDone_secondTry :
    min (settledAt secondTry) ((1 : UInt32).toNat + 1 : ℕ) = 2 ∧
      (untilDone (Tally.run secondTry) Tally.pause 1).run.run ⟨0, 0⟩ = (.error .retriesUsedUp, ⟨1, 0⟩) := by
  have hposition : settledAt secondTry = (2 : ℕ) := by
    have hsettles : Settles (secondTry 1) := trivial
    have hbefore : ∀ n < 1, ¬ Settles (secondTry n) := by
      intro n hlt
      obtain rfl := Nat.lt_one_iff.mp hlt
      exact Bool.false_ne_true
    exact le_antisymm (settledAt_le hsettles) (le_settledAt hbefore)
  refine ⟨?_, ?_⟩
  · rw [hposition]
    rfl
  · unfold untilDone
    rw [run_loop_tally]
    rfl

end Retry

end PoolRewards
