/-
Running the service until it succeeds or it is no use to go on.

A run that fails is tried again after a pause, unless every other run would fail in the
same way.  The failures are counted as they come.  Each is counted first and compared with
the number allowed afterwards, so that the failure that uses them up is not followed by
another run.
-/
import PoolRewards.Service

namespace PoolRewards

/-- Why the service was given up. -/
inductive Surrender where
  /-- Every other run would fail in the same way. -/
  | fatal (failure : RunFailure)
  | retriesUsedUp
  deriving DecidableEq, Repr

namespace Surrender

/-- What is said about it, without causes. -/
def message : Surrender → String
  | .fatal failure => failure.message
  | .retriesUsedUp => "Maximum retries reached"

end Surrender

namespace Retry

/-- One failure more, if a counter of 32 bits can tell it. -/
def countFailure (failures : UInt32) : Except Fault UInt32 :=
  if failures.toNat + 1 < UInt32.size then .ok (failures + 1) else .error .addOverflow

/-- What follows from a run. -/
inductive Verdict where
  /-- No other run is made. -/
  | ends (result : Except Surrender Outcome)
  /-- There is another run, after so many failures. -/
  | again (failures : UInt32)

/-- What follows from the result of a run before which so many had failed. -/
def judge (retries failures : UInt32) : Except RunFailure Outcome → Verdict
  | .ok outcome => .ends (.ok outcome)
  | .error failure =>
    if failure.isFatal then .ends (.error (.fatal failure))
    else match countFailure failures with
      | .error fault => .ends (.error (.fatal (.fault fault)))
      | .ok counted => if counted ≥ retries then .ends (.error .retriesUsedUp) else .again counted

/-! ### What the counter does

Where there is another run the counter has gone up by one and is still below the number
allowed.  The loop therefore comes to an end, and the counter has room for every failure
it has to tell.
-/

theorem countFailure_eq_ok_iff {failures counted : UInt32} :
    countFailure failures = .ok counted ↔ counted.toNat = failures.toNat + 1 := by
  unfold countFailure
  by_cases h : failures.toNat + 1 < UInt32.size
  · rw [if_pos h, Except.ok.injEq, ← UInt32.toNat_inj, UInt32.toNat_add,
      UInt32.toNat_one, Nat.mod_eq_of_lt h, eq_comm]
  · have hbelow := counted.toNat_lt
    rw [if_neg h]
    refine ⟨by simp, fun heq => absurd (heq ▸ hbelow) h⟩

theorem judge_of_counted {failure : RunFailure} (h : ¬ failure.isFatal) {failures counted : UInt32}
    (hcount : countFailure failures = .ok counted) (retries : UInt32) :
    judge retries failures (.error failure) =
      if counted ≥ retries then .ends (.error .retriesUsedUp) else .again counted := by
  unfold judge
  simp only [if_neg h, hcount]

theorem judge_again {retries failures counted : UInt32} {result : Except RunFailure Outcome}
    (h : judge retries failures result = .again counted) :
    counted.toNat = failures.toNat + 1 ∧ counted < retries := by
  unfold judge at h
  split at h
  next => simp at h
  next failure =>
    by_cases hfatal : failure.isFatal
    · simp [hfatal] at h
    · rw [if_neg hfatal] at h
      split at h
      next => simp at h
      next more hmore =>
        by_cases hused : more ≥ retries
        · simp [hused] at h
        · rw [if_neg hused, Verdict.again.injEq] at h
          subst h
          exact ⟨countFailure_eq_ok_iff.mp hmore, UInt32.not_le.mp hused⟩

/-! ### The loop

A run that ends the loop decides how it ends.  Any other is followed by a pause and by the
rest of the loop, which starts from the failures counted by then.
-/

variable {m : Type → Type} [Monad m]

/-- Run again and again, with a pause between two runs. -/
def loop (run : ExceptT RunFailure m Outcome) (pause : m Unit) (retries failures : UInt32) :
    ExceptT Surrender m Outcome := .mk do
  match h : judge retries failures (← run.run) with
  | .ends result => return result
  | .again counted =>
    have := judge_again h
    pause
    (loop run pause retries counted).run
termination_by retries.toNat - failures.toNat
decreasing_by
  obtain ⟨hcounted, hbelow⟩ := this
  rw [UInt32.lt_iff_toNat_lt] at hbelow
  omega

/-- One round of the loop, and the rest of it after the failures counted by then. -/
theorem run_loop (run : ExceptT RunFailure m Outcome) (pause : m Unit) (retries failures : UInt32) :
    (loop run pause retries failures).run = (do
      match judge retries failures (← run.run) with
      | .ends result => return result
      | .again counted =>
        pause
        (loop run pause retries counted).run) := by
  rw [loop]
  refine bind_congr fun result => ?_
  split
  next hends => simp only [hends]
  next hagain => simp only [hagain]

/-- Run until a run succeeds, a failure is fatal or the failures allowed are used up. -/
def untilDone (run : ExceptT RunFailure m Outcome) (pause : m Unit) (retries : UInt32) :
    ExceptT Surrender m Outcome :=
  loop run pause retries 0

end Retry

end PoolRewards
