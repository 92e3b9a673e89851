import Gateway.Outcome

/-!
# Health of one backend

A backend is healthy until enough failures come in a row, and unhealthy until
enough successes come in a row. A success ends the run of failures and the other
way round, so at most one run is not empty (`runs_succeed`, `runs_fail`).
-/

namespace Gateway

/-- How many signals of one sort in a row change a backend's health. -/
structure Thresholds where
  /-- Failures in a row that make a backend unhealthy. -/
  unhealthy : Nat := 3
  /-- Successes in a row that make it healthy again. -/
  healthy : Nat := 2
  deriving DecidableEq, Repr, Inhabited

/-- A change of health. -/
inductive Transition where
  | becameHealthy
  | becameUnhealthy
  deriving DecidableEq, Repr, Inhabited

/-- What a backend's signals amount to. -/
structure Health where
  /-- Whether the backend gets requests. -/
  healthy : Bool := true
  /-- Failures in a row up to now. -/
  failureRun : Nat := 0
  /-- Successes in a row up to now. -/
  successRun : Nat := 0
  /-- All successes. The gateway counts in 64 bits, so this is its number as
  long as it is below `2 ^ 64`. -/
  successes : Nat := 0
  /-- All failures, with the same bound. -/
  failures : Nat := 0
  /-- The last failure. -/
  lastFailure : Option FailureKind := none
  /-- Whether the last probe succeeded, if there was one. -/
  lastProbe : Option Bool := none
  deriving DecidableEq, Repr, Inhabited

namespace Health

/-- Runs are counted up to here. -/
def longestRun : Nat := UInt32.size - 1

/-- One more signal of the same sort. -/
def extend (run : Nat) : Nat :=
  min (run + 1) longestRun

/-- Counts a success. -/
def countSuccess (h : Health) : Health :=
  { h with failureRun := 0, successRun := extend h.successRun,
           successes := h.successes + 1 }

/-- Counts a failure. -/
def countFailure (kind : FailureKind) (h : Health) : Health :=
  { h with
    successRun := 0, failureRun := extend h.failureRun, failures := h.failures + 1
    lastFailure := some kind }

/-- Takes a success. -/
def succeed (t : Thresholds) (h : Health) : Option Transition × Health :=
  if !h.healthy && decide (t.healthy ≤ h.countSuccess.successRun) then
    (some .becameHealthy, { h.countSuccess with healthy := true })
  else (none, h.countSuccess)

/-- Takes a failure. -/
def fail (t : Thresholds) (kind : FailureKind) (h : Health) :
    Option Transition × Health :=
  if h.healthy && decide (t.unhealthy ≤ (h.countFailure kind).failureRun) then
    (some .becameUnhealthy, { h.countFailure kind with healthy := false })
  else (none, h.countFailure kind)

/-- Takes the result of a probe, which is a signal like any other and is
remembered as the last one. -/
def probe (t : Thresholds) (result : Option FailureKind) (h : Health) :
    Option Transition × Health :=
  let stamped : Health := { h with lastProbe := some result.isNone }
  match result with
  | none => stamped.succeed t
  | some kind => stamped.fail t kind

/-- **A success leaves no run of failures.** -/
theorem runs_succeed (t : Thresholds) (h : Health) :
    (h.succeed t).2.failureRun = 0 ∧
      (h.succeed t).2.successRun = extend h.successRun := by
  unfold succeed
  split <;> simp [countSuccess]

/-- **A failure leaves no run of successes.** -/
theorem runs_fail (t : Thresholds) (kind : FailureKind) (h : Health) :
    (h.fail t kind).2.successRun = 0 ∧
      (h.fail t kind).2.failureRun = extend h.failureRun := by
  unfold fail
  split <;> simp [countFailure]

/-- **A success changes health exactly when it says so.** -/
theorem healthy_succeed (t : Thresholds) (h : Health) :
    (h.succeed t).2.healthy = (h.healthy || (h.succeed t).1.isSome) := by
  unfold succeed
  split <;> simp [countSuccess]

/-- **A failure changes health exactly when it says so.** -/
theorem healthy_fail (t : Thresholds) (kind : FailureKind) (h : Health) :
    (h.fail t kind).2.healthy = (h.healthy && !(h.fail t kind).1.isSome) := by
  unfold fail
  split <;> simp [countFailure]

end Health

end Gateway
