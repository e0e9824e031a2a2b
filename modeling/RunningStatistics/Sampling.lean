import RunningStatistics.Rejection

/-!
# Sampling intervals

Every accumulator takes a sample at the steps of the simulation that are
multiples of its interval, and counts the samples it has accepted.  An
interval is positive by construction, so that dividing by it is harmless.
-/

namespace RunningStatistics

/--
The sampling interval of an accumulator and the number of samples accepted.
-/
structure Sampling where
  /-- The number of simulation steps from one sample to the next. -/
  interval : Nat
  updates : Nat
  interval_pos : 0 < interval
  deriving DecidableEq

namespace Sampling

/-- Sampling at every multiple of an interval, with no sample accepted yet. -/
def every (interval : Nat) : Except Rejection Sampling :=
  if positive : 0 < interval then
    .ok ⟨interval, 0, positive⟩
  else
    .error (.configuration .zeroInterval)

/-- The same count of samples under another interval. -/
def setInterval
    (sampling : Sampling)
    (interval : Nat) :
    Except Rejection Sampling :=
  if positive : 0 < interval then
    .ok ⟨interval, sampling.updates, positive⟩
  else
    .error (.configuration .zeroInterval)

/-- One more sample was accepted. -/
def recordUpdate (sampling : Sampling) : Sampling :=
  { sampling with updates := sampling.updates + 1 }

/-- Whether a sample is due at a step. -/
def isDue (sampling : Sampling) (step : Nat) : Bool :=
  step % sampling.interval == 0

/-- The number of steps from a step to the next one at which a sample is due. -/
def stepsUntilDue (sampling : Sampling) (step : Nat) : Nat :=
  (sampling.interval - step % sampling.interval) % sampling.interval

theorem every_ok
    {interval : Nat}
    {sampling : Sampling}
    (accepted : every interval = .ok sampling) :
    sampling.interval = interval ∧ sampling.updates = 0 := by
  rw [every] at accepted
  split at accepted
  · cases accepted
    exact ⟨rfl, rfl⟩
  · cases accepted

theorem setInterval_ok
    {sampling next : Sampling}
    {interval : Nat}
    (accepted : sampling.setInterval interval = .ok next) :
    next.interval = interval ∧ next.updates = sampling.updates := by
  rw [setInterval] at accepted
  split at accepted
  · cases accepted
    exact ⟨rfl, rfl⟩
  · cases accepted

/-- Due are the multiples of the interval. -/
theorem isDue_iff_dvd
    (sampling : Sampling)
    (step : Nat) :
    sampling.isDue step = true ↔ sampling.interval ∣ step := by
  simp [isDue, Nat.dvd_iff_mod_eq_zero]

theorem stepsUntilDue_lt
    (sampling : Sampling)
    (step : Nat) :
    sampling.stepsUntilDue step < sampling.interval :=
  Nat.mod_lt _ sampling.interval_pos

/-- After the wait a step is due. -/
theorem dvd_add_stepsUntilDue
    (sampling : Sampling)
    (step : Nat) :
    sampling.interval ∣ step + sampling.stepsUntilDue step := by
  have below := Nat.mod_lt step sampling.interval_pos
  have split := Nat.div_add_mod step sampling.interval
  rw [stepsUntilDue]
  by_cases due : step % sampling.interval = 0
  · rw [due, Nat.sub_zero, Nat.mod_self, Nat.add_zero]
    exact Nat.dvd_of_mod_eq_zero due
  · rw [Nat.mod_eq_of_lt (by omega)]
    refine ⟨step / sampling.interval + 1, ?_⟩
    rw [Nat.mul_add, Nat.mul_one]
    omega

end Sampling

end RunningStatistics
