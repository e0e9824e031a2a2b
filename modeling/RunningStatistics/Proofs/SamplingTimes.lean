import RunningStatistics.Proofs.Deliveries
import RunningStatistics.Scalar.Rational
import Mathlib.Algebra.Field.Rat
import Mathlib.Algebra.CharZero.Defs

/-!
# Sampling times

The lag times of a correlator are multiples of its sampling time, which is set
when the correlator is created: the time step, as often as the interval of that
moment says.  No request changes it afterwards, nor the time step, and a
correlator refuses to change its interval.

What decides when samples are due can still be changed behind the back of the
correlator.  Its sampling time is then not the time between two samples any
more, and stays so until the first interval is back.
-/

namespace RunningStatistics

/--
The interval of a correlator after a request: only one made behind its back
changes it.
-/
def Request.settleInterval {R : Type} (interval : Nat) : Request R → Nat
  | reschedule 0 => interval
  | reschedule replacement => replacement
  | _ => interval

section Requests

variable {R : Type} [Scalar R] [Exponential R]

namespace Accumulator

/--
A request leaves the setup of a correlator alone, and the interval unless it is
rescheduled.
-/
theorem after_correlator
    {accumulator : Accumulator R}
    {correlator : Correlator R}
    (kind : accumulator.statistic = .correlator correlator)
    (request : Request R) :
    (accumulator.after request).sampling.interval =
      request.settleInterval accumulator.sampling.interval ∧
    ∃ next,
      (accumulator.after request).statistic = .correlator next ∧
      correlator.SameSetup next := by
  cases performed : accumulator.perform request with
  | error refusal =>
      rw [after_of_error performed]
      refine ⟨?_, correlator, kind, .refl correlator⟩
      cases request with
      | reschedule replacement =>
          cases replacement with
          | zero => rfl
          | succ positive => cases performed
      | _ => rfl
  | ok next =>
      rw [after_of_ok performed]
      rcases perform_correlator kind performed with ⟨after, reached, step⟩
      refine ⟨?_, after, reached, step.sameSetup⟩
      cases step_of_perform performed with
      | @reschedule replacement sampling accepted =>
          have same := (Sampling.setInterval_ok accepted).1
          have positive := sampling.interval_pos
          cases replacement with
          | zero => exact absurd same (Nat.ne_of_gt positive)
          | succ replacement => exact same
      | setInterval adjustable accepted =>
          exact absurd kind (adjustable correlator)
      | add accepted => rfl
      | addPair kind accepted => rfl
      | update accepted => rfl
      | finalize kind => rfl
      | clear kind => rfl
      | setArguments kind accepted => rfl

theorem afterAll_correlator
    {accumulator : Accumulator R}
    {correlator : Correlator R}
    (kind : accumulator.statistic = .correlator correlator)
    (requests : List (Request R)) :
    (accumulator.afterAll requests).sampling.interval =
      requests.foldl Request.settleInterval accumulator.sampling.interval ∧
    ∃ final,
      (accumulator.afterAll requests).statistic = .correlator final ∧
      correlator.SameSetup final := by
  induction requests generalizing accumulator correlator with
  | nil => exact ⟨rfl, correlator, kind, .refl correlator⟩
  | cons request rest hypothesis =>
      rcases after_correlator kind request with ⟨interval, next, kept, same⟩
      rcases hypothesis kept with ⟨intervals, final, reached, later⟩
      rw [interval] at intervals
      exact ⟨intervals, final, reached, same.trans later⟩

/-- Whatever is asked of a correlator, it keeps the setup of its creation. -/
theorem exists_afterAll
    {sourceA : Source}
    {sourceB : Option Source}
    {config : Config R}
    {interval : Nat}
    {start : Accumulator R}
    (created :
      Accumulator.correlator sourceA sourceB config interval = .ok start)
    (requests : List (Request R)) :
    ∃ initial correlator : Correlator R,
      (start.afterAll requests).statistic = .correlator correlator ∧
      initial.Created sourceA sourceB config interval ∧
      initial.SameSetup correlator ∧
      (start.afterAll requests).sampling.interval =
        requests.foldl Request.settleInterval interval := by
  rcases correlator_ok created with ⟨initial, kind, made⟩
  rcases correlator_parts created with ⟨_, _, _, _, _, spaced, _, _⟩
  rcases afterAll_correlator kind requests with
    ⟨intervals, correlator, reached, same⟩
  rw [(Sampling.every_ok spaced).1] at intervals
  exact ⟨initial, correlator, reached, made, same, intervals⟩

end Accumulator

namespace Correlator

variable
    {initial correlator : Correlator R}
    {sourceA : Source}
    {sourceB : Option Source}
    {config : Config R}
    {interval : Nat}

theorem Created.timeStep_eq
    (made : initial.Created sourceA sourceB config interval)
    (same : initial.SameSetup correlator) :
    correlator.config.timeStep = config.timeStep := by
  rw [same.config, made.resolved, Config.resolve]
  split <;> rfl

theorem Created.samplingTime_eq
    (made : initial.Created sourceA sourceB config interval)
    (same : initial.SameSetup correlator) :
    correlator.samplingTime = config.timeStep * Scalar.ofNat interval := by
  rw [same.samplingTime, made.samplingTime]
  rfl

end Correlator

end Requests

/-! ## The relation to the interval -/

/--
Whatever is asked of a correlator, its sampling time stays the time step, as
often as the interval of its creation says; it is the time between due samples
if and only if the present interval makes the same time.
-/
theorem samplingTime_set_at_creation
    {R : Type}
    [Scalar R]
    [Exponential R]
    {sourceA : Source}
    {sourceB : Option Source}
    {config : Config R}
    {interval : Nat}
    {start : Accumulator R}
    (created :
      Accumulator.correlator sourceA sourceB config interval = .ok start)
    (requests : List (Request R)) :
    let present := (start.afterAll requests).sampling.interval
    ∃ correlator,
      (start.afterAll requests).statistic = .correlator correlator ∧
      present = requests.foldl Request.settleInterval interval ∧
      correlator.config.timeStep = config.timeStep ∧
      correlator.samplingTime = config.timeStep * Scalar.ofNat interval ∧
      correlator.lagTimes =
        correlator.lagSteps.map
          (fun steps =>
            Scalar.ofNat steps * (config.timeStep * Scalar.ofNat interval)) ∧
      (correlator.samplingTime =
          correlator.config.timeStep * Scalar.ofNat present ↔
        config.timeStep * Scalar.ofNat interval =
          config.timeStep * Scalar.ofNat present) ∧
      (present = interval →
       correlator.samplingTime =
         correlator.config.timeStep * Scalar.ofNat present) := by
  intro present
  rcases Accumulator.exists_afterAll created requests with
    ⟨initial, correlator, reached, made, same, intervals⟩
  have step := made.timeStep_eq same
  have time := made.samplingTime_eq same
  refine ⟨correlator, reached, intervals, step, time, ?_, ?_, ?_⟩
  · rw [Correlator.lagTimes, time]
  · rw [time, step]
  · intro unchanged
    rw [time, step, unchanged]

/-- In exact arithmetic no other interval makes the same time. -/
theorem samplingTime_eq_iff
    [Exponential Rat]
    {sourceA : Source}
    {sourceB : Option Source}
    {config : Config Rat}
    {interval : Nat}
    {start : Accumulator Rat}
    (created :
      Accumulator.correlator sourceA sourceB config interval = .ok start)
    (requests : List (Request Rat)) :
    let present := (start.afterAll requests).sampling.interval
    ∃ correlator,
      (start.afterAll requests).statistic = .correlator correlator ∧
      (correlator.samplingTime =
          correlator.config.timeStep * Scalar.ofNat present ↔
        present = interval) := by
  intro present
  rcases Accumulator.exists_afterAll created requests with
    ⟨initial, correlator, reached, made, same, _⟩
  refine ⟨correlator, reached, ?_⟩
  rw [made.samplingTime_eq same, made.timeStep_eq same]
  have positive := (Config.check_ok made.sound).2.1
  rw [Scalar.isPositive, Bool.and_eq_true, decide_eq_true_eq] at positive
  constructor
  · intro equal
    have nonzero : config.timeStep ≠ 0 := ne_of_gt positive.2
    have counted : (interval : Rat) = (present : Rat) :=
      mul_left_cancel₀ nonzero equal
    exact (Nat.cast_injective counted).symm
  · intro unchanged
    rw [unchanged]

/-- Steps of half a time unit, two of which pass between two samples. -/
def trialClock : Config Float :=
  { Config.standard (Scalar.ofNat 4) Scalar.half with linearWidth := 4 }

/--
An interval that is changed behind the back of a correlator is not the one of
its sampling time: after two steps of half a time unit have become three, the
lag of one sample is still one time unit long.
-/
theorem rescheduling_leaves_samplingTime :
    ∃ (start final : Accumulator Float) (correlator : Correlator Float),
      Accumulator.correlator ⟨⟨0⟩, [1]⟩ none trialClock 2 = .ok start ∧
      start.perform (.reschedule 3) = .ok final ∧
      final.statistic = .correlator correlator ∧
      final.sampling.interval = 3 ∧
      correlator.config.timeStep = Scalar.half ∧
      correlator.samplingTime = Scalar.ofNat 1 ∧
      correlator.lagSteps[1]? = some 1 ∧
      correlator.lagTimes[1]? = some (Scalar.ofNat 1) ∧
      correlator.samplingTime ≠
        correlator.config.timeStep * Scalar.ofNat final.sampling.interval := by
  have table :
      ((Accumulator.correlator ⟨⟨0⟩, [1]⟩ none trialClock 2).mapError
        Refusal.rejected >>= fun start =>
        start.perform (.reschedule 3)).toOption.bind
          (Accumulator.read? fun correlator =>
            (correlator.config.timeStep, correlator.samplingTime,
              correlator.lagSteps[1]?, correlator.lagTimes[1]?)) =
        some (Scalar.half, Scalar.ofNat 1, some 1, some (Scalar.ofNat 1)) := by
    decide +kernel
  rcases Accumulator.exists_of_read? table with
    ⟨final, correlator, performed, kind, seen⟩
  rcases bind_ok performed with ⟨start, created, performed⟩
  injection seen with step seen
  injection seen with time seen
  injection seen with lag lagTime
  have interval : final.sampling.interval = 3 := by
    cases Accumulator.step_of_perform performed with
    | reschedule accepted => exact (Sampling.setInterval_ok accepted).1
  refine ⟨start, final, correlator, mapError_ok created, performed, kind,
    interval, step, time, lag, lagTime, ?_⟩
  rw [time, step, interval]
  decide +kernel

theorem samplingTime_set_at_creation_trial :
    ∃ (start : Accumulator Float) (correlator : Correlator Float),
      Accumulator.correlator ⟨⟨0⟩, [1]⟩ none trialClock 2 = .ok start ∧
      (start.afterAll
        [.reschedule 3, .setInterval 5, .add [Scalar.zero],
          .reschedule 2]).statistic =
        .correlator correlator ∧
      correlator.samplingTime =
        correlator.config.timeStep * Scalar.ofNat 2 := by
  have accepted :
      (Accumulator.correlator ⟨⟨0⟩, [1]⟩ none trialClock 2).toBool = true := by
    decide +kernel
  rcases exists_ok accepted with ⟨start, created⟩
  rcases samplingTime_set_at_creation created
    [.reschedule 3, .setInterval 5, .add [Scalar.zero], .reschedule 2] with
    ⟨correlator, kind, interval, _, _, _, _, relation⟩
  rw [interval] at relation
  exact ⟨start, correlator, created, kind, relation rfl⟩

end RunningStatistics
