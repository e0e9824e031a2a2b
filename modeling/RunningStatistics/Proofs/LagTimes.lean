import RunningStatistics.Proofs.AcceptedHistories
import RunningStatistics.Proofs.Binary64Overflow
import RunningStatistics.Proofs.SamplingTimes
import RunningStatistics.Proofs.TrapFreedom

/-!
# Lag times

The first lag is zero, and so is its time, provided that the sampling time is a
number.  The checks of a configuration see to it that the time step is one.  But
the sampling time is the time step, as often as the interval says, and this
product may overflow.

A correlator with an infinite sampling time is accepted all the same.  The
largest lag is zero sampling intervals long then, so that only the lag zero is
left, and the time of this lag is undefined.

The sampling time is a number if and only if the product of the time step and
the rounded interval is below the threshold from which numbers round to
infinity.  In either case it is above zero, and there is a lag time for each row
of the result.
-/

namespace RunningStatistics

open Float.Model Float.Model.UnpackedFloat

namespace Double

/-! ## Products of doubles -/

variable {x y : Float} {value : ℚ}

theorem IsUnsigned.infinite_iff (unsigned : IsUnsigned x) :
    x.toModel.unpack = .infinity .positive ↔ Scalar.isFinite x = false := by
  show _ ↔ x.toModel.unpack.isFinite = false
  rw [IsUnsigned] at unsigned
  generalize x.toModel.unpack = unpacked at unsigned
  constructor
  · intro infinite
    rw [infinite]
    rfl
  · intro infinite
    cases unsigned with
    | infinity => rfl
    | zero => cases infinite
    | finite => cases infinite

/--
A product overflows if a factor is infinite, or the exact product reaches the
threshold.
-/
theorem IsPositive.isFinite_mul_iff
    (positive : IsPositive x)
    (denotes : Denotes x value)
    (unsigned : IsUnsigned y) :
    Scalar.isFinite (x * y) = true ↔
      ∃ factor, Denotes y factor ∧ value * factor < overflowThreshold := by
  rw [← Bool.not_eq_false, ← (positive.mul unsigned).infinite_iff]
  constructor
  · intro finite
    rcases unsigned.denotes_or_infinite with ⟨factor, denotes'⟩ | infinite
    · refine ⟨factor, denotes', not_le.mp fun above => finite ?_⟩
      exact (denotes.mul denotes').infinite_iff.mpr above
    · exact absurd (positive.mul_infinite infinite) finite
  · rintro ⟨factor, denotes', below⟩ infinite
    exact not_le.mpr below ((denotes.mul denotes').infinite_iff.mp infinite)

theorem Denotes.zero_lt
    (denotes : Denotes x value)
    (positive : 0 < value) :
    Scalar.zero < x := by
  have origin : Denotes Scalar.zero (0 : ℕ) := denotes_ofNat (by decide)
  rw [origin.isUnsigned.lt_iff_not_le denotes.isUnsigned, denotes.le_iff origin,
    Nat.cast_zero]
  exact not_le.mpr positive

/-- A sampling time is above zero, infinite or not. -/
theorem IsPositive.zero_lt_mul_ofNat
    (positive : IsPositive x)
    {interval : ℕ}
    (some : 0 < interval) :
    Scalar.zero < x * Scalar.ofNat interval := by
  rcases positive.denotes with ⟨step, denotes, above⟩
  rcases positive.mul_ofNat denotes some with
    infinite | ⟨time, denotes', longer⟩
  · rw [Double.lt_iff, infinite]
    rfl
  · exact denotes'.zero_lt (above.trans_le longer)

/-- Zero times a number is zero. -/
theorem Denotes.zero_mul (denotes : Denotes x value) :
    Scalar.ofNat 0 * x = Scalar.zero := by
  show Float.ofModel (.pack (UnpackedFloat.mul _ _ x.toModel.unpack)) = _
  rw [Denotes] at denotes
  generalize x.toModel.unpack = unpacked at denotes
  cases denotes with
  | zero => rfl
  | finite => rfl

/-- Zero times infinity is undefined. -/
theorem zero_mul_infinite (infinite : x.toModel.unpack = .infinity .positive) :
    Scalar.ofNat 0 * x = Scalar.undefined := by
  show Float.ofModel (.pack (UnpackedFloat.mul _ _ x.toModel.unpack)) = _
  rw [infinite]
  rfl

theorem IsUnsigned.zero_mul_eq_zero_iff (unsigned : IsUnsigned x) :
    Scalar.ofNat 0 * x = Scalar.zero ↔ Scalar.isFinite x = true := by
  cases finite : Scalar.isFinite x with
  | true =>
      rcases unsigned.denotes_or_infinite with ⟨value, denotes⟩ | infinite
      · exact iff_of_true denotes.zero_mul rfl
      · rw [unsigned.infinite_iff.mp infinite] at finite
        exact absurd finite Bool.false_ne_true
  | false =>
      have undefined : (Scalar.undefined : Float) ≠ Scalar.zero := by
        decide +kernel
      rw [zero_mul_infinite (unsigned.infinite_iff.mpr finite)]
      exact iff_of_false undefined Bool.false_ne_true

end Double

/-! ## The grid of an infinite sampling time -/

/-- A span of no sampling intervals leaves the lag zero only. -/
theorem LagGrid.build_of_denotes_zero
    {width : ℕ}
    {span : Float}
    (positive : 0 < width)
    (none : Double.Denotes span 0) :
    build width span = [⟨0, 1, 1, 0⟩] := by
  rcases Double.denotes_billionth with ⟨tolerance, small⟩
  have wide : fallsShort width span 1 = false := by
    rw [fallsShort, decide_eq_false_iff_not]
    exact Double.not_lt_of_notAbove (Double.isUnsigned_ofNat _)
      (none.sub_notAbove small (Valued.nonneg small))
  -- Nothing is added to the tolerance, so both lags are compared with a
  -- constant.
  have reach : (span + Scalar.billionth).toModel.unpack =
      (Scalar.billionth : Float).toModel.unpack := by
    have sum := none.add small
    rw [zero_add] at sum
    exact sum.unpack_eq small.isNearest
  have start : reaches span 0 = true := by
    rw [reaches, decide_eq_true_iff, Double.le_iff, reach]
    decide +kernel
  have next : reaches span 1 = false := by
    rw [reaches, decide_eq_false_iff_not, Double.le_iff, reach]
    decide +kernel
  have stop : lagEnd span 1 width 0 = 1 := by
    rcases Nat.exists_eq_succ_of_ne_zero (Nat.ne_of_gt positive) with
      ⟨room, rfl⟩
    rw [lagEnd, Nat.zero_mul, if_pos start]
    cases room with
    | zero => rfl
    | succ room => rw [lagEnd, next, if_neg Bool.false_ne_true]
  rw [build_of_wide wide, range, firstLag, if_pos rfl, stride_eq, pow_zero,
    Nat.sub_zero, stop]

/-! ## The lags of a correlator -/

namespace Correlator

variable
    {initial correlator : Correlator Float}
    {sourceA : Source}
    {sourceB : Option Source}
    {config : Config Float}
    {interval : Nat}

theorem Created.head?_lagSteps
    (made : initial.Created sourceA sourceB config interval)
    (same : initial.SameSetup correlator) :
    correlator.lagSteps.head? = some 0 := by
  rcases made.exists_first_lags same with ⟨range, first, least, covered, row⟩
  have stands := (made.laidOut same).getElem?_steps first least covered
  rw [row, Nat.zero_mul] at stands
  rw [lagSteps_eq, List.head?_eq_getElem?, stands]

theorem Created.lagSteps_of_infinite
    (made : initial.Created sourceA sourceB config interval)
    (same : initial.SameSetup correlator)
    (infinite : correlator.samplingTime.toModel.unpack = .infinity .positive) :
    correlator.lagSteps = [0] := by
  rw [made.samplingTime_eq same] at infinite
  have none :=
    (Double.isPositive_of_check (Config.check_ok made.sound).1).div_infinite
      infinite
  have wide := (Config.width_resolve made.sound interval).1
  rw [lagSteps_eq, same.lags, made.lags, made.resolved]
  exact congrArg (List.flatMap LagRange.steps)
    (LagGrid.build_of_denotes_zero (Nat.lt_of_lt_of_le Nat.two_pos wide) none)

end Correlator

/--
The lag times of an accepted correlator begin with zero if and only if its
sampling time is a number, which it is unless the product of the time step and
the interval overflows.
-/
theorem lagTimes_begin_with_zero_iff
    {sourceA : Source}
    {sourceB : Option Source}
    {config : Config Float}
    {interval : Nat}
    {start : Accumulator Float}
    (created :
      Accumulator.correlator sourceA sourceB config interval = .ok start)
    (requests : List (Request Float)) :
    ∃ correlator step,
      (start.afterAll requests).statistic = .correlator correlator ∧
      Double.Denotes config.timeStep step ∧
      Scalar.zero < correlator.samplingTime ∧
      (Scalar.isFinite correlator.samplingTime = true ↔
        ∃ factor,
          Double.Denotes (Scalar.ofNat interval) factor ∧
          step * factor < overflowThreshold) ∧
      (correlator.lagTimes.head? = some Scalar.zero ↔
        Scalar.isFinite correlator.samplingTime = true) ∧
      (Scalar.isFinite correlator.samplingTime = false →
       correlator.lagSteps = [0] ∧ correlator.lagTimes = [Scalar.undefined]) ∧
      correlator.result.shape =
        correlator.lagTimes.length :: correlator.valueShape ∧
      correlator.result.Filled := by
  rcases Accumulator.exists_course created requests with
    ⟨initial, correlator, course, _, made, reached, same, stands, _⟩
  have positive := Double.isPositive_of_check (Config.check_ok made.sound).2.1
  rcases positive.denotes with ⟨step, denotes, _⟩
  have unsigned := Double.isUnsigned_ofNat interval
  have product : Double.IsUnsigned correlator.samplingTime := by
    rw [made.samplingTime_eq same]
    exact positive.mul unsigned
  have first : correlator.lagTimes.head? =
      some (Scalar.ofNat 0 * correlator.samplingTime) := by
    rw [Correlator.lagTimes, List.head?_map, made.head?_lagSteps same,
      Option.map_some]
  refine ⟨correlator, step, reached, denotes, ?_, ?_, ?_, ?_, ?_,
    stands.filled_result⟩
  · rw [made.samplingTime_eq same]
    exact positive.zero_lt_mul_ofNat made.interval_pos
  · rw [made.samplingTime_eq same]
    exact positive.isFinite_mul_iff denotes unsigned
  · rw [first, Option.some.injEq]
    exact product.zero_mul_eq_zero_iff
  · intro overflow
    have infinite := product.infinite_iff.mpr overflow
    have lags := made.lagSteps_of_infinite same infinite
    refine ⟨lags, ?_⟩
    rw [Correlator.lagTimes, lags, List.map_singleton,
      Double.zero_mul_infinite infinite]
  · rw [Correlator.lagTimes, List.length_map]
    rfl

/-- Steps of `2 ^ 1023` time units, two of which are longer than any double. -/
def widestClock : Config Float :=
  { Config.standard (Float.ofBits 0x7fe0000000000000)
      (Float.ofBits 0x7fe0000000000000) with
    linearWidth := 2 }

/-- A correlator that is accepted, although its sampling time overflows. -/
theorem overflow_leaves_no_lagTime :
    ∃ (start : Accumulator Float) (correlator : Correlator Float),
      Accumulator.correlator ⟨⟨0⟩, [1]⟩ none widestClock 4 = .ok start ∧
      start.statistic = .correlator correlator ∧
      Scalar.isFinite correlator.samplingTime = false ∧
      correlator.lagTimes = [Scalar.undefined] ∧
      correlator.lagTimes.head? ≠ some Scalar.zero := by
  have table :
      (Accumulator.correlator ⟨⟨0⟩, [1]⟩ none widestClock 4).toOption.bind
          (Accumulator.read? fun correlator =>
            (Scalar.isFinite correlator.samplingTime, correlator.lagTimes)) =
        some (false, [Scalar.undefined]) := by
    decide +kernel
  rcases Accumulator.exists_of_read? table with
    ⟨start, correlator, created, kind, seen⟩
  injection seen with infinite lagTimes
  refine ⟨start, correlator, created, kind, infinite, lagTimes, ?_⟩
  rw [lagTimes]
  decide +kernel

/--
A sampling time of one time unit, and one that overflows, whatever is asked
later.
-/
theorem lagTimes_begin_with_zero_iff_trial :
    (∃ (start : Accumulator Float) (correlator : Correlator Float),
      Accumulator.correlator ⟨⟨0⟩, [1]⟩ none trialClock 2 = .ok start ∧
      (start.afterAll [.add [Scalar.half], .finalize]).statistic =
        .correlator correlator ∧
      Scalar.isFinite correlator.samplingTime = true ∧
      correlator.lagTimes.head? = some Scalar.zero) ∧
    ∃ (start : Accumulator Float) (correlator : Correlator Float),
      Accumulator.correlator ⟨⟨0⟩, [1]⟩ none widestClock 4 = .ok start ∧
      (start.afterAll [.reschedule 1, .finalize]).statistic =
        .correlator correlator ∧
      Scalar.isFinite correlator.samplingTime = false ∧
      correlator.lagTimes = [Scalar.undefined] := by
  constructor
  · have table :
        ((Accumulator.correlator ⟨⟨0⟩, [1]⟩ none trialClock 2).map fun start =>
          start.afterAll [.add [Scalar.half], .finalize]).toOption.bind
            (Accumulator.read? fun correlator =>
              Scalar.isFinite correlator.samplingTime) =
          some true := by
      decide +kernel
    rcases Accumulator.exists_of_read? table with
      ⟨final, correlator, performed, kind, finite⟩
    rcases map_ok performed with ⟨start, created, rfl⟩
    rcases lagTimes_begin_with_zero_iff created
        [.add [Scalar.half], .finalize] with
      ⟨same, _, reached, _, _, _, begins, _⟩
    cases kind.symm.trans reached
    exact ⟨start, correlator, created, kind, finite, begins.mpr finite⟩
  · have table :
        ((Accumulator.correlator ⟨⟨0⟩, [1]⟩ none widestClock 4).map fun start =>
          start.afterAll [.reschedule 1, .finalize]).toOption.bind
            (Accumulator.read? fun correlator =>
              Scalar.isFinite correlator.samplingTime) =
          some false := by
      decide +kernel
    rcases Accumulator.exists_of_read? table with
      ⟨final, correlator, performed, kind, overflow⟩
    rcases map_ok performed with ⟨start, created, rfl⟩
    rcases lagTimes_begin_with_zero_iff created [.reschedule 1, .finalize] with
      ⟨same, _, reached, _, _, _, _, undefined, _⟩
    cases kind.symm.trans reached
    exact ⟨start, correlator, created, kind, overflow, (undefined overflow).2⟩

end RunningStatistics
