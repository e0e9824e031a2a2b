import RunningStatistics.Proofs.Acceptance
import RunningStatistics.Proofs.Binary64Spans
import RunningStatistics.Proofs.ExactGrid
import RunningStatistics.Proofs.ExactLags

/-!
# Derived linear widths

A linear width of one stands for the least even width that reaches the largest
lag.  The finest level is then the only one, so that nothing is ever reduced or
left waiting for a partner, and its history is long enough for every lag.

What is left of the hierarchy is the direct definition of the correlation, pair
by pair, whether the run is ended or not.

In exact arithmetic, the width that one stands for is the least even one, from
two on, that reaches the span up to the tolerance.  The lags are all numbers up
to the largest one that is below the width and within the span, and every lag
that is shorter than the span by more than the tolerance has a row.  That no
sample is reduced or waits, and that the end of a run is recorded but changes
nothing else, holds in binary64 as well.
-/

namespace RunningStatistics

/-! ## The grid -/

namespace LagGrid

variable {span : Rat}

theorem ceilNat_le_iff
    {span : Rat}
    {width : Nat} :
    Scalar.ceilNat span ≤ width ↔ span ≤ width := by
  change span.ceil.toNat ≤ width ↔ _
  rw [Int.toNat_le, Rat.ceil_le_iff, Int.cast_natCast]

/--
The derived width is the least even one, from two on, that reaches the span.
-/
theorem isLeast_wholeWidth (span : Rat) :
    IsLeast
      {width : Nat | width % 2 = 0 ∧ max 2 (span - 1 / 10 ^ 9) ≤ (width : Rat)}
      (wholeWidth span) := by
  have reaches : ∀ width : Nat, max 2 (span - 1 / 10 ^ 9) ≤ (width : Rat) ↔
      max 2 (Scalar.ceilNat (span - Scalar.billionth)) ≤ width := by
    intro width
    rw [max_le_iff, max_le_iff, billionth_eq, ceilNat_le_iff, Nat.ofNat_le_cast]
  constructor
  · constructor
    · rw [wholeWidth]
      omega
    · rw [reaches, wholeWidth]
      exact Nat.le_add_right _ _
  · rintro width ⟨even, enough⟩
    rw [reaches] at enough
    rw [wholeWidth]
    omega

/-- In exact arithmetic the derived width needs no second level. -/
theorem wholeWidth_wide (span : Rat) :
    fallsShort (wholeWidth span) span 1 = false := by
  have enough := (max_le_iff.mp (isLeast_wholeWidth span).1.2).2
  rw [Bool.eq_false_iff]
  intro short
  have below : (wholeWidth span : Rat) * 2 ^ 0 < span - 1 / 10 ^ 9 :=
    fallsShort_iff.mp short
  rw [pow_zero, mul_one] at below
  exact absurd enough (not_le.mpr below)

/--
The single level covers all lags up to the largest one below the width and
within the span.
-/
theorem isGreatest_stop
    {width : Nat}
    (positive : 0 < width)
    (nonneg : 0 ≤ span) :
    ∃ top,
      (range width span 0 0).stop = top + 1 ∧
      IsGreatest
        {lag : Nat | lag < width ∧ (lag : Rat) ≤ span + 1 / 10 ^ 9} top := by
  have covered : ∀ lag, lag < (range width span 0 0).stop ↔
      lag < width ∧ (lag : Rat) ≤ span + 1 / 10 ^ 9 := by
    intro lag
    rw [lt_stop_iff (Nat.zero_le lag), pow_zero, mul_one]
  have some : 0 < (range width span 0 0).stop := by
    rw [covered, Nat.cast_zero]
    exact ⟨positive, by linarith⟩
  refine ⟨(range width span 0 0).stop - 1, by omega, ?_, ?_⟩
  · exact (covered _).mp (by omega)
  · intro lag within
    have below := (covered lag).mpr within
    omega

end LagGrid

/-- The span of accepted parameters is not negative. -/
theorem Config.span_nonneg
    {config : Config Rat}
    (sound : config.check = .ok ())
    (interval : Nat) :
    0 ≤ config.span interval := by
  rcases check_ok sound with ⟨positive, positiveStep, _⟩
  have lag : (0 : Rat) < config.largestLag := of_decide_eq_true positive
  have step : (0 : Rat) < config.timeStep := of_decide_eq_true positiveStep
  exact div_nonneg lag.le (mul_nonneg step.le (Nat.cast_nonneg interval))

/-! ## The only level -/

variable {R : Type} [Scalar R]

/--
The only level of a correlator that reduces nothing, once it has received a
stream.
-/
def Level.whole
    (capacity width lagCount : Nat)
    (raw : List (Arrival R)) :
    Level R where
  lags := ⟨0, lagCount, 1, 0⟩
  history :=
    ⟨capacity, false, ((raw.map (·.sample)).reverse).take capacity, none⟩
  rows := (List.range lagCount).map (directRow width raw)

namespace Level

variable {capacity width lagCount : Nat}

theorem holds_whole
    (width : Nat)
    (remembered : lagCount ≤ capacity)
    (capacious : 0 < capacity)
    (raw : List (Arrival R)) :
    (whole capacity width lagCount raw).Holds width raw where
  recent := rfl
  rows := by
    rw [whole, List.range_eq_range']
    rfl
  remembered := remembered
  capacious := capacious

/-- The level keeps every sample to itself. -/
theorem receive_whole
    (rules : Rules R)
    (remembered : lagCount ≤ capacity)
    (capacious : 0 < capacity)
    (raw : List (Arrival R))
    (sample : Sample R) :
    (whole capacity width lagCount raw).receive rules sample =
      (whole capacity width lagCount (raw ++ [⟨sample, rules.terms⟩]),
        none) := by
  have holds :=
    (holds_whole width remembered capacious raw).receive rules sample
  have received :
      (whole capacity width lagCount raw).receive rules sample =
        (⟨⟨0, lagCount, 1, 0⟩,
            ⟨capacity, false,
              ((whole capacity width lagCount raw).receive
                rules sample).1.history.recent, none⟩,
            ((whole capacity width lagCount raw).receive rules sample).1.rows⟩,
          none) :=
    rfl
  have rows :
      ((whole capacity width lagCount raw).receive rules sample).1.rows =
        (List.range lagCount).map
          (directRow width (raw ++ [⟨sample, rules.terms⟩])) := by
    rw [holds.rows, List.range_eq_range']
    rfl
  rw [received, holds.recent, rows]
  rfl

end Level

namespace Correlator

variable [Exponential R]

/-- A correlator that reduces nothing, once it has taken in a stream. -/
structure IsWhole
    (correlator : Correlator R)
    (lagCount : Nat)
    (raw : List (Arrival R)) : Prop where
  hierarchy : correlator.hierarchy = [Level.whole correlator.config.linearWidth
    correlator.valueShape.size lagCount raw]
  remembered : lagCount ≤ correlator.config.linearWidth
  capacious : 0 < correlator.config.linearWidth

variable
    {correlator after : Correlator R}
    {lagCount : Nat}
    {raw : List (Arrival R)}

theorem IsWhole.flush (whole : correlator.IsWhole lagCount raw) :
    Hierarchy.flush correlator.config.rules none correlator.hierarchy =
      correlator.hierarchy := by
  rw [whole.hierarchy]
  rfl

/-- The end of the run is recorded, and nothing else changes. -/
theorem IsWhole.finalize (whole : correlator.IsWhole lagCount raw) :
    correlator.finalize = { correlator with isFinalized := true } := by
  rw [Correlator.finalize]
  split
  next ended => rw [← ended]
  next => rw [whole.flush]

theorem IsWhole.step
    {request : Request R}
    (whole : correlator.IsWhole lagCount raw)
    (step : correlator.Step request after) :
    after.IsWhole lagCount (raw ++ correlator.arrival request) := by
  rcases whole with ⟨hierarchy, remembered, capacious⟩
  cases step with
  | @receive request sample handed running fitsA fitsB =>
      refine ⟨?_, remembered, capacious⟩
      rw [arrival, handed, receive, hierarchy, Hierarchy.ingest_cons,
        Level.receive_whole _ remembered capacious]
      rfl
  | finalize =>
      have idle : correlator.arrival .finalize = [] := rfl
      rw [idle, List.append_nil,
        IsWhole.finalize ⟨hierarchy, remembered, capacious⟩]
      exact ⟨hierarchy, remembered, capacious⟩
  | @setArguments replacement sound =>
      have idle : correlator.arrival (.setArguments replacement) = [] := rfl
      rw [idle, List.append_nil]
      exact ⟨hierarchy, remembered, capacious⟩
  | @reschedule interval =>
      have idle : correlator.arrival (.reschedule interval) = [] := rfl
      rw [idle, List.append_nil]
      exact ⟨hierarchy, remembered, capacious⟩

/-- Over a whole run, ended or not, nothing is reduced. -/
theorem IsWhole.performAll
    {accumulator final : Accumulator R}
    {requests : List (Request R)}
    (kind : accumulator.statistic = .correlator correlator)
    (whole : correlator.IsWhole lagCount raw)
    (performed : accumulator.performAll requests = .ok final) :
    ∃ after,
      final.statistic = .correlator after ∧
      correlator.SameSetup after ∧
      after.IsWhole lagCount (raw ++ correlator.arrivalsOf requests) := by
  induction requests generalizing accumulator correlator raw with
  | nil =>
      cases performed
      exact ⟨correlator, kind, .refl correlator,
        by simpa [arrivalsOf, arrivals] using whole⟩
  | cons request rest hypothesis =>
      rcases Accumulator.performAll_cons_ok performed with ⟨next, first, later⟩
      rcases Accumulator.perform_correlator kind first with ⟨middle, kept, step⟩
      rcases hypothesis kept (whole.step step) later with
        ⟨after, reached, same, held⟩
      refine ⟨after, reached, step.sameSetup.trans same, ?_⟩
      rw [arrivalsOf_cons step, ← List.append_assoc]
      exact held

/--
A correlator that was just accepted reduces nothing if its width reaches the
span.
-/
theorem Created.isWhole
    {sourceA : Source}
    {sourceB : Option Source}
    {config : Config R}
    {interval : Nat}
    (made : correlator.Created sourceA sourceB config interval)
    (blank :
      correlator.hierarchy =
        Hierarchy.empty correlator.config.linearWidth correlator.valueShape.size
          correlator.lags)
    (wide :
      LagGrid.fallsShort correlator.config.linearWidth
        (config.span interval) 1 = false) :
    correlator.IsWhole
      (LagGrid.range correlator.config.linearWidth (config.span interval)
        0 0).stop [] := by
  have width := (Config.width_resolve made.sound interval).1
  rw [← made.resolved] at width
  refine ⟨?_, LagGrid.stop_range_le _ _ _ _,
    Nat.lt_of_lt_of_le Nat.two_pos width⟩
  rw [blank, made.lags, LagGrid.build_of_wide wide, Hierarchy.empty,
    Level.empty, Level.whole, List.map_nil, List.reverse_nil, List.take_nil]
  have rows :
      (List.range (LagGrid.range correlator.config.linearWidth
          (config.span interval) 0 0).stop).map
          (directRow (R := R) correlator.valueShape.size []) =
        List.replicate
          (LagGrid.range correlator.config.linearWidth (config.span interval)
            0 0).count (Row.empty correlator.valueShape.size) := by
    have none : directRow (R := R) correlator.valueShape.size [] =
        fun _ => Row.empty correlator.valueShape.size := rfl
    rw [none, List.map_const', List.length_range]
    rfl
  rw [rows]
  rfl

/--
A correlator of raw samples only: each row is the direct one, and nothing is
reduced or waits.
-/
structure IsDirect
    (correlator : Correlator R)
    (raw : List (Arrival R)) : Prop where
  depth : correlator.depth = 1
  lagSteps : correlator.lagSteps = List.range correlator.lagCount
  /--
  No level waits for the partner of a sample, and none passes a pair on to be
  reduced.
  -/
  keeps : ∀ level ∈ correlator.hierarchy, level.history.unpaired = none ∧
    ∀ rules sample, (level.receive rules sample).2 = none
  /--
  The row of a lag has all pairs of raw samples that are the lag apart, earliest
  first.
  -/
  row :
    ∀ lag < correlator.lagCount,
      ∃ row,
        correlator.rows[lag]? = some row ∧
        row = directRow correlator.valueShape.size raw lag ∧
        row.count = raw.length - lag
  finalize : correlator.finalize = { correlator with isFinalized := true }

omit [Exponential R] in
theorem IsWhole.lagSteps (whole : correlator.IsWhole lagCount raw) :
    correlator.lagSteps = List.range lagCount := by
  rw [Correlator.lagSteps, whole.hierarchy, Hierarchy.lagSteps,
    List.flatMap_singleton, Level.whole, LagRange.steps, LagRange.count,
    List.range_eq_range']
  simp

omit [Exponential R] in
theorem IsWhole.lagCount_eq (whole : correlator.IsWhole lagCount raw) :
    correlator.lagCount = lagCount := by
  rw [Correlator.lagCount, whole.lagSteps, List.length_range]

theorem IsWhole.isDirect (whole : correlator.IsWhole lagCount raw) :
    correlator.IsDirect raw where
  depth := by
    rw [Correlator.depth, whole.hierarchy]
    rfl
  lagSteps := by
    rw [whole.lagCount_eq]
    exact whole.lagSteps
  keeps := by
    rw [whole.hierarchy, List.forall_mem_singleton]
    exact ⟨rfl, fun _ _ => rfl⟩
  row := by
    intro lag within
    rw [whole.lagCount_eq] at within
    refine ⟨_, ?_, rfl, count_directRow _ _ _⟩
    rw [Correlator.rows, whole.hierarchy, Hierarchy.rows,
      List.flatMap_singleton, Level.whole, List.getElem?_map,
      List.getElem?_range within]
    rfl
  finalize := whole.finalize

end Correlator

/--
A correlator whose derived width reaches its span keeps to the raw samples for a
whole run.
-/
theorem Accumulator.exists_whole_run
    [Exponential R]
    {sourceA : Source}
    {sourceB : Option Source}
    {config : Config R}
    {interval : Nat}
    {start final : Accumulator R}
    {requests : List (Request R)}
    (derived : config.linearWidth = 1)
    (wide :
      LagGrid.fallsShort (LagGrid.wholeWidth (config.span interval))
        (config.span interval) 1 = false)
    (created :
      Accumulator.correlator sourceA sourceB config interval = .ok start)
    (performed : start.performAll requests = .ok final) :
    ∃ correlator,
      final.statistic = .correlator correlator ∧
      correlator.config.linearWidth =
        LagGrid.wholeWidth (config.span interval) ∧
      correlator.IsWhole
        (LagGrid.range (LagGrid.wholeWidth (config.span interval))
          (config.span interval) 0 0).stop
        (arrivals config.operation sourceA.id (sourceB.getD sourceA).id
          config.arguments requests) := by
  rcases blank_ok created with ⟨initial, kind, made, blank⟩
  have width :
      initial.config.linearWidth =
        LagGrid.wholeWidth (config.span interval) := by
    rw [made.resolved, Config.resolve, if_pos derived]
  have whole := made.isWhole blank (by rwa [width])
  rw [width] at whole
  rcases whole.performAll kind performed with ⟨correlator, reached, same, whole⟩
  rw [made.arrivalsOf_eq, List.nil_append] at whole
  refine ⟨correlator, reached, ?_, whole⟩
  rw [same.config]
  exact width

/--
In binary64, too, the width that is derived for accepted parameters needs no
second level.
-/
theorem Double.wholeWidth_wide
    {config : Config Float}
    (sound : config.check = .ok ())
    {interval : Nat}
    (some : 0 < interval) :
    LagGrid.fallsShort (LagGrid.wholeWidth (config.span interval))
      (config.span interval) 1 = false := by
  rcases exists_span sound some with ⟨value, denotes, bounded⟩
  exact denotes.wholeWidth_wide bounded

/--
With a linear width of one, a correlator has one level with a row for every lag
within the span, and the row of a lag has the terms of all pairs of raw samples
that are the lag apart.
-/
theorem derived_width_correlates_directly :
    (∀ [Exponential Rat] {sourceA : Source} {sourceB : Option Source}
        {config : Config Rat} {interval : Nat} {start final : Accumulator Rat}
        {requests : List (Request Rat)},
      config.linearWidth = 1 →
      Accumulator.correlator sourceA sourceB config interval = .ok start →
      start.performAll requests = .ok final →
      let span := config.largestLag / (config.timeStep * interval)
      ∃ correlator top,
        final.statistic = .correlator correlator ∧
        IsLeast
          {width : Nat |
            width % 2 = 0 ∧ max 2 (span - 1 / 10 ^ 9) ≤ (width : Rat)}
          correlator.config.linearWidth ∧
        IsGreatest
          {lag : Nat |
            lag < correlator.config.linearWidth ∧
            (lag : Rat) ≤ span + 1 / 10 ^ 9} top ∧
        correlator.lagSteps = List.range (top + 1) ∧
        (∀ lag : Nat,
          (lag : Rat) < span - 1 / 10 ^ 9 →
          correlator.lagSteps[lag]? = some lag) ∧
        correlator.IsDirect
          (arrivals config.operation sourceA.id (sourceB.getD sourceA).id
            config.arguments requests)) ∧
    (∀ {sourceA : Source} {sourceB : Option Source} {config : Config Float}
        {interval : Nat} {start final : Accumulator Float}
        {requests : List (Request Float)},
      config.linearWidth = 1 →
      Accumulator.correlator sourceA sourceB config interval = .ok start →
      start.performAll requests = .ok final →
      ∃ correlator,
        final.statistic = .correlator correlator ∧
        correlator.IsDirect
          (arrivals config.operation sourceA.id (sourceB.getD sourceA).id
            config.arguments requests)) := by
  constructor
  · intro _ sourceA sourceB config interval start final requests derived created
      performed span
    rcases Accumulator.exists_whole_run derived (LagGrid.wholeWidth_wide _)
        created performed with ⟨correlator, reached, width, whole⟩
    rcases Accumulator.correlator_ok created with ⟨_, _, made⟩
    have nonneg : 0 ≤ span := Config.span_nonneg made.sound interval
    have least := LagGrid.isLeast_wholeWidth span
    have positive : 0 < LagGrid.wholeWidth span := by
      have two := (max_le_iff.mp least.1.2).1
      exact Nat.lt_of_lt_of_le Nat.two_pos (Nat.ofNat_le_cast.mp two)
    rcases LagGrid.isGreatest_stop positive nonneg with ⟨top, stop, greatest⟩
    have steps : correlator.lagSteps = List.range (top + 1) := by
      rw [← stop]
      exact whole.lagSteps
    refine ⟨correlator, top, reached, ?_, ?_, steps, ?_, whole.isDirect⟩
    · rw [width]
      exact least
    · rw [width]
      exact greatest
    · intro lag short
      have below : lag < LagGrid.wholeWidth span := by
        have enough := (max_le_iff.mp least.1.2).2
        exact Nat.cast_lt.mp (short.trans_le enough)
      have within : lag ≤ top := greatest.2 ⟨below, by linarith⟩
      rw [steps, List.getElem?_range (Nat.lt_succ_of_le within)]
  · intro sourceA sourceB config interval start final requests derived created
      performed
    rcases Accumulator.correlator_ok created with ⟨_, _, made⟩
    rcases Accumulator.exists_whole_run derived
        (Double.wholeWidth_wide made.sound made.interval_pos) created
        performed with
      ⟨correlator, reached, _, whole⟩
    exact ⟨correlator, reached, whole.isDirect⟩

theorem derived_width_correlates_directly_trial :
    (∃ (_ : Exponential Rat) (start final : Accumulator Rat)
        (correlator : Correlator Rat),
      Accumulator.correlator ⟨⟨0⟩, [1]⟩ none
          { trialMotion with linearWidth := 1 } 1 =
        .ok start ∧
      start.performAll (trialPlaces ++ [.finalize]) = .ok final ∧
      final.statistic = .correlator correlator ∧
      correlator.lagSteps[3]? = some 3 ∧
      correlator.IsDirect
        (arrivals .squareDistance ⟨0⟩ ⟨0⟩ trialMotion.arguments
          (trialPlaces ++ [.finalize]))) ∧
    ∃ (start final : Accumulator Float) (correlator : Correlator Float),
      Accumulator.correlator (trialSource 0) (some (trialSource 1))
          { trialConfig with linearWidth := 1 } 2 =
        .ok start ∧
      start.performAll (trialRequests ++ [.finalize]) = .ok final ∧
      final.statistic = .correlator correlator ∧
      correlator.IsDirect
        (arrivals .tensorProduct ⟨0⟩ ⟨1⟩ trialConfig.arguments
          (trialRequests ++ [.finalize])) := by
  constructor
  · let exponential := Exponential.tangent
    have accepted :
        (Accumulator.run
          (Accumulator.correlator ⟨⟨0⟩, [1]⟩ none
            { trialMotion with linearWidth := 1 } 1)
          (trialPlaces ++ [.finalize])).toBool = true := by
      decide +kernel
    rcases exists_ok accepted with ⟨final, ran⟩
    rcases Accumulator.run_ok ran with ⟨start, created, performed⟩
    rcases derived_width_correlates_directly.1 rfl created performed with
      ⟨correlator, _, kind, _, _, _, rows, direct⟩
    exact ⟨exponential, start, final, correlator, created, performed, kind,
      rows 3 (by decide +kernel), direct⟩
  · have accepted :
        (Accumulator.run
          (Accumulator.correlator (trialSource 0) (some (trialSource 1))
            { trialConfig with linearWidth := 1 } 2)
          (trialRequests ++ [.finalize])).toBool = true := by
      decide +kernel
    rcases exists_ok accepted with ⟨final, ran⟩
    rcases Accumulator.run_ok ran with ⟨start, created, performed⟩
    rcases derived_width_correlates_directly.2 rfl created performed with
      ⟨correlator, kind, direct⟩
    exact ⟨start, final, correlator, created, performed, kind, direct⟩

end RunningStatistics
