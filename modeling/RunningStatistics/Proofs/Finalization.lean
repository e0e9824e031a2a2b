import RunningStatistics.Proofs.DirectCorrelation
import RunningStatistics.Proofs.Events

/-!
# The end of a run

When a run is ended, every level has received the stream in which the odd last
value of the level below is reduced with itself.  The rows are those of these
streams, no sample waits any more, and the finest level is as it was.

From then on nothing changes what a correlator reports, whatever is asked of it
and whichever registries step.

What is flushed is combined under the arguments in force at the end.  The rows
of the finest level, the number of samples and their means stay.
-/

namespace RunningStatistics

variable {R : Type} [Scalar R]

/-! ## Flushing a correlator -/

namespace Hierarchy

/-- Flushing with nothing carried adds no sample to the finest level. -/
theorem head?_rows_flush
    (rules : Rules R)
    (hierarchy : Hierarchy R) :
    (flush rules none hierarchy).head?.map (·.rows) =
      hierarchy.head?.map (·.rows) := by
  cases hierarchy with
  | nil => rfl
  | cons level above =>
      rw [flush_cons_none]
      cases level.history.unpaired with
      | none => rfl
      | some waiting => rfl

end Hierarchy

variable [Exponential R]

namespace Correlator

theorem finalize_of_running
    {correlator : Correlator R}
    (running : correlator.isFinalized = false) :
    correlator.finalize =
      { correlator with
        hierarchy :=
          Hierarchy.flush correlator.config.rules none correlator.hierarchy
        isFinalized := true } := by
  rw [finalize, running]
  rfl

theorem finalize_count_means (correlator : Correlator R) :
    correlator.finalize.count = correlator.count ∧
    correlator.finalize.meanA = correlator.meanA ∧
    correlator.finalize.meanB = correlator.meanB := by
  rw [finalize]
  split <;> exact ⟨rfl, rfl, rfl⟩

theorem head?_rows_finalize (correlator : Correlator R) :
    correlator.finalize.hierarchy.head?.map (·.rows) =
      correlator.hierarchy.head?.map (·.rows) := by
  rw [finalize]
  split
  · rfl
  · exact Hierarchy.head?_rows_flush _ _

variable {correlator : Correlator R} {raw : List (Arrival R)}

theorem Records.settled (records : correlator.Records raw) :
    Hierarchy.Settled correlator.valueShape.size correlator.config.rules
      correlator.finalize.hierarchy raw := by
  have settled := records.follows.flush none
  rw [Hierarchy.carriedArrival, Option.map_none, Option.toList_none,
    List.append_nil] at settled
  rw [finalize_of_running records.running]
  exact settled

/-- The table of a correlator whose run was ended. -/
theorem Records.row_finalize
    (records : correlator.Records raw)
    (fitting :
      correlator.finalize.config.operation.valueShape
          correlator.finalize.lengthA correlator.finalize.lengthB =
        .ok correlator.finalize.valueShape)
    (laid : LagRange.LaidOut 0 correlator.finalize.lags)
    {index : Nat}
    {range : LagRange}
    (present : correlator.finalize.lags[index]? = some range)
    {lag : Nat}
    (least : range.first ≤ lag)
    (below : lag < range.stop) :
    let row :=
      directRow correlator.finalize.valueShape.size
        (finalStream correlator.config.rules raw index) lag
    correlator.finalize.rows[range.row lag]? = some row ∧
    row.sums.length = correlator.finalize.valueShape.size ∧
    correlator.finalize.result.row (range.row lag) = row.mean := by
  have same := sameSetup_finalize correlator
  have carries := records.settled.1
  rw [← same.valueShape] at carries
  rw [finalStream_eq_iterate]
  refine row_of_carries carries ?_ fitting laid present least below
  intro level
  rw [← finalStream_eq_iterate, same.operation, same.lengthA, same.lengthB]
  exact forall_mem_finalStream correlator.config records.suits level

/-! ## What is reported -/

/-- Everything that a correlator reports about its samples. -/
structure Report (R : Type) where
  result : Tensor R
  sampleSizes : List Nat
  lagTimes : List R
  activeLevels : Nat
  count : Nat
  meanA : Tensor R
  meanB : Tensor R

/-- What a correlator reports about its samples. -/
def report (correlator : Correlator R) : Report R where
  result := correlator.result
  sampleSizes := correlator.sampleSizes
  lagTimes := correlator.lagTimes
  activeLevels := correlator.activeLevels
  count := correlator.count
  meanA := correlator.meanA
  meanB := correlator.meanB

/-- Once a run was ended, no request changes the report. -/
theorem Step.report
    {correlator after : Correlator R}
    {request : Request R}
    (step : correlator.Step request after)
    (ended : correlator.isFinalized = true) :
    after.isFinalized = true ∧ after.report = correlator.report := by
  cases step with
  | receive handed running fitsA fitsB =>
      rw [running] at ended
      cases ended
  | finalize =>
      rw [finalize_of_isFinalized ended]
      exact ⟨ended, rfl⟩
  | setArguments sound => exact ⟨ended, rfl⟩
  | reschedule => exact ⟨ended, rfl⟩

end Correlator

namespace Accumulator

theorem Reaches.report
    {accumulator next : Accumulator R}
    {correlator : Correlator R}
    (reaches : accumulator.Reaches next)
    (kind : accumulator.statistic = .correlator correlator)
    (ended : correlator.isFinalized = true) :
    ∃ later,
      next.statistic = .correlator later ∧
      later.report = correlator.report := by
  rcases reaches with ⟨requests, performed⟩
  induction requests generalizing accumulator correlator with
  | nil =>
      cases performed
      exact ⟨correlator, kind, rfl⟩
  | cons request rest hypothesis =>
      rcases performAll_cons_ok performed with ⟨middle, first, performed⟩
      rcases perform_correlator kind first with ⟨after, kept, step⟩
      rcases step.report ended with ⟨still, same⟩
      rcases hypothesis kept still performed with ⟨later, reached, unchanged⟩
      exact ⟨later, reached, unchanged.trans same⟩

theorem perform_finalize
    {accumulator : Accumulator R}
    {correlator : Correlator R}
    (kind : accumulator.statistic = .correlator correlator) :
    accumulator.perform .finalize =
      .ok { accumulator with
        statistic := .correlator correlator.finalize } := by
  rw [perform, finalize?, kind]
  rfl

end Accumulator

/-! ## Ending a run -/

/--
Ending a run makes the rows those of the streams in which the odd last value of
a level is reduced with itself, leaves no sample waiting, and fixes what the
correlator reports.
-/
theorem finalize_completes_streams
    {sourceA : Source}
    {sourceB : Option Source}
    {config : Config R}
    {interval : Nat}
    {start final : Accumulator R}
    {requests : List (Request R)}
    (created :
      Accumulator.correlator sourceA sourceB config interval = .ok start)
    (performed : start.performAll requests = .ok final)
    (goesOn : Request.finalize ∉ requests) :
    ∃ running concluded,
      final.statistic = .correlator running ∧
      final.perform .finalize = .ok concluded ∧
      concluded.statistic = .correlator running.finalize ∧
      (∀ level < running.finalize.depth,
        ∃ range,
          running.finalize.lags[level]? = some range ∧
          ∀ lag,
            range.first ≤ lag →
            lag < range.stop →
            let raw :=
              arrivals config.operation sourceA.id (sourceB.getD sourceA).id
                config.arguments requests
            let closing :=
              { config with
                arguments := argumentsAfter config.arguments requests }.rules
            running.finalize.rows[range.row lag]? =
              some (directRow running.valueShape.size
                  (finalStream closing raw level) lag)) ∧
      (∀ level ∈ running.finalize.hierarchy, level.history.unpaired = none) ∧
      running.finalize.hierarchy.head?.map (·.rows) =
        running.hierarchy.head?.map (·.rows) ∧
      running.finalize.count = running.count ∧
      running.finalize.meanA = running.meanA ∧
      running.finalize.meanB = running.meanB ∧
      ∀ (pool : Pool R) (id : AccumulatorId),
        pool.get? id = some concluded →
        ∀ events,
          ∃ later correlator,
            (pool.afterAll events).get? id = some later ∧
            later.statistic = .correlator correlator ∧
            correlator.report = running.finalize.report := by
  rcases Accumulator.correlator_ok created with ⟨initial, kind, made⟩
  rcases made.records.performAll kind performed goesOn with
    ⟨running, reached, same, arguments, records⟩
  rw [made.arrivalsOf_eq, List.nil_append] at records
  rcases running.finalize_count_means with ⟨count, meanA, meanB⟩
  refine ⟨running, _, reached, Accumulator.perform_finalize reached, rfl, ?_,
    records.settled.2, running.head?_rows_finalize, count, meanA, meanB, ?_⟩
  · intro level below
    rcases Correlator.exists_range below with ⟨range, present⟩
    refine ⟨range, present, ?_⟩
    intro lag least covered raw closing
    have ended := Correlator.sameSetup_finalize running
    have stands := (records.row_finalize (made.fits (same.trans ended))
      (made.laidOut (same.trans ended)) present least covered).1
    rw [ended.valueShape, made.rules_eq same arguments] at stands
    exact stands
  · intro pool id present events
    rcases Pool.get?_afterAll present events with ⟨later, found, reaches⟩
    rcases reaches.report rfl running.isFinalized_finalize with
      ⟨correlator, kept, unchanged⟩
    exact ⟨later, correlator, found, kept, unchanged⟩

theorem finalize_completes_streams_trial :
    ∃ (start final concluded : Accumulator Float) (running : Correlator Float),
      Accumulator.correlator (trialSource 0) (some (trialSource 1))
          trialConfig 2 =
        .ok start ∧
      start.performAll trialRequests = .ok final ∧
      Request.finalize ∉ trialRequests ∧
      final.perform .finalize = .ok concluded ∧
      concluded.statistic = .correlator running.finalize ∧
      (∀ level < running.finalize.depth,
        ∃ range,
          running.finalize.lags[level]? = some range ∧
          ∀ lag,
            range.first ≤ lag →
            lag < range.stop →
            running.finalize.rows[range.row lag]? =
              some (directRow running.valueShape.size
                  (finalStream
                    { trialConfig with
                      arguments :=
                        argumentsAfter trialConfig.arguments
                          trialRequests }.rules
                    (arrivals .tensorProduct ⟨0⟩ ⟨1⟩ trialConfig.arguments
                      trialRequests) level) lag)) ∧
      ∀ events,
        ∃ later correlator,
          ((Pool.mk #[concluded]).afterAll events).get? ⟨0⟩ = some later ∧
          later.statistic = .correlator correlator ∧
          correlator.report = running.finalize.report := by
  rcases trial_accepted with ⟨start, final, created, performed⟩
  rcases finalize_completes_streams created performed
      finalize_notMem_trialRequests with
    ⟨running, concluded, _, ended, kind, table, _, _, _, _, _, frozen⟩
  exact ⟨start, final, concluded, running, created, performed,
    finalize_notMem_trialRequests, ended, kind, table,
    frozen ⟨#[concluded]⟩ ⟨0⟩ rfl⟩

end RunningStatistics
