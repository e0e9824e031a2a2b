import RunningStatistics.Proofs.Deliveries
import RunningStatistics.Proofs.Events
import RunningStatistics.Proofs.RegistryPasses

/-!
# Sampling by a registry

A simulation steps along, and at every step a registry updates the accumulators
that are due.  An accumulator that is registered all the time ends in the state
that its owner reaches by handing over the values of its sources at the due
steps, one after the other.

The direct run uses no registry, no pool and no interval.  Between the steps
the sources may be rewritten, the intervals changed, and other accumulators
registered or taken off.

A series of one interval records what its source delivered at the multiples of
the interval.
-/

namespace RunningStatistics

variable {R : Type}

variable [Scalar R] [Exponential R]

/-! ## Changes of intervals -/

/-- A change of the interval of an accumulator. -/
inductive IntervalChange where
  /--
  Asked of the accumulator, which refuses if its lags depend on the interval.
  -/
  | adjust (interval : Nat)
  /-- Made behind the back of the accumulator. -/
  | reschedule (interval : Nat)

namespace IntervalChange

/-- The request for a change. -/
def request : IntervalChange → Request R
  | adjust interval => .setInterval interval
  | reschedule interval => .reschedule interval

/--
The interval after a change, which is refused if it is zero or the interval is
fixed.
-/
def settle (fixed : Bool) (interval : Nat) : IntervalChange → Nat
  | adjust requested => if fixed || requested == 0 then interval else requested
  | reschedule requested => if requested == 0 then interval else requested

end IntervalChange

/--
Whether the interval of a statistic is fixed, because its lags depend on it.
-/
def Statistic.isFixed : Statistic R → Bool
  | correlator _ => true
  | _ => false

namespace Accumulator

/--
An accumulator with the statistic and the count of another one, and an interval
of its own.
-/
structure Agrees
    (accumulator other : Accumulator R)
    (interval : Nat) : Prop where
  statistic : accumulator.statistic = other.statistic
  updates : accumulator.updates = other.updates
  interval : accumulator.sampling.interval = interval

variable {accumulator other : Accumulator R} {interval : Nat}

omit [Scalar R] [Exponential R] in
theorem Agrees.accept
    (agrees : accumulator.Agrees other interval)
    (statistic : Statistic R) :
    (accumulator.accept statistic).Agrees
      (other.accept statistic) interval where
  statistic := rfl
  updates := congrArg (· + 1) agrees.updates
  interval := agrees.interval

/-- An update does the same to both, for it does not look at the interval. -/
theorem Agrees.update
    (agrees : accumulator.Agrees other interval)
    (readings : Readings R) :
    (accumulator.after (.update readings)).Agrees
      (other.after (.update readings)) interval := by
  rw [after_update, after_update, agrees.statistic]
  cases other.statistic.update readings with
  | error cause => exact agrees
  | ok statistic => exact agrees.accept statistic

theorem Agrees.reschedule
    (agrees : accumulator.Agrees other interval)
    (requested : Nat) :
    (accumulator.after (.reschedule requested)).Agrees other
      (if requested == 0 then interval else requested) := by
  cases requested with
  | zero => exact agrees
  | succ requested => exact ⟨agrees.statistic, agrees.updates, rfl⟩

/-- A correlator refuses every other interval. -/
theorem after_setInterval_of_fixed
    {accumulator : Accumulator R}
    (fixed : accumulator.statistic.isFixed = true)
    (requested : Nat) :
    accumulator.after (.setInterval requested) = accumulator := by
  rcases accumulator with ⟨sampling, statistic⟩
  cases statistic with
  | correlator correlator => rfl
  | moments moments => cases fixed
  | series series => cases fixed

theorem after_setInterval_of_adjustable
    {accumulator : Accumulator R}
    (adjustable : accumulator.statistic.isFixed = false)
    (requested : Nat) :
    accumulator.after (.setInterval requested) =
      accumulator.after (.reschedule requested) := by
  rcases accumulator with ⟨sampling, statistic⟩
  cases statistic with
  | correlator correlator => cases adjustable
  | moments moments => rfl
  | series series => rfl

/-- A change of the interval concerns the first accumulator alone. -/
theorem Agrees.change
    (agrees : accumulator.Agrees other interval)
    (change : IntervalChange) :
    (accumulator.after change.request).Agrees other
      (change.settle other.statistic.isFixed interval) := by
  cases change with
  | reschedule requested => exact agrees.reschedule requested
  | adjust requested =>
      rw [IntervalChange.request, IntervalChange.settle, ← agrees.statistic]
      cases fixed : accumulator.statistic.isFixed with
      | true =>
          rw [after_setInterval_of_fixed fixed]
          exact agrees
      | false =>
          rw [after_setInterval_of_adjustable fixed]
          exact agrees.reschedule requested

end Accumulator

/-! ## What a step does to one accumulator -/

/-- No accumulator is held by anyone else. -/
def unheld : Holds :=
  fun _ => .free

/-- The accumulator after a step at which it is registered. -/
def Accumulator.sampled
    (accumulator : Accumulator R)
    (readings : Readings R)
    (step : Nat) :
    Accumulator R :=
  if accumulator.sampling.isDue step then
    accumulator.after (.update readings)
  else
    accumulator

/--
At a step, the registered accumulator is fed if and only if the interval
divides the step.
-/
theorem Accumulator.Agrees.sampled
    {accumulator other : Accumulator R}
    {interval : Nat}
    (agrees : accumulator.Agrees other interval)
    (readings : Readings R)
    (step : Nat) :
    (accumulator.sampled readings step).Agrees
      (if interval ∣ step then other.after (.update readings) else other)
      interval := by
  have due : accumulator.sampling.isDue step = true ↔ interval ∣ step := by
    rw [← agrees.interval]
    exact accumulator.sampling.isDue_iff_dvd step
  rw [Accumulator.sampled]
  simp only [due]
  split
  · exact agrees.update readings
  · exact agrees

namespace Registry

theorem get?_visit_self
    {pool : Pool R}
    {id : AccumulatorId}
    {accumulator : Accumulator R}
    (present : pool.get? id = some accumulator)
    (readings : Readings R)
    (step : Nat) :
    (visit readings unheld step pool id).1.get? id =
      some (accumulator.sampled readings step) := by
  rw [visit, Accumulator.sampled, Accumulator.after, Accumulator.perform]
  simp only [present, unheld]
  split
  · cases accumulator.update readings with
    | error cause => exact present
    | ok next => exact Pool.get?_set_self pool next present
  · exact present

/-- Among the accumulators that a registry visits, each one is visited once. -/
theorem get?_visitAll_of_mem
    {ids : List AccumulatorId}
    (nodup : ids.Nodup)
    {pool : Pool R}
    {id : AccumulatorId}
    {accumulator : Accumulator R}
    (registered : id ∈ ids)
    (present : pool.get? id = some accumulator)
    (readings : Readings R)
    (step : Nat) :
    (visitAll readings unheld step ids pool).1.get? id =
      some (accumulator.sampled readings step) := by
  rw [(visitAll_eq readings unheld step nodup pool).2 id registered]
  exact get?_visit_self present readings step

end Registry

/-! ## Timelines -/

/-- What happens around the accumulators of a pool, step by step. -/
structure Timeline (R : Type) where
  /-- The changes of intervals before a step, in turn. -/
  changes : Nat → List (AccumulatorId × IntervalChange)
  /-- The accumulators that are registered at a step. -/
  registry : Nat → Registry
  /-- What the sources deliver at a step. -/
  readings : Nat → Readings R

namespace Timeline

/-- What happens to the accumulators of a pool at a step. -/
def events (timeline : Timeline R) (step : Nat) : List (Event R) :=
  ((timeline.changes step).map fun change =>
    .request change.1 change.2.request) ++
    [.step (timeline.registry step) (timeline.readings step) unheld step]

/-- The changes of the interval of one accumulator before a step. -/
def changesOf
    (timeline : Timeline R)
    (id : AccumulatorId)
    (step : Nat) :
    List IntervalChange :=
  ((timeline.changes step).filter (·.1 == id)).map (·.2)

/-- The interval of an accumulator after consecutive steps. -/
def intervalAfter
    (timeline : Timeline R)
    (id : AccumulatorId)
    (start : Accumulator R)
    (first count : Nat) : Nat :=
  ((List.range' first count).flatMap (timeline.changesOf id)).foldl
    (IntervalChange.settle start.statistic.isFixed) start.sampling.interval

/-- The interval that an accumulator has at a step. -/
def intervalAt
    (timeline : Timeline R)
    (id : AccumulatorId)
    (start : Accumulator R)
    (first step : Nat) : Nat :=
  timeline.intervalAfter id start first (step + 1 - first)

/--
The steps, of consecutive ones, that are multiples of the interval of an
accumulator then.
-/
def dueSteps
    (timeline : Timeline R)
    (id : AccumulatorId)
    (start : Accumulator R)
    (first count : Nat) :
    List Nat :=
  (List.range' first count).filter fun step =>
    timeline.intervalAt id start first step ∣ step

omit [Scalar R] [Exponential R] in
theorem intervalAfter_succ
    (timeline : Timeline R)
    (id : AccumulatorId)
    (start : Accumulator R)
    (first count : Nat) :
    timeline.intervalAfter id start first (count + 1) =
      (timeline.changesOf id (first + count)).foldl
        (IntervalChange.settle start.statistic.isFixed)
        (timeline.intervalAfter id start first count) := by
  rw [intervalAfter, List.range'_1_concat, List.flatMap_append,
    List.foldl_append, List.flatMap_singleton]
  rfl

omit [Scalar R] [Exponential R] in
/-- A further step is due if the interval in force at it divides it. -/
theorem dueSteps_succ
    (timeline : Timeline R)
    (id : AccumulatorId)
    (start : Accumulator R)
    (first count : Nat) :
    timeline.dueSteps id start first (count + 1) =
      timeline.dueSteps id start first count ++
        if timeline.intervalAfter id start first (count + 1) ∣
              first + count then
          [first + count]
        else
          [] := by
  have last : timeline.intervalAt id start first (first + count) =
      timeline.intervalAfter id start first (count + 1) := by
    rw [intervalAt, Nat.add_assoc, Nat.add_sub_cancel_left]
  rw [dueSteps, List.range'_1_concat, List.filter_append,
    List.filter_cons, last]
  simp only [decide_eq_true_eq, List.filter_nil, dueSteps]

omit [Scalar R] [Exponential R] in
/-- Under one interval throughout, the due steps are its multiples. -/
theorem dueSteps_of_constant
    {timeline : Timeline R}
    {id : AccumulatorId}
    {start : Accumulator R}
    {first count : Nat}
    (constant :
      ∀ step,
        first ≤ step →
        step < first + count →
        timeline.intervalAt id start first step = start.sampling.interval) :
    timeline.dueSteps id start first count =
      (List.range' first count).filter (start.sampling.interval ∣ ·) := by
  apply List.filter_congr
  intro step member
  rw [List.mem_range'_1] at member
  rw [constant step member.1 member.2]

end Timeline

/-! ## A pool along a timeline -/

namespace Pool

/-- The pool after consecutive steps. -/
def simulate
    (timeline : Timeline R)
    (first count : Nat)
    (pool : Pool R) :
    Pool R :=
  pool.afterAll ((List.range' first count).flatMap timeline.events)

theorem afterAll_append
    (pool : Pool R)
    (earlier later : List (Event R)) :
    pool.afterAll (earlier ++ later) = (pool.afterAll earlier).afterAll later :=
  List.foldl_append

/-- A timeline is followed one step at a time. -/
theorem simulate_succ
    (timeline : Timeline R)
    (first count : Nat)
    (pool : Pool R) :
    pool.simulate timeline first (count + 1) =
      (pool.simulate timeline first count).afterAll
        (timeline.events (first + count)) := by
  rw [simulate, List.range'_1_concat, List.flatMap_append, afterAll_append,
    List.flatMap_singleton]
  rfl

theorem get?_after_request_self
    {pool : Pool R}
    {id : AccumulatorId}
    {accumulator : Accumulator R}
    (present : pool.get? id = some accumulator)
    (request : Request R) :
    (pool.after (.request id request)).get? id =
      some (accumulator.after request) := by
  rw [after, Accumulator.after]
  simp only [present]
  cases accumulator.perform request with
  | error refusal => exact present
  | ok next => exact get?_set_self pool next present

/-- A request to one accumulator leaves the other ones as they are. -/
theorem get?_after_request_ne
    (pool : Pool R)
    {id asked : AccumulatorId}
    (different : id ≠ asked)
    (request : Request R) :
    (pool.after (.request asked request)).get? id = pool.get? id := by
  rw [after]
  split
  · rfl
  · split
    · exact get?_set_ne pool _ different
    · rfl

/--
Changes of intervals concern the accumulator that they name and touch nothing
else of it.
-/
theorem get?_afterAll_changes
    (changes : List (AccumulatorId × IntervalChange))
    {pool : Pool R}
    {id : AccumulatorId}
    {accumulator other : Accumulator R}
    {interval : Nat}
    (present : pool.get? id = some accumulator)
    (agrees : accumulator.Agrees other interval) :
    ∃ next,
      (pool.afterAll
        (changes.map fun change => .request change.1 change.2.request)).get?
          id =
        some next ∧
      next.Agrees other
        (((changes.filter (·.1 == id)).map (·.2)).foldl
          (IntervalChange.settle other.statistic.isFixed) interval) := by
  induction changes generalizing pool accumulator interval with
  | nil => exact ⟨accumulator, present, agrees⟩
  | cons change rest hypothesis =>
      rcases change with ⟨asked, change⟩
      by_cases concerned : asked = id
      · subst concerned
        rw [List.filter_cons_of_pos (by simp)]
        exact hypothesis (get?_after_request_self present change.request)
          (agrees.change change)
      · rw [List.filter_cons_of_neg (by simpa using concerned)]
        exact hypothesis
          ((get?_after_request_ne pool (Ne.symm concerned) _).trans present)
          agrees

end Pool

/-! ### The direct run -/

namespace Accumulator

/--
The accumulator after its owner has handed over what its sources deliver, time
after time.
-/
def feedAll
    (accumulator : Accumulator R)
    (moments : List (Readings R)) :
    Accumulator R :=
  moments.foldl feed accumulator

theorem isComplete_feedAll
    {accumulator : Accumulator R}
    (complete : accumulator.statistic.IsComplete)
    (moments : List (Readings R)) :
    (accumulator.feedAll moments).statistic.IsComplete := by
  induction moments generalizing accumulator with
  | nil => exact complete
  | cons readings rest hypothesis =>
      exact hypothesis (isComplete_after complete _)

theorem isFixed_after_update
    (accumulator : Accumulator R)
    (readings : Readings R) :
    (accumulator.after (.update readings)).statistic.isFixed =
      accumulator.statistic.isFixed := by
  rw [after_update]
  cases updated : accumulator.statistic.update readings with
  | error cause => rfl
  | ok statistic =>
      cases kind : accumulator.statistic with
      | moments moments =>
          rw [kind] at updated
          rcases map_ok (Statistic.update_moments updated) with ⟨_, _, rfl⟩
          rfl
      | series series =>
          rw [kind] at updated
          rcases map_ok (Statistic.update_series updated) with ⟨_, _, rfl⟩
          rfl
      | correlator correlator =>
          rw [kind] at updated
          rcases map_ok updated with ⟨_, _, rfl⟩
          rfl

theorem isFixed_feedAll
    {accumulator : Accumulator R}
    (complete : accumulator.statistic.IsComplete)
    (moments : List (Readings R)) :
    (accumulator.feedAll moments).statistic.isFixed =
      accumulator.statistic.isFixed := by
  induction moments generalizing accumulator with
  | nil => rfl
  | cons readings rest hypothesis =>
      rw [← isFixed_after_update accumulator readings,
        ← feed_eq_after_update complete]
      exact hypothesis (isComplete_after complete _)

/-- A series that is fed records every delivery of the right length. -/
theorem feedAll_series
    {accumulator : Accumulator R}
    {series : Series R}
    (kind : accumulator.statistic = .series series)
    (moments : List (Readings R)) :
    ∃ record,
      (accumulator.feedAll moments).statistic = .series record ∧
      record.samples.toList =
        series.samples.toList ++
          (moments.map (· series.binding.source)).filter
            (·.length = series.binding.length) := by
  induction moments generalizing accumulator series with
  | nil => exact ⟨series, kind, by simp⟩
  | cons readings rest hypothesis =>
      have fed : accumulator.feed readings =
          accumulator.after (.add (readings series.binding.source)) := by
        rw [feed, handOver, kind]
      by_cases fits : series.binding.length =
        (readings series.binding.source).length
      · have recorded :
            (accumulator.feed readings).statistic =
              .series { series with
                samples :=
                  series.samples.push (readings series.binding.source) } := by
          rw [fed, after, perform, add, kind, Statistic.add, Series.add, fits,
            requireLength_self]
          rfl
        rcases hypothesis recorded with ⟨record, reached, samples⟩
        refine ⟨record, reached, ?_⟩
        rw [samples, List.map_cons,
          List.filter_cons_of_pos (by simpa using fits.symm)]
        simp
      · have refused :
            (accumulator.feed readings).statistic = .series series := by
          rw [fed, after, perform, add, kind, Statistic.add,
            Series.add_of_misfit fits]
          exact kind
        rw [List.map_cons,
          List.filter_cons_of_neg (by simpa using Ne.symm fits)]
        exact hypothesis refused

end Accumulator

/-! ## Sampling is feeding -/

/--
After any number of steps, the accumulator is what feeding it the due readings
makes of it, up to its interval.
-/
theorem Pool.get?_simulate
    (timeline : Timeline R)
    {pool : Pool R}
    {id : AccumulatorId}
    {start : Accumulator R}
    (present : pool.get? id = some start)
    (complete : start.statistic.IsComplete)
    (first count : Nat)
    (registered :
      ∀ step,
        first ≤ step →
        step < first + count →
        id ∈ (timeline.registry step).entries) :
    ∃ final,
      (pool.simulate timeline first count).get? id = some final ∧
      final.Agrees
        (start.feedAll
          ((timeline.dueSteps id start first count).map timeline.readings))
        (timeline.intervalAfter id start first count) := by
  induction count with
  | zero => exact ⟨start, present, rfl, rfl, rfl⟩
  | succ count hypothesis =>
      rcases hypothesis fun step lower upper =>
          registered step lower (by omega) with
        ⟨middle, there, agrees⟩
      let due := (timeline.dueSteps id start first count).map timeline.readings
      rcases get?_afterAll_changes (timeline.changes (first + count))
          there agrees with ⟨changed, kept, agrees⟩
      rw [Accumulator.isFixed_feedAll complete due, ← Timeline.changesOf,
        ← Timeline.intervalAfter_succ] at agrees
      have here := registered (first + count) (by omega) (by omega)
      refine ⟨changed.sampled (timeline.readings (first + count))
          (first + count), ?_, ?_⟩
      · rw [simulate_succ, Timeline.events, afterAll_append]
        exact Registry.get?_visitAll_of_mem
          (timeline.registry (first + count)).nodup here kept _ _
      · have sampled :=
          agrees.sampled (timeline.readings (first + count)) (first + count)
        rw [← Accumulator.feed_eq_after_update
            (Accumulator.isComplete_feedAll complete due)] at sampled
        rw [Timeline.dueSteps_succ, List.map_append, Accumulator.feedAll,
          List.foldl_append]
        split at sampled
        next divides =>
          rw [if_pos divides]
          exact sampled
        next skipped =>
          rw [if_neg skipped]
          exact sampled

/--
An accumulator that a registry samples all the time ends with the statistic and
the count that its owner reaches by handing over what its sources delivered at
the due steps, in order.
-/
theorem sampling_feeds_due_readings
    (timeline : Timeline R)
    (pool : Pool R)
    (id : AccumulatorId)
    (start : Accumulator R)
    (present : pool.get? id = some start)
    (reachable : start.IsReachable)
    (first count : Nat)
    (registered :
      ∀ step,
        first ≤ step →
        step < first + count →
        id ∈ (timeline.registry step).entries) :
    ∃ final,
      (pool.simulate timeline first count).get? id = some final ∧
      final.Agrees
        (start.feedAll
          ((timeline.dueSteps id start first count).map timeline.readings))
        (timeline.intervalAfter id start first count) ∧
      ∀ series,
        start.statistic = .series series →
        (∀ step,
          first ≤ step →
          step < first + count →
          timeline.intervalAt id start first step = start.sampling.interval) →
        ∃ record,
          final.statistic = .series record ∧
          record.samples.toList =
            series.samples.toList ++
              (((List.range' first count).filter
                 (start.sampling.interval ∣ ·)).map
                (timeline.readings · series.binding.source)).filter
                (·.length = series.binding.length) := by
  rcases pool.get?_simulate timeline present reachable.isComplete first count
      registered with ⟨final, found, agrees⟩
  refine ⟨final, found, agrees, fun series kind constant => ?_⟩
  rcases Accumulator.feedAll_series kind
      ((timeline.dueSteps id start first count).map timeline.readings) with
    ⟨record, fed, samples⟩
  refine ⟨record, agrees.statistic.trans fed, ?_⟩
  rw [samples, Timeline.dueSteps_of_constant constant, List.map_map]
  rfl

/-! ## A trial -/

/-- A series of a source, sampled at every other step. -/
def trialSeries : Accumulator Float :=
  ⟨⟨2, 0, Nat.two_pos⟩,
    .series (.start ⟨(trialSource 0).id, (trialSource 0).shape, Nat.two_pos⟩)⟩

/-- The series beside moments of the same source. -/
def trialPool : Pool Float :=
  ⟨#[trialSeries, { trialSeries with statistic := .moments (.start
    ⟨(trialSource 0).id, (trialSource 0).shape, Nat.two_pos⟩) }]⟩

/-- Both are registered, and the interval of the moments changes on the way. -/
def trialTimeline : Timeline Float where
  changes step := if step = 4 then [(⟨1⟩, .adjust 3)] else []
  registry _ := ⟨[⟨0⟩, ⟨1⟩], by decide⟩
  readings step source := [Scalar.ofNat step, Scalar.ofNat source.index]

theorem sampling_feeds_due_readings_trial :
    ∃ final,
      (trialPool.simulate trialTimeline 1 6).get? ⟨0⟩ = some final ∧
      final.Agrees
        (trialSeries.feedAll ([2, 4, 6].map trialTimeline.readings)) 2 ∧
      ∃ record,
        final.statistic = .series record ∧
        record.samples.toList =
          [2, 4, 6].map fun step => [Scalar.ofNat step, Scalar.ofNat 0] := by
  have created : Accumulator.series (trialSource 0) 2 = .ok trialSeries := rfl
  have due : trialTimeline.dueSteps ⟨0⟩ trialSeries 1 6 = [2, 4, 6] := by decide
  have interval : trialTimeline.intervalAfter ⟨0⟩ trialSeries 1 6 = 2 := by
    decide
  rcases sampling_feeds_due_readings trialTimeline trialPool ⟨0⟩ trialSeries rfl
      (.series created) 1 6 (fun _ _ _ => by simp [trialTimeline]) with
    ⟨final, found, agrees, series⟩
  rw [due, interval] at agrees
  have constant : ∀ step, 1 ≤ step → step < 1 + 6 →
      trialTimeline.intervalAt ⟨0⟩ trialSeries 1 step = 2 := by decide
  rcases series _ rfl constant with ⟨record, kind, samples⟩
  refine ⟨final, found, agrees, record, kind, ?_⟩
  rw [samples]
  decide

end RunningStatistics
