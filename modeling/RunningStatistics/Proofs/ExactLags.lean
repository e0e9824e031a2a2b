import RunningStatistics.Proofs.Courses
import RunningStatistics.Proofs.DiscardingStreams
import RunningStatistics.Scalar.Rational
import Mathlib.Algebra.Field.Rat

/-!
# Exact lags

Under a rule that discards one of two values, every contribution to the table of
a correlator comes from two raw samples.  While a run goes on they are the lag
of the row apart, so that uniform motion has the exact square distance at each
lag.

Ending the run keeps this where the older value is kept.  Where the newer one is
kept, a block that falls short makes its lag too short, and only the levels
whose blocks are all full stay exact.

The contributions are traced in any arithmetic, the square distances in the
exact one.  Where both streams keep the older value, the end of the run adds at
most one more contribution of this kind to a row.  Where both keep the newer
one, what it adds to a row of a level comes from the last raw sample and an
earlier one that is too close to it, by the samples that the last block of the
level lacks.  A level whose blocks are all full gains nothing.
-/

namespace RunningStatistics

open Relation (ReflTransGen)

/-! ## Lags and levels -/

/--
The lag of a row in sampling intervals, which is not zero at a coarse level.
-/
theorem Correlator.Created.lag_parts
    {R : Type}
    [Scalar R]
    [Exponential R]
    {initial correlator : Correlator R}
    {sourceA : Source}
    {sourceB : Option Source}
    {config : Config R}
    {interval : Nat}
    (made : initial.Created sourceA sourceB config interval)
    (same : initial.SameSetup correlator)
    {level : Nat}
    {range : LagRange}
    (present : correlator.lags[level]? = some range)
    {lag : Nat}
    (least : range.first ≤ lag)
    (below : lag < range.stop) :
    correlator.lagSteps[range.row lag]? = some (lag * 2 ^ level) ∧
    (level ≠ 0 → 0 < lag) := by
  have laid := made.laidOut same
  have steps := laid.getElem?_steps present least below
  rw [same.lags, made.lags] at present
  rcases LagGrid.getElem?_build present with ⟨_, place, rfl⟩
  constructor
  · rw [Correlator.lagSteps_eq, ← LagGrid.stride_eq]
    exact steps
  · intro coarse
    have wide := (Config.width_resolve made.sound interval).1
    rw [← made.resolved] at wide
    simp only [LagGrid.range, LagGrid.firstLag, if_neg coarse] at least
    omega

/-! ## Uniform motion -/

/--
Each component is its velocity times the time, counted in sampling intervals.
-/
def MovesUniformly (velocity : List Rat) (raw : List (Arrival Rat)) : Prop :=
  ∀ (time : Nat) (arrival : Arrival Rat), raw[time]? = some arrival →
    arrival.sample.a = velocity.map (· * (time : Rat)) ∧
      arrival.sample.b = velocity.map (· * (time : Rat))

theorem squaredDistance_rat (left right : Rat) :
    squaredDistance left right = (left - right) ^ 2 := by
  change (left - right) * (left - right) = _
  ring

/--
The square distance between two places of uniform motion depends on the time
between.
-/
theorem zipWith_squaredDistance
    (velocity : List Rat)
    (time steps : Rat) :
    List.zipWith squaredDistance (velocity.map (· * time))
        (velocity.map (· * (time + steps))) =
      velocity.map fun speed => (speed * steps) ^ 2 := by
  rw [List.zipWith_map, List.zipWith_self]
  apply List.map_congr_left
  intro speed _
  rw [squaredDistance_rat]
  ring

namespace Row

/--
All contributions to a row are the square distances of uniform motion at its
lag.
-/
def IsSteady (velocity : List Rat) (steps : Nat) (row : Row Rat) : Prop :=
  row.sums =
    velocity.map fun speed => (row.count : Rat) * (speed * (steps : Rat)) ^ 2

variable
    {velocity : List Rat}
    {steps : Nat}
    {row next : Row Rat}
    {raw : List (Arrival Rat)}

theorem isSteady_empty
    (velocity : List Rat)
    (steps : Nat) :
    IsSteady velocity steps (empty velocity.length) := by
  rw [IsSteady, empty, Scalar.zeros, ← List.map_const']
  apply List.map_congr_left
  intro speed _
  change (0 : Rat) = ((0 : Nat) : Rat) * _
  rw [Nat.cast_zero, zero_mul]

/-- One more contribution at the lag leaves a row steady. -/
theorem IsSteady.add (steady : IsSteady velocity steps row) :
    IsSteady velocity steps
      (row.add (velocity.map fun speed => (speed * (steps : Rat)) ^ 2)) := by
  rw [IsSteady, Row.add, steady, Scalar.addEach, List.zipWith_map,
    List.zipWith_self]
  apply List.map_congr_left
  intro speed _
  change _ + _ = ((row.count + 1 : Nat) : Rat) * _
  rw [Nat.cast_succ]
  ring

theorem IsSteady.gains
    (steady : IsSteady velocity steps row)
    (moves : MovesUniformly velocity raw)
    {terms : List Rat → List Rat → List Rat}
    (distances : terms = List.zipWith squaredDistance)
    {time : Nat}
    (gains : row.Gains raw terms time (time + steps) next) :
    IsSteady velocity steps next := by
  rcases gains with ⟨older, newer, stands, later, rfl⟩
  rw [distances, (moves _ _ stands).1, (moves _ _ later).2, Nat.cast_add,
    zipWith_squaredDistance]
  exact steady.add

theorem IsSteady.mean
    (steady : IsSteady velocity steps row)
    (populated : row.count ≠ 0) :
    row.mean = velocity.map fun speed => (speed * (steps : Rat)) ^ 2 := by
  rw [Row.mean, if_neg populated, Scalar.divideEach, steady, List.map_map]
  apply List.map_congr_left
  intro speed _
  exact mul_div_cancel_left₀ _ (Nat.cast_ne_zero.mpr populated)

/-- A row that is not empty has gained something from the raw stream. -/
theorem exists_mem_of_gainsAcross
    {R : Type}
    [Scalar R]
    {raw : List (Arrival R)}
    {steps width : Nat}
    {row : Row R}
    (gained : ReflTransGen (GainsAcross raw steps) (empty width) row)
    (populated : row.count ≠ 0) :
    ∃ arrival, arrival ∈ raw := by
  cases gained with
  | refl => exact absurd rfl populated
  | tail _ last =>
      rcases last with ⟨latest, among, _⟩
      exact ⟨latest, among⟩

/-- Contributions at the lag of a row leave it steady. -/
theorem isSteady_of_gainsAcross
    (moves : MovesUniformly velocity raw)
    (distances : ∀ latest ∈ raw, latest.terms = List.zipWith squaredDistance)
    (gained :
      ReflTransGen (GainsAcross raw steps) (empty velocity.length) row) :
    IsSteady velocity steps row := by
  induction gained with
  | refl => exact isSteady_empty velocity steps
  | tail _ last steady =>
      rcases last with ⟨latest, among, time, gains⟩
      exact steady.gains moves (distances latest among) gains

end Row

/-! ## The tables of a run -/

namespace Correlator

variable {R : Type} [Scalar R] [Exponential R]

/--
What the end of a run adds to the row of a lag: a pair of raw samples at the lag
where the older value is kept, and otherwise the last raw sample with one closer
than the lag.
-/
structure Concludes
    (rule : Compression)
    (raw : List (Arrival R))
    (closing : List R → List R → List R)
    (level lag : Nat)
    (before after : Row R) : Prop where
  keepOlder : rule = .keepOlder → after = before ∨
    ∃ time, before.Gains raw closing time (time + lag * 2 ^ level) after
  keepNewer :
    rule = .keepNewer →
    after = before ∨
    ¬2 ^ level ∣ raw.length ∧
    ∃ time,
      time + lag * 2 ^ level + 1 = (raw.length / 2 ^ level + 1) * 2 ^ level ∧
      before.Gains raw closing time (raw.length - 1) after

end Correlator

namespace Correlator

section Tables

variable
    {R : Type}
    [Scalar R]
    [Exponential R]
    {initial running : Correlator R}
    {sourceA : Source}
    {sourceB : Option Source}
    {config : Config R}
    {interval : Nat}
    {rule : Compression}
    {raw : List (Arrival R)}

/--
The row of a lag, and the result there, before and after the end of a run.
-/
theorem Created.exists_rows
    (made : initial.Created sourceA sourceB config interval)
    (same : initial.SameSetup running)
    (records : running.Records raw)
    (discards : rule.Discards running.config.rules.reduce)
    {level : Nat}
    {range : LagRange}
    (present : running.lags[level]? = some range)
    {lag : Nat}
    (least : range.first ≤ lag)
    (below : lag < range.stop) :
    ∃ before after,
      running.rows[range.row lag]? = some before ∧
      running.result.row (range.row lag) = before.mean ∧
      running.finalize.rows[range.row lag]? = some after ∧
      running.finalize.result.row (range.row lag) = after.mean ∧
      ReflTransGen (Row.GainsAcross raw (lag * 2 ^ level))
        (Row.empty running.valueShape.size) before ∧
      Concludes rule raw running.config.rules.terms level lag before after := by
  have ended := sameSetup_finalize running
  have carried : running.finalize.lags[level]? = some range := by
    rw [ended.lags]
    exact present
  rcases records.row (made.fits same) (made.laidOut same) present
      least below with
    ⟨stands, _, mean⟩
  rcases records.row_finalize (made.fits (same.trans ended))
      (made.laidOut (same.trans ended)) carried least below with
    ⟨concluded, _, meanAfter⟩
  rw [ended.valueShape] at concluded meanAfter
  refine ⟨_, _, stands, mean, concluded, meanAfter,
    gainsAcross_levelStream discards _ _, ?_, ?_⟩
  · rintro rfl
    exact gains_finalStream_keepOlder discards _ _
  · rintro rfl
    exact gains_finalStream_keepNewer discards _
      (made.lag_parts same present least below).2

end Tables

/-! ### Square distances -/

variable [Exponential Rat] {running : Correlator Rat} {raw : List (Arrival Rat)}
  {velocity : List Rat}

theorem Records.terms_eq
    (records : running.Records raw)
    (distances : running.config.operation = .squareDistance) :
    ∀ latest ∈ raw, latest.terms = List.zipWith squaredDistance := by
  intro latest among
  rcases (records.suits latest among).terms with ⟨arguments, terms⟩
  rw [terms, distances]
  rfl

/-- There are as many components as velocities, once a sample has arrived. -/
theorem Records.size_valueShape
    (records : running.Records raw)
    (fits :
      running.config.operation.valueShape running.lengthA running.lengthB =
        .ok running.valueShape)
    (distances : running.config.operation = .squareDistance)
    (moves : MovesUniformly velocity raw)
    {arrival : Arrival Rat}
    (among : arrival ∈ raw) :
    running.valueShape.size = velocity.length := by
  rcases List.mem_iff_getElem?.mp among with ⟨time, stands⟩
  rcases moves time arrival stands with ⟨placeA, placeB⟩
  have suits := records.suits arrival among
  have length :=
    Operation.length_terms fits running.config.arguments suits.fitsA suits.fitsB
  rw [distances, placeA, placeB] at length
  rw [← length]
  simp [Operation.terms]

/--
Where all contributions are at the lag, the mean of a row is the exact square
distance.
-/
theorem Records.mean_of_motion
    (records : running.Records raw)
    (fits :
      running.config.operation.valueShape running.lengthA running.lengthB =
        .ok running.valueShape)
    (distances : running.config.operation = .squareDistance)
    (moves : MovesUniformly velocity raw)
    {rule : Compression}
    {level lag : Nat}
    {before after : Row Rat}
    (gained :
      ReflTransGen (Row.GainsAcross raw (lag * 2 ^ level))
        (Row.empty running.valueShape.size) before)
    (concludes :
      Concludes rule raw running.config.rules.terms level lag before after) :
    (before.count ≠ 0 →
     before.mean =
       velocity.map fun speed =>
         (speed * ((lag * 2 ^ level : Nat) : Rat)) ^ 2) ∧
    (after.count ≠ 0 →
     (rule = .keepOlder ∨ rule = .keepNewer ∧ 2 ^ level ∣ raw.length) →
     after.mean =
       velocity.map fun speed =>
         (speed * ((lag * 2 ^ level : Nat) : Rat)) ^ 2) := by
  have steady :
      ∀ arrival ∈ raw, before.IsSteady velocity (lag * 2 ^ level) := by
    intro arrival among
    rw [records.size_valueShape fits distances moves among] at gained
    exact Row.isSteady_of_gainsAcross moves (records.terms_eq distances) gained
  have exactBefore :
      before.count ≠ 0 →
      before.mean =
        velocity.map fun speed =>
          (speed * ((lag * 2 ^ level : Nat) : Rat)) ^ 2 := by
    intro populated
    rcases Row.exists_mem_of_gainsAcross gained populated with ⟨arrival, among⟩
    exact (steady arrival among).mean populated
  have closing : running.config.rules.terms = List.zipWith squaredDistance := by
    rw [Config.rules, distances]
    rfl
  refine ⟨exactBefore, ?_⟩
  rintro populated (older | ⟨newer, whole⟩)
  · rcases concludes.keepOlder older with unchanged | ⟨time, gains⟩
    · rw [unchanged] at populated ⊢
      exact exactBefore populated
    · have among : ∃ arrival, arrival ∈ raw := by
        rcases gains with ⟨arrival, _, stands, _⟩
        exact ⟨arrival, List.mem_of_getElem? stands⟩
      rcases among with ⟨arrival, among⟩
      exact ((steady arrival among).gains moves closing gains).mean populated
  · rcases concludes.keepNewer newer with unchanged | ⟨unfinished, _⟩
    · rw [unchanged] at populated ⊢
      exact exactBefore populated
    · exact absurd whole unfinished

end Correlator

/-! ## Runs under a discarding rule -/

/-- A run that goes on records what its requests handed over. -/
theorem Accumulator.exists_run
    {R : Type}
    [Scalar R]
    [Exponential R]
    {sourceA : Source}
    {sourceB : Option Source}
    {config : Config R}
    {interval : Nat}
    {start final : Accumulator R}
    {requests : List (Request R)}
    (created :
      Accumulator.correlator sourceA sourceB config interval = .ok start)
    (performed : start.performAll requests = .ok final)
    (goesOn : Request.finalize ∉ requests) :
    ∃ initial running : Correlator R,
      final.statistic = .correlator running ∧
      initial.Created sourceA sourceB config interval ∧
      initial.SameSetup running ∧
      running.config.rules =
        { config with
          arguments := argumentsAfter config.arguments requests }.rules ∧
      running.Records
        (arrivals config.operation sourceA.id (sourceB.getD sourceA).id
          config.arguments requests) := by
  rcases correlator_ok created with ⟨initial, kind, made⟩
  rcases made.records.performAll kind performed goesOn with
    ⟨running, reached, same, arguments, records⟩
  rw [made.arrivalsOf_eq, List.nil_append] at records
  exact ⟨initial, running, reached, made, same, made.rules_eq same arguments,
    records⟩

/--
Under a discarding rule, what such a run reduces is discarded by the rule.
-/
theorem Accumulator.exists_discarding_run
    {R : Type}
    [Scalar R]
    [Exponential R]
    {rule : Compression}
    {sourceA : Source}
    {sourceB : Option Source}
    {config : Config R}
    {interval : Nat}
    {start final : Accumulator R}
    {requests : List (Request R)}
    (discarding : rule ≠ .average)
    (ruleA : config.compressionA = rule)
    (ruleB : config.effectiveCompressionB = rule)
    (created :
      Accumulator.correlator sourceA sourceB config interval = .ok start)
    (performed : start.performAll requests = .ok final)
    (goesOn : Request.finalize ∉ requests) :
    ∃ initial running : Correlator R,
      final.statistic = .correlator running ∧
      initial.Created sourceA sourceB config interval ∧
      initial.SameSetup running ∧
      running.config.rules =
        { config with
          arguments := argumentsAfter config.arguments requests }.rules ∧
      rule.Discards running.config.rules.reduce ∧
      running.Records
        (arrivals config.operation sourceA.id (sourceB.getD sourceA).id
          config.arguments requests) := by
  rcases exists_run created performed goesOn with
    ⟨initial, running, reached, made, same, rules, records⟩
  refine ⟨initial, running, reached, made, same, rules, ?_, records⟩
  rw [made.reduces same]
  exact Config.discards_reduce discarding ruleA ruleB

/--
Under a discarding rule the contributions to a row come from raw samples that
are its lag apart, and uniform motion has the exact square distance; after the
end of a run too where blocks are full or older values are kept.
-/
theorem discarding_keeps_lags_exact :
    (∀ {R : Type} [Scalar R] [Exponential R] {rule : Compression}
        {sourceA : Source} {sourceB : Option Source} {config : Config R}
        {interval : Nat} {start final : Accumulator R}
        {requests : List (Request R)},
      rule ≠ .average →
      config.compressionA = rule →
      config.effectiveCompressionB = rule →
      Accumulator.correlator sourceA sourceB config interval = .ok start →
      start.performAll requests = .ok final →
      Request.finalize ∉ requests →
      ∃ running concluded,
        final.statistic = .correlator running ∧
        final.perform .finalize = .ok concluded ∧
        concluded.statistic = .correlator running.finalize ∧
        ∀ level < running.depth,
          ∃ range,
            running.lags[level]? = some range ∧
            ∀ lag,
              range.first ≤ lag →
              lag < range.stop →
              let raw :=
                arrivals config.operation sourceA.id (sourceB.getD sourceA).id
                  config.arguments requests
              let closing :=
                { config with
                  arguments :=
                    argumentsAfter config.arguments requests }.rules.terms
              ∃ before after,
                running.lagSteps[range.row lag]? = some (lag * 2 ^ level) ∧
                running.rows[range.row lag]? = some before ∧
                running.finalize.rows[range.row lag]? = some after ∧
                ReflTransGen (Row.GainsAcross raw (lag * 2 ^ level))
                  (Row.empty running.valueShape.size) before ∧
                (rule = .keepOlder →
                 after = before ∨
                 ∃ time,
                   before.Gains raw closing time
                     (time + lag * 2 ^ level) after) ∧
                (rule = .keepNewer →
                 after = before ∨
                 ¬2 ^ level ∣ raw.length ∧
                 ∃ time,
                   time + lag * 2 ^ level + 1 =
                     (raw.length / 2 ^ level + 1) * 2 ^ level ∧
                   before.Gains raw closing time (raw.length - 1) after)) ∧
    (∀ [Exponential Rat] {rule : Compression} {sourceA : Source}
        {sourceB : Option Source} {config : Config Rat} {interval : Nat}
        {start final : Accumulator Rat} {requests : List (Request Rat)}
        {velocity : List Rat},
      rule ≠ .average →
      config.compressionA = rule →
      config.effectiveCompressionB = rule →
      config.operation = .squareDistance →
      Accumulator.correlator sourceA sourceB config interval = .ok start →
      start.performAll requests = .ok final →
      Request.finalize ∉ requests →
      let raw :=
        arrivals config.operation sourceA.id (sourceB.getD sourceA).id
          config.arguments requests
      MovesUniformly velocity raw →
      ∃ running concluded,
        final.statistic = .correlator running ∧
        final.perform .finalize = .ok concluded ∧
        concluded.statistic = .correlator running.finalize ∧
        ∀ level < running.depth,
          ∃ range,
            running.lags[level]? = some range ∧
            ∀ lag,
              range.first ≤ lag →
              lag < range.stop →
              ∃ before after steps,
                running.lagSteps[range.row lag]? = some steps ∧
                running.rows[range.row lag]? = some before ∧
                running.finalize.rows[range.row lag]? = some after ∧
                (before.count ≠ 0 →
                 running.result.row (range.row lag) =
                   velocity.map fun speed => (speed * (steps : Rat)) ^ 2) ∧
                (after.count ≠ 0 →
                 (rule = .keepOlder ∨ 2 ^ level ∣ raw.length) →
                 running.finalize.result.row (range.row lag) =
                   velocity.map fun speed => (speed * (steps : Rat)) ^ 2)) := by
  constructor
  · intro R _ _ rule sourceA sourceB config interval start final requests
      discarding ruleA ruleB created performed goesOn
    rcases Accumulator.exists_discarding_run discarding ruleA ruleB created
        performed goesOn with
      ⟨initial, running, reached, made, same, rules, discards, records⟩
    refine ⟨running, _, reached, Accumulator.perform_finalize reached, rfl, ?_⟩
    intro level below
    rcases Correlator.exists_range below with ⟨range, present⟩
    refine ⟨range, present, ?_⟩
    intro lag least covered raw closing
    rcases made.exists_rows same records discards present least covered with
      ⟨before, after, stands, _, concluded, _, gained, concludes⟩
    rw [rules] at concludes
    exact ⟨before, after, (made.lag_parts same present least covered).1, stands,
      concluded, gained, concludes.keepOlder, concludes.keepNewer⟩
  · intro _ rule sourceA sourceB config interval start final requests velocity
      discarding ruleA ruleB distances created performed goesOn raw moves
    rcases Accumulator.exists_discarding_run discarding ruleA ruleB created
        performed goesOn with
      ⟨initial, running, reached, made, same, _, discards, records⟩
    refine ⟨running, _, reached, Accumulator.perform_finalize reached, rfl, ?_⟩
    intro level below
    rcases Correlator.exists_range below with ⟨range, present⟩
    refine ⟨range, present, ?_⟩
    intro lag least covered
    have squared : running.config.operation = .squareDistance := by
      rw [same.operation, made.resolved, Config.operation_resolve]
      exact distances
    rcases made.exists_rows same records discards present least covered with
      ⟨before, after, stands, mean, concluded, meanAfter, gained, concludes⟩
    rcases records.mean_of_motion (made.fits same) squared moves gained
        concludes with ⟨exactBefore, exactAfter⟩
    refine ⟨before, after, _, (made.lag_parts same present least covered).1,
      stands, concluded,
      fun populated => mean.trans (exactBefore populated), ?_⟩
    intro populated spared
    apply meanAfter.trans
    apply exactAfter populated
    rcases spared with older | whole
    · exact .inl older
    · cases rule with
      | keepOlder => exact .inl rfl
      | keepNewer => exact .inr ⟨rfl, whole⟩
      | average => exact absurd rfl discarding

/-! ## A trial -/

/--
The square distance of one coordinate on two levels, whose streams keep the
newer value.
-/
def trialMotion : Config Rat where
  largestLag := 4
  timeStep := 1
  linearWidth := 2
  operation := .squareDistance
  compressionA := .keepNewer
  compressionB := none
  arguments := ⟨0, 0, 0⟩

/-- Three places of a coordinate that moves by one in each sampling interval. -/
def trialPlaces : List (Request Rat) :=
  [.add [0], .add [1], .add [2]]

theorem movesUniformly_trialPlaces
    [Exponential Rat]
    (arguments : Axes Rat) :
    MovesUniformly [1]
      (arrivals .squareDistance ⟨0⟩ ⟨0⟩ arguments trialPlaces) := by
  intro time arrival stands
  rcases time with _ | _ | _ | time
  · cases stands
    constructor <;> simp
  · cases stands
    constructor <;> simp
  · cases stands
    constructor <;> norm_num
  · cases stands

/--
Where the newer value is kept, the end of a run can make a lag too short: of
three samples, the last one is left over, and the row of the lag two gains its
square distance to the one before.
-/
theorem ending_shortens_a_lag :
    ∃ (_ : Exponential Rat) (start final : Accumulator Rat)
        (running : Correlator Rat),
      Accumulator.correlator ⟨⟨0⟩, [1]⟩ none trialMotion 1 = .ok start ∧
      start.performAll trialPlaces = .ok final ∧
      final.statistic = .correlator running ∧
      MovesUniformly [1]
        (arrivals .squareDistance ⟨0⟩ ⟨0⟩ trialMotion.arguments trialPlaces) ∧
      running.finalize.lagSteps[2]? = some 2 ∧
      running.rows[2]? = some ⟨[0], 0⟩ ∧
      running.finalize.rows[2]? = some ⟨[1], 1⟩ ∧
      running.finalize.result.row 2 = [1] ∧
      ([1] : List Rat) ≠ [1].map (fun speed : Rat => (speed * (2 : Nat)) ^ 2) ∧
      ∀ terms arguments time,
        terms = Operation.squareDistance.terms arguments →
        ¬Row.Gains
          (arrivals .squareDistance ⟨0⟩ ⟨0⟩ trialMotion.arguments trialPlaces)
          terms time (time + 2) ⟨[0], 0⟩ ⟨[1], 1⟩ := by
  let exponential := Exponential.tangent
  have table :
      (Accumulator.run
        (Accumulator.correlator ⟨⟨0⟩, [1]⟩ none trialMotion 1)
        trialPlaces).toOption.bind
          (Accumulator.read? fun running =>
            (running.finalize.lagSteps[2]?, running.rows[2]?,
              running.finalize.rows[2]?, running.finalize.result.row 2)) =
        some (some 2, some ⟨[0], 0⟩, some ⟨[1], 1⟩, [1]) := by
    decide +kernel
  rcases Accumulator.exists_of_read? table with
    ⟨final, running, ran, kind, rows⟩
  rcases Accumulator.run_ok ran with ⟨start, created, performed⟩
  injection rows with steps rows
  injection rows with before rows
  injection rows with after result
  refine ⟨exponential, start, final, running, created, performed, kind,
    movesUniformly_trialPlaces _, steps, before, after, result,
    by decide +kernel, ?_⟩
  rintro terms arguments time rfl ⟨older, newer, stands, later, gained⟩
  rcases time with _ | time
  · cases stands
    cases later
    have sums :
        [1] =
          Scalar.addEach [0] (List.zipWith squaredDistance [(0 : Rat)] [2]) :=
      congrArg Row.sums gained
    revert sums
    decide +kernel
  · cases later

theorem discarding_keeps_lags_exact_trial :
    ∃ _ : Exponential Rat,
      (∃ (start final : Accumulator Rat) (running : Correlator Rat),
        Accumulator.correlator ⟨⟨0⟩, [1]⟩ none trialMotion 1 = .ok start ∧
        start.performAll trialPlaces = .ok final ∧
        final.statistic = .correlator running ∧
        ∀ level < running.depth,
          ∃ range,
            running.lags[level]? = some range ∧
            ∀ lag,
              range.first ≤ lag →
              lag < range.stop →
              ∃ before,
                running.rows[range.row lag]? = some before ∧
                ReflTransGen
                  (Row.GainsAcross
                    (arrivals .squareDistance ⟨0⟩ ⟨0⟩ trialMotion.arguments
                      trialPlaces) (lag * 2 ^ level))
                  (Row.empty running.valueShape.size) before) ∧
      ∃ (start final concluded : Accumulator Rat) (running : Correlator Rat),
        Accumulator.correlator ⟨⟨0⟩, [1]⟩ none
            { trialMotion with compressionA := .keepOlder } 1 =
          .ok start ∧
        start.performAll trialPlaces = .ok final ∧
        final.perform .finalize = .ok concluded ∧
        concluded.statistic = .correlator running.finalize ∧
        ∀ level < running.depth,
          ∃ range,
            running.lags[level]? = some range ∧
            ∀ lag,
              range.first ≤ lag →
              lag < range.stop →
              ∃ after steps,
                running.lagSteps[range.row lag]? = some steps ∧
                running.finalize.rows[range.row lag]? = some after ∧
                (after.count ≠ 0 →
                 running.finalize.result.row (range.row lag) =
                   [(1 * (steps : Rat)) ^ 2]) := by
  let exponential := Exponential.tangent
  have goesOn : Request.finalize ∉ trialPlaces := by
    simp [trialPlaces]
  have accepted :
      ∀ rule ∈ [Compression.keepNewer, .keepOlder],
        (Accumulator.run
          (Accumulator.correlator ⟨⟨0⟩, [1]⟩ none
            { trialMotion with compressionA := rule } 1)
          trialPlaces).toBool = true := by
    decide +kernel
  rw [List.forall_mem_cons, List.forall_mem_singleton] at accepted
  rcases discarding_keeps_lags_exact with ⟨gathered, motion⟩
  refine ⟨exponential, ?_, ?_⟩
  · rcases exists_ok accepted.1 with ⟨final, ran⟩
    rcases Accumulator.run_ok ran with ⟨start, created, performed⟩
    have discarding : Compression.keepNewer ≠ .average := nofun
    rcases gathered discarding rfl rfl created performed goesOn with
      ⟨running, _, kind, _, _, table⟩
    refine ⟨start, final, running, created, performed, kind, ?_⟩
    intro level below
    rcases table level below with ⟨range, present, rows⟩
    refine ⟨range, present, ?_⟩
    intro lag least covered
    rcases rows lag least covered with ⟨before, _, _, stands, _, gained, _⟩
    exact ⟨before, stands, gained⟩
  · rcases exists_ok accepted.2 with ⟨final, ran⟩
    rcases Accumulator.run_ok ran with ⟨start, created, performed⟩
    have discarding : Compression.keepOlder ≠ .average := nofun
    rcases motion discarding rfl rfl rfl created performed goesOn
        (movesUniformly_trialPlaces _) with
      ⟨running, concluded, _, ended, kind, table⟩
    refine ⟨start, final, concluded, running, created, performed, ended,
      kind, ?_⟩
    intro level below
    rcases table level below with ⟨range, present, rows⟩
    refine ⟨range, present, ?_⟩
    intro lag least covered
    rcases rows lag least covered with
      ⟨_, after, steps, stepsAt, _, concluded, _, atLag⟩
    exact ⟨after, steps, stepsAt, concluded,
      fun populated => atLag populated (.inl rfl)⟩

end RunningStatistics
