import RunningStatistics.Proofs.Acceptance
import RunningStatistics.Proofs.Courses
import Mathlib.Data.List.Forall2

/-!
# Projections of correlators

A projection reads the samples and the sums of a simpler correlator off those
of another one.  It commutes with everything that is done to samples and sums:
the compression of two samples, the terms of a pair, the sum of two rows and
the mean of a row.

So a correlator that is sent the projected samples of a run has the projected
rows, whatever the run and however it ends.
-/

namespace RunningStatistics

/-! ## Related streams -/

section Streams

variable
    {α β : Type}
    {related : α → β → Prop}
    {reduce : α → α → α}
    {reduce' : β → β → β}

/-- Streams that are related entry by entry stay so when they are halved. -/
theorem forall₂_halve
    (reduces :
      ∀ {older newer older' newer'},
        related older older' →
        related newer newer' →
        related (reduce older newer) (reduce' older' newer'))
    {stream : List α}
    {stream' : List β}
    (streams : List.Forall₂ related stream stream') :
    List.Forall₂ related (halve reduce stream) (halve reduce' stream') := by
  fun_induction halve reduce stream generalizing stream' with
  | case1 older newer rest hypothesis =>
      rcases streams with _ | ⟨first, _ | ⟨second, rest⟩⟩
      exact .cons (reduces first second) (hypothesis rest)
  | case2 stream short =>
      rcases streams with _ | ⟨first, _ | ⟨second, rest⟩⟩
      · exact .nil
      · exact .nil
      · exact absurd rfl (short _ _ _)

theorem forall₂_halveAll
    {close : α → α}
    {close' : β → β}
    (reduces :
      ∀ {older newer older' newer'},
        related older older' →
        related newer newer' →
        related (reduce older newer) (reduce' older' newer'))
    (closes :
      ∀ {waiting waiting'},
        related waiting waiting' → related (close waiting) (close' waiting'))
    {stream : List α}
    {stream' : List β}
    (streams : List.Forall₂ related stream stream') :
    List.Forall₂ related (halveAll reduce close stream)
      (halveAll reduce' close' stream') := by
  fun_induction halveAll reduce close stream generalizing stream' with
  | case1 older newer rest hypothesis =>
      rcases streams with _ | ⟨first, _ | ⟨second, rest⟩⟩
      exact .cons (reduces first second) (hypothesis rest)
  | case2 waiting =>
      rcases streams with _ | ⟨first, _ | _⟩
      exact .cons (closes first) .nil
  | case3 =>
      cases streams
      exact .nil

end Streams

/-! ## Projections -/

/-- An operation and the lengths of the samples that it combines. -/
structure Signature where
  operation : Operation
  lengthA : Nat
  lengthB : Nat
  /-- The shape of one correlation value. -/
  shape : Shape
  fits : operation.valueShape lengthA lengthB = .ok shape

variable {R : Type} [Scalar R]

omit [Scalar R] in
/-- The row with other sums and the same number of pairs. -/
def Row.withSums (change : List R → List R) (row : Row R) : Row R :=
  ⟨change row.sums, row.count⟩

variable [Exponential R]

/--
Maps from the samples and the sums of one signature to those of another one.
-/
structure Projection
    (R : Type)
    [Scalar R]
    [Exponential R]
    (wide narrow : Signature) where
  ofA : List R → List R
  ofB : List R → List R
  ofSums : List R → List R
  length_ofA : ∀ {a}, a.length = wide.lengthA → (ofA a).length = narrow.lengthA
  length_ofB : ∀ {b}, b.length = wide.lengthB → (ofB b).length = narrow.lengthB
  combine_ofA : ∀ (rule : Compression) older newer,
    ofA (rule.combine older newer) = rule.combine (ofA older) (ofA newer)
  combine_ofB : ∀ (rule : Compression) older newer,
    ofB (rule.combine older newer) = rule.combine (ofB older) (ofB newer)
  terms :
    ∀ arguments {a b},
      a.length = wide.lengthA →
      b.length = wide.lengthB →
      narrow.operation.terms arguments (ofA a) (ofB b) =
        ofSums (wide.operation.terms arguments a b)
  zeros : ofSums (Scalar.zeros wide.shape.size) = Scalar.zeros narrow.shape.size
  addEach :
    ∀ {left right},
      left.length = wide.shape.size →
      right.length = wide.shape.size →
      ofSums (Scalar.addEach left right) =
        Scalar.addEach (ofSums left) (ofSums right)
  mean : ∀ {row : Row R}, row.sums.length = wide.shape.size →
    ofSums row.mean = (row.withSums ofSums).mean
  /--
  Arguments that the wide operation accepts are accepted by the narrow one.
  -/
  checkArguments :
    ∀ {arguments : Axes R},
      wide.operation.checkArguments arguments = .ok () →
      narrow.operation.checkArguments arguments = .ok ()

namespace Projection

variable {wide narrow : Signature} (projection : Projection R wide narrow)

/-! ### Rows -/

/-- An arrival of the wide signature and the one that is read off it. -/
structure Relates (arrival arrival' : Arrival R) : Prop where
  fitsA : arrival.sample.a.length = wide.lengthA
  fitsB : arrival.sample.b.length = wide.lengthB
  sample :
    arrival'.sample =
      ⟨projection.ofA arrival.sample.a, projection.ofB arrival.sample.b⟩
  terms : ∃ arguments, arrival.terms = wide.operation.terms arguments ∧
    arrival'.terms = narrow.operation.terms arguments

variable {projection} {older newer older' newer' : Arrival R}

/-- Reducing two arrivals and reading off commute. -/
theorem Relates.reduce
    (config : Config R)
    (first : projection.Relates older older')
    (second : projection.Relates newer newer') :
    projection.Relates (Arrival.reduce config.rules.reduce older newer)
      (Arrival.reduce config.rules.reduce older' newer') where
  fitsA :=
    (Compression.length_combine _ (first.fitsA.trans second.fitsA.symm)).trans
      first.fitsA
  fitsB :=
    (Compression.length_combine _ (first.fitsB.trans second.fitsB.symm)).trans
      first.fitsB
  sample := by
    simp only [Arrival.reduce, Config.rules, first.sample, second.sample,
      projection.combine_ofA, projection.combine_ofB]
  terms := second.terms

theorem Relates.close
    {config : Config R}
    (operation : config.operation = wide.operation)
    (waiting : projection.Relates older older') :
    projection.Relates (Arrival.close config.rules older)
      (Arrival.close
        { config with operation := narrow.operation }.rules older') where
  fitsA := (Compression.length_combine _ rfl).trans waiting.fitsA
  fitsB := (Compression.length_combine _ rfl).trans waiting.fitsB
  sample := by
    simp only [Arrival.close, Config.rules, waiting.sample,
      projection.combine_ofA, projection.combine_ofB]
    rfl
  terms :=
    ⟨config.arguments,
      congrArg (Operation.terms · config.arguments) operation, rfl⟩

/--
A pair that is read off another one adds the terms that are read off its terms.
-/
theorem Relates.addArrivals
    (first : projection.Relates older older')
    (second : projection.Relates newer newer')
    {row : Row R}
    (uniform : row.sums.length = wide.shape.size) :
    (row.withSums projection.ofSums).addArrivals (older', newer') =
      (row.addArrivals (older, newer)).withSums projection.ofSums ∧
    (row.addArrivals (older, newer)).sums.length = wide.shape.size := by
  rcases second.terms with ⟨arguments, terms, terms'⟩
  have length :
      (newer.terms older.sample.a newer.sample.b).length = wide.shape.size := by
    rw [terms]
    exact Operation.length_terms wide.fits arguments first.fitsA second.fitsB
  constructor
  · have read : newer'.terms older'.sample.a newer'.sample.b =
        projection.ofSums (newer.terms older.sample.a newer.sample.b) := by
      rw [terms, terms', first.sample, second.sample]
      exact projection.terms arguments first.fitsA second.fitsB
    simp only [Row.addArrivals, Row.add, Row.withSums, read,
      projection.addEach uniform length]
  · rw [Row.addArrivals, Row.add, Scalar.length_addEach, uniform, length,
      Nat.min_self]

theorem foldl_addArrivals
    {earlier later earlier' later' : List (Arrival R)}
    (first : List.Forall₂ projection.Relates earlier earlier')
    (second : List.Forall₂ projection.Relates later later')
    {row : Row R}
    (uniform : row.sums.length = wide.shape.size) :
    (earlier'.zip later').foldl Row.addArrivals
        (row.withSums projection.ofSums) =
      ((earlier.zip later).foldl Row.addArrivals row).withSums
        projection.ofSums := by
  induction first generalizing later later' row with
  | nil => rfl
  | cons older rest hypothesis =>
      cases second with
      | nil => rfl
      | cons newer above =>
          rcases older.addArrivals newer uniform with ⟨read, length⟩
          rw [List.zip_cons_cons, List.zip_cons_cons, List.foldl_cons,
            List.foldl_cons, read]
          exact hypothesis above length

/--
The direct row of the arrivals that are read off has the sums that are read
off.
-/
theorem directRow_of_related
    {stream stream' : List (Arrival R)}
    (streams : List.Forall₂ projection.Relates stream stream')
    (lag : Nat) :
    directRow narrow.shape.size stream' lag =
      (directRow wide.shape.size stream lag).withSums projection.ofSums := by
  have blank : Row.empty narrow.shape.size =
      (Row.empty wide.shape.size).withSums projection.ofSums := by
    rw [Row.withSums, Row.empty, Row.empty, projection.zeros]
  rw [directRow, directRow, blank]
  exact foldl_addArrivals streams (List.forall₂_drop lag streams)
    (Scalar.length_zeros _)

/-! ### Tables -/

/-- What holds of one row holds of the rows of all levels. -/
theorem table_of_related
    {next next' : List (Arrival R) → List (Arrival R)}
    (continues :
      ∀ {stream stream'},
        List.Forall₂ projection.Relates stream stream' →
        List.Forall₂ projection.Relates (next stream) (next' stream'))
    (ranges : List LagRange)
    {stream stream' : List (Arrival R)}
    (streams : List.Forall₂ projection.Relates stream stream') :
    LagRange.table narrow.shape.size next' ranges stream' =
      (LagRange.table wide.shape.size next ranges stream).map
        (Row.withSums projection.ofSums) := by
  induction ranges generalizing stream stream' with
  | nil => rfl
  | cons range above hypothesis =>
      rw [LagRange.table, LagRange.table, List.map_append, List.map_map,
        hypothesis (continues streams)]
      congr 1
      exact List.map_congr_left fun lag _ => directRow_of_related streams lag

/--
The streams of the next level are related, whether the run goes on or has
ended.
-/
theorem next_of_related
    {config : Config R}
    (operation : config.operation = wide.operation)
    (course : Course R)
    {stream stream' : List (Arrival R)}
    (streams : List.Forall₂ projection.Relates stream stream') :
    List.Forall₂ projection.Relates (course.next config stream)
      (course.next { config with operation := narrow.operation } stream') := by
  rcases course with ⟨raw, _ | arguments⟩
  · exact forall₂_halve (Relates.reduce config) streams
  · have ending :
        ({ config with arguments } : Config R).operation = wide.operation :=
      operation
    exact forall₂_halveAll (Relates.reduce config)
      (Relates.close ending) streams

end Projection

/-! ## Projected correlators -/

namespace Correlator

/-- A correlator combines samples as a signature says. -/
structure HasSignature
    (correlator : Correlator R)
    (signature : Signature) : Prop where
  operation : correlator.config.operation = signature.operation
  lengthA : correlator.lengthA = signature.lengthA
  lengthB : correlator.lengthB = signature.lengthB
  valueShape : correlator.valueShape = signature.shape

omit [Scalar R] [Exponential R] in
theorem HasSignature.of_sameSetup
    {correlator after : Correlator R}
    {signature : Signature}
    (has : correlator.HasSignature signature)
    (same : correlator.SameSetup after) :
    after.HasSignature signature where
  operation := same.operation.trans has.operation
  lengthA := same.lengthA.trans has.lengthA
  lengthB := same.lengthB.trans has.lengthB
  valueShape := same.valueShape.trans has.valueShape

end Correlator

namespace Projection

variable {wide narrow : Signature} (projection : Projection R wide narrow)

/-- The request that hands over what is read off the samples of a correlator. -/
def request (correlator : Correlator R) (request : Request R) : Request R :=
  request.through projection.ofA projection.ofB correlator.bindingA.source
    correlator.effectiveBindingB.source

/--
A correlator and one of the same lags whose course is read off the course of the
first.
-/
structure Projects (correlator correlator' : Correlator R) : Prop where
  signature : correlator.HasSignature wide
  signature' : correlator'.HasSignature narrow
  config :
    correlator'.config =
      { correlator.config with operation := narrow.operation }
  samplingTime : correlator'.samplingTime = correlator.samplingTime
  lags : correlator'.lags = correlator.lags
  courses :
    ∃ course course',
      correlator.Stands course ∧
      correlator'.Stands course' ∧
      course'.closing = course.closing ∧
      List.Forall₂ projection.Relates course.raw course'.raw

variable
    {projection}
    {correlator correlator' after after' : Correlator R}
    {request : Request R}

/-- The projected correlator takes in whatever the first one takes in. -/
theorem Projects.admits
    (projects : projection.Projects correlator correlator') :
    correlator.Admits projection.ofA projection.ofB correlator' where
  lengthA := fun fits =>
    projects.signature'.lengthA.trans
      (projection.length_ofA (fits.symm.trans projects.signature.lengthA)).symm
  lengthB := fun fits =>
    projects.signature'.lengthB.trans
      (projection.length_ofB (fits.symm.trans projects.signature.lengthB)).symm
  isFinalized := by
    rcases projects.courses with ⟨course, course', stands, stands', same, _⟩
    rw [stands.ended, stands'.ended, same]
  checkArguments := by
    rw [projects.signature.operation, projects.signature'.operation]
    exact projection.checkArguments

/--
What the projected request hands over is read off what the request hands over.
-/
theorem Projects.arrival
    (projects : projection.Projects correlator correlator')
    (step : correlator.Step request after) :
    List.Forall₂ projection.Relates (correlator.arrival request)
      (correlator'.arrival (projection.request correlator request)) := by
  cases step with
  | receive handed running fitsA fitsB =>
      rw [Projection.request, Request.through_of_sample handed,
        Correlator.arrival, handed]
      refine .cons ⟨?_, ?_, rfl, correlator.config.arguments, ?_, ?_⟩ .nil
      · exact fitsA.symm.trans projects.signature.lengthA
      · exact fitsB.symm.trans projects.signature.lengthB
      · rw [← projects.signature.operation]
      · rw [projects.config]
  | finalize => exact .nil
  | setArguments sound => exact .nil
  | reschedule => exact .nil

theorem Projects.courses_step
    (projects : projection.Projects correlator correlator')
    (first : correlator.Step request after)
    (second : correlator'.Step (projection.request correlator request) after') :
    ∃ course course',
      after.Stands course ∧
      after'.Stands course' ∧
      course'.closing = course.closing ∧
      List.Forall₂ projection.Relates course.raw course'.raw := by
  have arrival := projects.arrival first
  rcases projects.courses with
    ⟨⟨raw, closing⟩, ⟨raw', closing'⟩, stands, stands', same, related⟩
  cases same
  refine ⟨_, _, stands.step first, stands'.step second, ?_⟩
  cases closing with
  | some arguments => exact ⟨rfl, related⟩
  | none =>
      by_cases last : request = .finalize
      · subst last
        refine ⟨?_, related⟩
        show
          some correlator'.config.arguments = some correlator.config.arguments
        rw [projects.config]
      · have goesOn : projection.request correlator request ≠ .finalize :=
          Request.through_ne_finalize last
        rw [Course.after_of_goesOn raw correlator last,
          Course.after_of_goesOn raw' correlator' goesOn]
        exact ⟨rfl, List.rel_append related arrival⟩

/-- One request keeps the second correlator the projection of the first. -/
theorem Projects.step
    (projects : projection.Projects correlator correlator')
    (first : correlator.Step request after)
    (second : correlator'.Step (projection.request correlator request) after') :
    projection.Projects after after' where
  signature := projects.signature.of_sameSetup first.sameSetup
  signature' := projects.signature'.of_sameSetup second.sameSetup
  config := by
    rw [second.sameSetup.config, second.arguments, projects.config,
      first.sameSetup.config, first.arguments, Projection.request,
      Request.settle_through]
  samplingTime := by
    rw [second.sameSetup.samplingTime, first.sameSetup.samplingTime,
      projects.samplingTime]
  lags := by rw [second.sameSetup.lags, first.sameSetup.lags, projects.lags]
  courses := projects.courses_step first second

/-! ### Runs -/

/--
As long as both carry out what they are sent, one remains projected from the
other.
-/
theorem Projects.performAll
    (projects : projection.Projects correlator correlator')
    {accumulator final accumulator' final' : Accumulator R}
    {requests : List (Request R)}
    (kind : accumulator.statistic = .correlator correlator)
    (kind' : accumulator'.statistic = .correlator correlator')
    (performed : accumulator.performAll requests = .ok final)
    (performed' :
      accumulator'.performAll (requests.map (projection.request correlator)) =
        .ok final') :
    ∃ last last',
      final.statistic = .correlator last ∧
      final'.statistic = .correlator last' ∧
      projection.Projects last last' := by
  induction requests generalizing accumulator accumulator' correlator
    correlator' with
  | nil =>
      cases performed
      cases performed'
      exact ⟨correlator, correlator', kind, kind', projects⟩
  | cons request rest hypothesis =>
      rcases Accumulator.performAll_cons_ok performed with ⟨next, first, later⟩
      rcases Accumulator.performAll_cons_ok performed' with
        ⟨next', first', later'⟩
      rcases Accumulator.perform_correlator kind first with ⟨after, kept, step⟩
      rcases Accumulator.perform_correlator kind' first' with
        ⟨after', kept', step'⟩
      have same : projection.request after = projection.request correlator := by
        funext request
        rw [Projection.request, Projection.request, step.sameSetup.bindingA,
          step.sameSetup.effectiveBindingB]
      rw [← same] at later'
      exact hypothesis (projects.step step step') kept kept' later later'

/-! ### Reports -/

end Projection

omit [Exponential R] in
/-- What a correlator reports is read off what another one reports. -/
structure Correlator.ReadOff
    (change : List R → List R)
    (correlator correlator' : Correlator R) : Prop where
  rows : correlator'.rows = correlator.rows.map (Row.withSums change)
  result : ∀ index < correlator.lagCount,
    correlator'.result.row index = change (correlator.result.row index)
  sampleSizes : correlator'.sampleSizes = correlator.sampleSizes
  lagTimes : correlator'.lagTimes = correlator.lagTimes

namespace Projection

variable {wide narrow : Signature} {projection : Projection R wide narrow}
  {correlator correlator' : Correlator R}

/-- The rows of the second correlator are read off the rows of the first. -/
theorem Projects.rows (projects : projection.Projects correlator correlator') :
    correlator'.rows =
      correlator.rows.map (Row.withSums projection.ofSums) := by
  rcases projects.courses with
    ⟨course, course', stands, stands', closing, related⟩
  have next : course'.next correlator'.config =
      course.next { correlator.config with operation := narrow.operation } := by
    rw [projects.config, Course.next, Course.next, closing]
  rw [stands.rows_eq, stands'.rows_eq, projects.signature.valueShape,
    projects.signature'.valueShape, projects.lags, next]
  exact table_of_related (next_of_related projects.signature.operation course)
    _ related

theorem Projects.readOff
    (projects : projection.Projects correlator correlator') :
    correlator.ReadOff projection.ofSums correlator' where
  rows := projects.rows
  result := by
    intro index within
    rcases projects.courses with ⟨course, course', stands, stands', _, _⟩
    rw [← stands.length_rows] at within
    have present : correlator.rows[index]? = some correlator.rows[index] :=
      List.getElem?_eq_getElem within
    have uniform := stands.uniform _ (List.getElem_mem within)
    have present' : correlator'.rows[index]? =
        some (correlator.rows[index].withSums projection.ofSums) := by
      rw [projects.rows, List.getElem?_map, present, Option.map_some]
    rw [projects.signature.valueShape] at uniform
    rw [Correlator.row_result stands.uniform present,
      Correlator.row_result stands'.uniform present', projection.mean uniform]
  sampleSizes := by
    rw [Correlator.sampleSizes, Correlator.sampleSizes, projects.rows,
      List.map_map]
    rfl
  lagTimes := by
    rw [Correlator.lagTimes, Correlator.lagTimes, Correlator.lagSteps_eq,
      Correlator.lagSteps_eq, projects.lags, projects.samplingTime]

end Projection

/-! ## Creation -/

/--
Two sources, or one that is read for both streams, that deliver what a signature
combines.
-/
structure Signature.Suits
    (signature : Signature)
    (sourceA : Source)
    (sourceB : Option Source) : Prop where
  lengthA : sourceA.shape.size = signature.lengthA
  lengthB : (sourceB.getD sourceA).shape.size = signature.lengthB

namespace Projection

variable
    {wide narrow : Signature}
    (projection : Projection R wide narrow)
    {sourceA narrowA : Source}
    {sourceB narrowB : Option Source}
    {config : Config R}
    {interval : Nat}

/--
Correlators that are made of one configuration for the two signatures begin as
projections.
-/
theorem projects_of_created
    {correlator correlator' : Correlator R}
    (made : correlator.Created sourceA sourceB config interval)
    (made' :
      correlator'.Created narrowA narrowB
        { config with operation := narrow.operation } interval)
    (signature : correlator.HasSignature wide)
    (signature' : correlator'.HasSignature narrow) :
    projection.Projects correlator correlator' where
  signature := signature
  signature' := signature'
  config := by rw [made'.resolved, made.resolved, Config.resolve_withOperation]
  samplingTime := by
    rw [made'.samplingTime, made.samplingTime]
    rfl
  lags := by
    rw [made'.lags, made.lags, made'.resolved, made.resolved,
      Config.resolve_withOperation]
    rfl
  courses := ⟨⟨[], none⟩, ⟨[], none⟩, made.records.stands (made.fits (.refl _)),
    made'.records.stands (made'.fits (.refl _)), rfl, .nil⟩

theorem hasSignature_of_created
    {signature : Signature}
    {correlator : Correlator R}
    (made : correlator.Created sourceA sourceB config interval)
    (operation : config.operation = signature.operation)
    (lengthA : correlator.lengthA = signature.lengthA)
    (lengthB : correlator.lengthB = signature.lengthB) :
    correlator.HasSignature signature := by
  have same : correlator.config.operation = signature.operation := by
    rw [made.resolved, Config.operation_resolve, operation]
  have fitting := made.fits (.refl _)
  rw [same, lengthA, lengthB] at fitting
  exact ⟨same, lengthA, lengthB,
    Except.ok.inj (fitting.symm.trans signature.fits)⟩

/--
A correlator of the narrow signature is accepted whenever one of the wide
signature is; it carries out the projected requests of every run that the other
one carries out, and reports what is read off the report of the other one.
-/
theorem readOff_run
    {start final : Accumulator R}
    {requests : List (Request R)}
    (created :
      Accumulator.correlator sourceA sourceB config interval = .ok start)
    (performed : start.performAll requests = .ok final)
    (operation : config.operation = wide.operation)
    (suits : wide.Suits sourceA sourceB)
    (suits' : narrow.Suits narrowA narrowB)
    (nonemptyA : 0 < narrow.lengthA)
    (nonemptyB : 0 < narrow.lengthB) :
    ∃ start' final' correlator correlator',
      Accumulator.correlator narrowA narrowB
          { config with operation := narrow.operation } interval =
        .ok start' ∧
      start'.performAll
          (requests.map fun request =>
            request.through projection.ofA projection.ofB sourceA.id
              (sourceB.getD sourceA).id) =
        .ok final' ∧
      final.statistic = .correlator correlator ∧
      final'.statistic = .correlator correlator' ∧
      correlator.ReadOff projection.ofSums correlator' := by
  rcases Accumulator.lengths_ok created with
    ⟨initial, kind, made, lengthA, lengthB⟩
  have accepted := (Config.check_ok made.sound).2.2.2.2
  rw [operation] at accepted
  have fits := narrow.fits
  rw [← suits'.lengthA, ← suits'.lengthB] at fits
  rcases Accumulator.exists_correlator made.interval_pos
      (Config.check_withTerms made.sound (projection.checkArguments accepted))
      (suits'.lengthA ▸ nonemptyA) (suits'.lengthB ▸ nonemptyB) fits with
    ⟨start', created'⟩
  rcases Accumulator.lengths_ok created' with
    ⟨initial', kind', made', lengthA', lengthB'⟩
  have signature :=
    hasSignature_of_created made operation (lengthA.trans suits.lengthA)
      (lengthB.trans suits.lengthB)
  have signature' :=
    hasSignature_of_created made' rfl (lengthA'.trans suits'.lengthA)
      (lengthB'.trans suits'.lengthB)
  have projects :=
    projection.projects_of_created made made' signature signature'
  rcases projects.admits.exists_performAll kind kind' performed with
    ⟨final', performed'⟩
  rcases projects.performAll kind kind' performed performed' with
    ⟨correlator, correlator', reached, reached', remains⟩
  rw [made.readsA, made.readsB] at performed'
  exact ⟨start', final', correlator, correlator', created', performed', reached,
    reached', remains.readOff⟩

end Projection

end RunningStatistics
