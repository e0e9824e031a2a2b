import RunningStatistics.Proofs.Columns
import RunningStatistics.Scalar.Rational
import Mathlib.Algebra.BigOperators.Ring.List
import Mathlib.Algebra.Field.Rat

/-!
# Components on their own

The components of vector observables are correlated independently of each
other, so that every column of a table is a table of its own.  The scalar
product adds the columns up: in exact arithmetic its table is the sum of the
columns of the componentwise product.

Running moments keep their components apart in the same way.

A column belongs to a few components: one of each stream, or the three
coordinates of a particle.  It is the table of a correlator that has the same
parameters and sees only these components, for every accepted correlator and
every run that it carries out, ended or not.  The sums, the numbers of pairs,
the results and the lags are the same in any arithmetic.
-/

namespace RunningStatistics

variable {R : Type} [Scalar R]

/-! ## Sums of columns -/

section Exact

namespace Scalar

theorem sum_eq_sum (values : List Rat) : Scalar.sum values = values.sum :=
  List.sum_eq_foldl.symm

theorem sum_addEach
    {left right : List Rat}
    (same : left.length = right.length) :
    (Scalar.addEach left right).sum = left.sum + right.sum := by
  induction left generalizing right with
  | nil =>
      cases List.eq_nil_of_length_eq_zero same.symm
      exact (add_zero (0 : Rat)).symm
  | cons x rest hypothesis =>
      rcases right with _ | ⟨y, others⟩
      · cases same
      · have sums := hypothesis (Nat.succ.inj same)
        rw [Scalar.addEach, List.zipWith_cons_cons, List.sum_cons,
          List.sum_cons, List.sum_cons]
        rw [Scalar.addEach] at sums
        rw [sums]
        exact add_add_add_comm x y rest.sum others.sum

theorem sum_zeros (count : Nat) : (Scalar.zeros count : List Rat).sum = 0 := by
  rw [Scalar.zeros, List.sum_replicate]
  exact nsmul_zero count

theorem sum_divideEach
    (values : List Rat)
    (count : Nat) :
    (Scalar.divideEach values count).sum = values.sum / count := by
  have scaled := List.sum_map_mul_right values id (count : Rat)⁻¹
  rw [List.map_id] at scaled
  rw [div_eq_mul_inv, ← scaled]
  exact congrArg List.sum
    (List.map_congr_left fun x _ => div_eq_mul_inv x (count : Rat))

end Scalar

open Scalar in
theorem Row.sum_mean (row : Row Rat) :
    [Scalar.sum row.mean] =
      (row.withSums fun sums => [Scalar.sum sums]).mean := by
  rw [mean, mean, withSums]
  by_cases none : row.count = 0
  · rw [if_pos none, if_pos none, sum_eq_sum, List.map_const']
    exact congrArg List.singleton (sum_zeros row.sums.length)
  · rw [if_neg none, if_neg none, sum_eq_sum, sum_eq_sum, sum_divideEach]
    rfl

variable [Exponential Rat]

/-- What the sums of the components are added up to. -/
def Signature.summed
    (wide : Signature)
    (operation : wide.operation = .componentwiseProduct) : Signature where
  operation := .scalarProduct
  lengthA := wide.lengthA
  lengthB := wide.lengthB
  shape := []
  fits := by
    have fits := wide.fits
    rw [operation] at fits
    simp only [Operation.valueShape] at fits ⊢
    split at fits
    next same => rw [if_pos same]
    next => cases fits

open Scalar in
/--
In exact arithmetic the sums of the componentwise product add up to the scalar
product.
-/
def Projection.summed
    (wide : Signature)
    (operation : wide.operation = .componentwiseProduct) :
    Projection Rat wide (wide.summed operation) where
  ofA := id
  ofB := id
  ofSums sums := [Scalar.sum sums]
  length_ofA fits := fits
  length_ofB fits := fits
  combine_ofA _ _ _ := rfl
  combine_ofB _ _ _ := rfl
  terms arguments a b _ _ := by
    rw [operation]
    rfl
  zeros := by
    rw [sum_eq_sum, sum_zeros]
    rfl
  addEach same same' := by
    rw [sum_eq_sum, sum_addEach (same.trans same'.symm), ← sum_eq_sum,
      ← sum_eq_sum]
    rfl
  mean _ := Row.sum_mean _
  checkArguments sound := by
    rw [operation] at sound
    rw [← sound]
    apply Operation.checkArguments_of_ne <;> exact nofun

variable
    {sourceA : Source}
    {sourceB : Option Source}
    {config : Config Rat}
    {interval : Nat}
    {start final : Accumulator Rat}
    {requests : List (Request Rat)}

/-- The samples of an accepted scalar product have the same length. -/
theorem same_lengths_of_scalarProduct
    (operation : config.operation = .scalarProduct)
    (created :
      Accumulator.correlator sourceA sourceB config interval = .ok start) :
    sourceA.shape.size = (sourceB.getD sourceA).shape.size := by
  rcases Accumulator.lengths_ok created with
    ⟨initial, kind, made, lengthA, lengthB⟩
  have fitting := made.fits (.refl _)
  rw [made.resolved, Config.operation_resolve, operation, lengthA, lengthB]
    at fitting
  simp only [Operation.valueShape] at fitting
  split at fitting
  next same => exact same
  next => cases fitting

/--
The componentwise product of two sources that deliver samples of the same
length.
-/
def Signature.componentwise
    {sourceA : Source}
    {sourceB : Option Source}
    (same : sourceA.shape.size = (sourceB.getD sourceA).shape.size) :
    Signature :=
  ⟨.componentwiseProduct, sourceA.shape.size, (sourceB.getD sourceA).shape.size,
    [sourceA.shape.size], if_pos same⟩

/--
What the scalar product carries out, the componentwise product carries out too.
-/
theorem exists_componentwise
    (operation : config.operation = .scalarProduct)
    (created :
      Accumulator.correlator sourceA sourceB config interval = .ok start)
    (performed : start.performAll requests = .ok final) :
    ∃ start' final',
      Accumulator.correlator sourceA sourceB
          { config with operation := .componentwiseProduct } interval =
        .ok start' ∧
      start'.performAll requests = .ok final' := by
  have same := same_lengths_of_scalarProduct operation created
  rcases Accumulator.lengths_ok created with
    ⟨initial, kind, made, lengthA, lengthB⟩
  have accepts : ∀ arguments : Axes Rat,
      Operation.componentwiseProduct.checkArguments arguments =
        config.operation.checkArguments arguments := by
    rw [operation]
    exact Operation.checkArguments_of_ne nofun nofun
  have nonempty : 0 < sourceA.shape.size :=
    lengthA ▸ initial.bindingA.length_pos
  have sound := (Config.check_ok made.sound).2.2.2.2
  rw [← accepts] at sound
  rcases Accumulator.exists_correlator made.interval_pos
      (Config.check_withTerms made.sound sound) nonempty (same ▸ nonempty)
      (Signature.componentwise same).fits with ⟨start', created'⟩
  rcases Accumulator.lengths_ok created' with
    ⟨initial', kind', made', lengthA', lengthB'⟩
  have admits : initial.Admits id id initial' := by
    refine ⟨fun fits => ?_, fun fits => ?_, ?_, fun sound => ?_⟩
    · rw [lengthA', ← lengthA, fits, id]
    · rw [lengthB', ← lengthB, fits, id]
    · rw [made.records.running, made'.records.running]
    · rw [made.resolved, Config.operation_resolve, ← accepts] at sound
      rw [made'.resolved, Config.operation_resolve]
      exact sound
  rcases admits.exists_performAll kind kind' performed with ⟨final', performed'⟩
  rw [made.readsA, made.readsB, ← made'.readsA, ← made'.readsB] at performed'
  exact ⟨start', final', created',
    Accumulator.performAll_through_id kind' performed'⟩

/--
With every run that a correlator of the scalar product carries out, one of the
componentwise product carries it out too, and the columns of its table add up to
the table of the first.
-/
theorem readOff_summed
    (operation : config.operation = .scalarProduct)
    (created :
      Accumulator.correlator sourceA sourceB config interval = .ok start)
    (performed : start.performAll requests = .ok final) :
    ∃ start' final' scalar wide,
      Accumulator.correlator sourceA sourceB
          { config with operation := .componentwiseProduct } interval =
        .ok start' ∧
      start'.performAll requests = .ok final' ∧
      final.statistic = .correlator scalar ∧
      final'.statistic = .correlator wide ∧
      wide.ReadOff (fun sums => [Scalar.sum sums]) scalar := by
  have same := same_lengths_of_scalarProduct operation created
  rcases Accumulator.lengths_ok created with ⟨initial, kind, made, lengthA, _⟩
  have nonempty : 0 < sourceA.shape.size :=
    lengthA ▸ initial.bindingA.length_pos
  have nonempty' : 0 < (sourceB.getD sourceA).shape.size := same ▸ nonempty
  rcases exists_componentwise operation created performed with
    ⟨start', final', created', performed'⟩
  have suits :
      ((Signature.componentwise same).summed rfl).Suits sourceA sourceB :=
    ⟨rfl, rfl⟩
  rcases (Projection.summed (Signature.componentwise same) rfl).readOff_run
      created' performed' rfl ⟨rfl, rfl⟩ suits nonempty nonempty' with
    ⟨again, last, wide, scalar, recreated, reperformed, reached', reached,
      readOff⟩
  -- The summed correlator has the configuration and the requests of the given
  -- one, so it is that.
  have back :
      { { config with operation := Operation.componentwiseProduct } with
        operation :=
          ((Signature.componentwise same).summed rfl).operation } =
        config := by
    cases config
    cases operation
    rfl
  rw [back] at recreated
  cases created.symm.trans recreated
  rw [← made.readsA, ← made.readsB] at reperformed
  cases performed.symm.trans
    (Accumulator.performAll_through_id kind reperformed)
  exact ⟨start', final', scalar, wide, created', performed', reached, reached',
    readOff⟩

end Exact

/-! ## Moments of one component -/

omit [Scalar R] in
/--
The same request to the moments of a source, with its samples sent through a
map.
-/
def Request.throughOne
    (change : List R → List R)
    (source : SourceId) :
    Request R → Request R
  | .add sample => .add (change sample)
  | .update readings => .add (change (readings source))
  | request => request

namespace Moments

/-- Moments, and those of one of their components. -/
structure Singles (index : Nat) (moments single : Moments R) : Prop where
  count : single.count = moments.count
  components : single.components = slice index 1 moments.components
  within : index < moments.components.length

/-- A component of the moments takes in its component of the sample. -/
theorem Singles.add
    {index : Nat}
    {moments single next : Moments R}
    (singles : moments.Singles index single)
    {sample : List R}
    (added : moments.add sample = .ok next) :
    ∃ next',
      single.add (slice index 1 sample) = .ok next' ∧
      next.Singles index next' := by
  rcases add_ok added with ⟨fits, _, count, components⟩
  have within : index < sample.length := fits ▸ singles.within
  have lengths : single.components.length = (slice index 1 sample).length := by
    rw [singles.components, length_slice singles.within, length_slice within]
  refine ⟨_, by rw [Moments.add, lengths, requireLength_self]; rfl, ?_⟩
  constructor
  · rw [count, ← singles.count]
  · rw [components, slice_zipWith, singles.count, singles.components]
  · rw [length_components_add added]
    exact singles.within

end Moments

variable [Exponential R]

namespace Accumulator

variable
    {accumulator next final accumulator' : Accumulator R}
    {moments single : Moments R}
    {index : Nat}

theorem exists_perform_single
    (kind : accumulator.statistic = .moments moments)
    (kind' : accumulator'.statistic = .moments single)
    (singles : moments.Singles index single)
    {request : Request R}
    (performed : accumulator.perform request = .ok next) :
    ∃ next' after after',
      accumulator'.perform
          (request.throughOne (slice index 1) moments.binding.source) =
        .ok next' ∧
      next.statistic = .moments after ∧
      next'.statistic = .moments after' ∧
      after.binding = moments.binding ∧
      after.Singles index after' := by
  have taken :
      ∀ {sample : List R} {statistic : Statistic R},
        (Statistic.moments moments).add sample = .ok statistic →
        ∃ next' after after',
          accumulator'.perform (.add (slice index 1 sample)) = .ok next' ∧
          statistic = .moments after ∧
          next'.statistic = .moments after' ∧
          after.binding = moments.binding ∧
          after.Singles index after' := by
    intro sample statistic accepted
    rcases map_ok accepted with ⟨after, added, rfl⟩
    rcases singles.add added with ⟨after', added', remains⟩
    refine ⟨accumulator'.accept (.moments after'), after, after', ?_, rfl, rfl,
      (Moments.add_ok added).2.1, remains⟩
    rw [perform, Accumulator.add, kind', Statistic.add, added']
    rfl
  cases step_of_perform performed with
  | add accepted =>
      rw [kind] at accepted
      exact taken accepted
  | update accepted =>
      rw [kind] at accepted
      exact taken (Statistic.update_moments accepted)
  | setInterval adjustable accepted =>
      rcases exists_reschedule accepted accumulator' with
        ⟨next', rescheduled, kept⟩
      refine ⟨next', moments, single, ?_, kind, kept.trans kind', rfl, singles⟩
      show (accumulator'.setInterval _).mapError _ = _
      rw [Accumulator.setInterval, kind']
      simp only [rescheduled]
      rfl
  | reschedule accepted =>
      rcases exists_reschedule accepted accumulator' with
        ⟨next', rescheduled, kept⟩
      refine ⟨next', moments, single, ?_, kind, kept.trans kind', rfl, singles⟩
      show (accumulator'.reschedule _).mapError _ = _
      rw [rescheduled]
      rfl
  | addPair other accepted => cases kind.symm.trans other
  | finalize other => cases kind.symm.trans other
  | clear other => cases kind.symm.trans other
  | setArguments other accepted => cases kind.symm.trans other

theorem exists_performAll_single
    (kind : accumulator.statistic = .moments moments)
    (kind' : accumulator'.statistic = .moments single)
    (singles : moments.Singles index single)
    {requests : List (Request R)}
    (performed : accumulator.performAll requests = .ok final) :
    ∃ final' last last',
      accumulator'.performAll
          (requests.map
            (Request.throughOne (slice index 1) moments.binding.source)) =
        .ok final' ∧
      final.statistic = .moments last ∧
      final'.statistic = .moments last' ∧
      last.Singles index last' := by
  induction requests generalizing accumulator accumulator' moments single with
  | nil =>
      cases performed
      exact ⟨accumulator', moments, single, rfl, kind, kind', singles⟩
  | cons request rest hypothesis =>
      rcases performAll_cons_ok performed with ⟨next, first, later⟩
      rcases exists_perform_single kind kind' singles first with
        ⟨next', after, after', first', kept, kept', binding, remains⟩
      rcases hypothesis kept kept' remains later with
        ⟨final', last, last', later', reached, reached', singles'⟩
      rw [binding] at later'
      refine ⟨final', last, last', ?_, reached, reached', singles'⟩
      rw [List.map_cons, performAll, first']
      exact later'

/--
The moments of one component are those of a source that delivers only this
component.
-/
theorem exists_run_single
    {source sourceOne : Source}
    {interval : Nat}
    {start : Accumulator R}
    {requests : List (Request R)}
    (created : Accumulator.moments source interval = .ok start)
    (performed : start.performAll requests = .ok final)
    (within : index < source.shape.size)
    (one : sourceOne.shape.size = 1) :
    ∃ start' final' wide narrow,
      Accumulator.moments sourceOne interval = .ok start' ∧
      start'.performAll
          (requests.map (Request.throughOne (slice index 1) source.id)) =
        .ok final' ∧
      final.statistic = .moments wide ∧
      final'.statistic = .moments narrow ∧
      wide.Singles index narrow := by
  rcases moments_ok created with ⟨binding, bound, spaced, kind⟩
  have nonempty : 0 < sourceOne.shape.size := one ▸ Nat.one_pos
  let bindingOne : Binding := ⟨sourceOne.id, sourceOne.shape, nonempty⟩
  have boundOne : sourceOne.bind = .ok bindingOne := dif_pos nonempty
  let startOne : Accumulator R := ⟨start.sampling, .moments (.start bindingOne)⟩
  have created' : Accumulator.moments sourceOne interval = .ok startOne :=
    ofSource_eq spaced boundOne
  have kindOne : startOne.statistic = .moments (.start bindingOne) := rfl
  have singles :
      (Moments.start binding : Moments R).Singles index
        (.start bindingOne) := by
    have length := Source.length_bind bound
    refine ⟨rfl, ?_, ?_⟩
    · rw [Moments.start, Moments.start, slice_replicate (length ▸ within)]
      exact congrArg (List.replicate · Moment.empty) one
    · rw [Moments.length_components_start, length]
      exact within
  rcases exists_performAll_single kind kindOne singles performed with
    ⟨final', wide, narrow, performed', reached, reached', remains⟩
  rw [show (Moments.start binding : Moments R).binding.source = source.id from
    (Source.bind_ok bound).1] at performed'
  exact ⟨startOne, final', wide, narrow, created', performed', reached,
    reached', remains⟩

end Accumulator

/-! ## Whole runs -/

/--
Over whole runs each column of a table is the table of a correlator of the
components that belong to it, the table of the scalar product is the sum of such
columns, and each component of running moments stands alone.
-/
theorem components_run_apart :
    (∀ {operation : Operation} {lengthA lengthB : Nat} {shape : Shape}
        {index : Nat},
      operation.valueShape lengthA lengthB = .ok shape →
      operation ≠ .scalarProduct →
      index < shape.size →
      ∃ column,
        operation.HasColumn lengthA lengthB column ∧ column.index = index) ∧
    (∀ {R : Type} [Scalar R] [Exponential R] {sourceA : Source}
        {sourceB : Option Source} {config : Config R} {interval : Nat}
        {start final : Accumulator R} {requests : List (Request R)}
        {column : Column} {narrowA : Source} {narrowB : Option Source},
      Accumulator.correlator sourceA sourceB config interval = .ok start →
      start.performAll requests = .ok final →
      config.operation.HasColumn sourceA.shape.size
        (sourceB.getD sourceA).shape.size column →
      narrowA.shape.size = column.width →
      (narrowB.getD narrowA).shape.size = column.width →
      ∃ start' final' wide narrow,
        Accumulator.correlator narrowA narrowB
            { config with operation := column.operation } interval =
          .ok start' ∧
        start'.performAll
            (requests.map fun request =>
              request.through (slice column.firstA column.width)
                (slice column.firstB column.width) sourceA.id
                (sourceB.getD sourceA).id) =
          .ok final' ∧
        final.statistic = .correlator wide ∧
        final'.statistic = .correlator narrow ∧
        wide.ReadOff (slice column.index 1) narrow) ∧
    (∀ [Exponential Rat] {sourceA : Source} {sourceB : Option Source}
        {config : Config Rat} {interval : Nat} {start final : Accumulator Rat}
        {requests : List (Request Rat)},
      config.operation = .scalarProduct →
      Accumulator.correlator sourceA sourceB config interval = .ok start →
      start.performAll requests = .ok final →
      ∃ start' final' scalar wide,
        Accumulator.correlator sourceA sourceB
            { config with operation := .componentwiseProduct } interval =
          .ok start' ∧
        start'.performAll requests = .ok final' ∧
        final.statistic = .correlator scalar ∧
        final'.statistic = .correlator wide ∧
        wide.ReadOff (fun sums => [Scalar.sum sums]) scalar) ∧
    (∀ {R : Type} [Scalar R] [Exponential R] {source sourceOne : Source}
        {interval index : Nat} {start final : Accumulator R}
        {requests : List (Request R)},
      Accumulator.moments source interval = .ok start →
      start.performAll requests = .ok final →
      index < source.shape.size →
      sourceOne.shape.size = 1 →
      ∃ start' final' wide narrow,
        Accumulator.moments sourceOne interval = .ok start' ∧
        start'.performAll
            (requests.map (Request.throughOne (slice index 1) source.id)) =
          .ok final' ∧
        final.statistic = .moments wide ∧
        final'.statistic = .moments narrow ∧
        narrow.count = wide.count ∧
        narrow.components = slice index 1 wide.components) := by
  refine ⟨?_, ?_, readOff_summed, ?_⟩
  · intro operation lengthA lengthB shape index fits apart below
    exact Operation.HasColumn.exists_of_lt fits apart below
  · intro R _ _ sourceA sourceB config interval start final requests column
      narrowA narrowB created performed has widthA widthB
    rcases Accumulator.lengths_ok created with
      ⟨initial, kind, made, lengthA, lengthB⟩
    have fits := made.fits (.refl _)
    rw [made.resolved, Config.operation_resolve, lengthA, lengthB] at fits
    let wide : Signature :=
      ⟨config.operation, sourceA.shape.size, (sourceB.getD sourceA).shape.size,
        _, fits⟩
    have seen : wide.operation.HasColumn wide.lengthA wide.lengthB column := has
    have suits : seen.signature.Suits narrowA narrowB := ⟨widthA, widthB⟩
    exact seen.projection.readOff_run created performed rfl ⟨rfl, rfl⟩ suits
      has.width_pos has.width_pos
  · intro R _ _ source sourceOne interval index start final requests created
      performed within one
    rcases Accumulator.exists_run_single created performed within one with
      ⟨start', final', wide, narrow, created', performed', reached, reached',
        singles⟩
    exact ⟨start', final', wide, narrow, created', performed', reached,
      reached', singles.count, singles.components⟩

/-- A scalar product of two sources, over exact numbers. -/
def trialProduct : Config Rat where
  largestLag := 6
  timeStep := 1
  linearWidth := 2
  operation := .scalarProduct
  compressionA := .average
  compressionB := none
  arguments := ⟨0, 0, 0⟩

/-- Three samples and the end of the run. -/
def trialProducts : List (Request Rat) :=
  [.addPair [1, 2] [3, 4], .add [1 / 2, -1], .addPair [0, 3] [1 / 3, 1],
    .finalize]

/-- Samples for running moments, with a change of the interval between. -/
def trialSamples : List (Request Float) :=
  [.add [Scalar.ofNat 1, Scalar.ofNat 2], .setInterval 3,
    .update fun source => [Scalar.ofNat source.index, Scalar.ofNat 2]]

theorem components_run_apart_trial :
    (∃ column,
      Operation.tensorProduct.HasColumn 2 2 column ∧ column.index = 3) ∧
    (∃ (start final start' final' : Accumulator Float)
        (wide narrow : Correlator Float),
      Accumulator.correlator (trialSource 0) (some (trialSource 1))
          trialConfig 2 =
        .ok start ∧
      start.performAll trialRequests = .ok final ∧
      Operation.tensorProduct.HasColumn 2 2
        ⟨2, .componentwiseProduct, 1, 0, 1⟩ ∧
      Accumulator.correlator ⟨⟨0⟩, [1]⟩ (some ⟨⟨1⟩, [1]⟩)
          { trialConfig with operation := .componentwiseProduct } 2 =
        .ok start' ∧
      start'.performAll
          (trialRequests.map fun request =>
            request.through (slice 1 1) (slice 0 1) ⟨0⟩ ⟨1⟩) =
        .ok final' ∧
      final.statistic = .correlator wide ∧
      final'.statistic = .correlator narrow ∧
      wide.ReadOff (slice 2 1) narrow) ∧
    (∃ (_ : Exponential Rat) (start final start' final' : Accumulator Rat)
        (scalar wide : Correlator Rat),
      Accumulator.correlator (trialSource 0) (some (trialSource 1))
          trialProduct 2 =
        .ok start ∧
      start.performAll trialProducts = .ok final ∧
      Accumulator.correlator (trialSource 0) (some (trialSource 1))
          { trialProduct with operation := .componentwiseProduct } 2 =
        .ok start' ∧
      start'.performAll trialProducts = .ok final' ∧
      final.statistic = .correlator scalar ∧
      final'.statistic = .correlator wide ∧
      wide.ReadOff (fun sums => [Scalar.sum sums]) scalar) ∧
    (∃ (start final start' final' : Accumulator Float)
        (wide narrow : Moments Float),
      Accumulator.moments (trialSource 0) 2 = .ok start ∧
      start.performAll trialSamples = .ok final ∧
      Accumulator.moments ⟨⟨0⟩, [1]⟩ 2 = .ok start' ∧
      start'.performAll
          (trialSamples.map (Request.throughOne (slice 1 1) ⟨0⟩)) =
        .ok final' ∧
      final.statistic = .moments wide ∧
      final'.statistic = .moments narrow ∧
      narrow.components = slice 1 1 wide.components) := by
  rcases components_run_apart with ⟨exhausted, columns, sums, singles⟩
  refine ⟨?_, ?_, ?_, ?_⟩
  · have fits : Operation.tensorProduct.valueShape 2 2 = .ok [4] := rfl
    exact exhausted fits nofun (by decide)
  · rcases trial_accepted with ⟨start, final, created, performed⟩
    have has :
        Operation.tensorProduct.HasColumn 2 2
          ⟨2, .componentwiseProduct, 1, 0, 1⟩ :=
      @Operation.HasColumn.tensorProduct 2 2 1 0 (by decide) (by decide)
    have size : (Source.mk ⟨0⟩ [1]).shape.size = 1 := rfl
    have size' : ((some (Source.mk ⟨1⟩ [1])).getD ⟨⟨0⟩, [1]⟩).shape.size = 1 :=
      rfl
    rcases columns created performed has size size' with
      ⟨start', final', wide, narrow, created', performed', reached, reached',
        readOff⟩
    exact ⟨start, final, start', final', wide, narrow, created, performed, has,
      created', performed', reached, reached', readOff⟩
  · let exponential := Exponential.tangent
    have accepted :
        (Accumulator.run
          (Accumulator.correlator (trialSource 0) (some (trialSource 1))
            trialProduct 2)
          trialProducts).toBool = true := by
      decide +kernel
    rcases exists_ok accepted with ⟨final, ran⟩
    rcases Accumulator.run_ok ran with ⟨start, created, performed⟩
    rcases sums rfl created performed with ⟨start', final', scalar, wide, rest⟩
    exact ⟨exponential, start, final, start', final', scalar, wide, created,
      performed, rest⟩
  · have accepted :
        (Accumulator.run (Accumulator.moments (trialSource 0) 2)
          trialSamples).toBool = true := by
      decide +kernel
    rcases exists_ok accepted with ⟨final, ran⟩
    rcases Accumulator.run_ok ran with ⟨start, created, performed⟩
    have within : 1 < (trialSource 0).shape.size := by decide
    have one : (Source.mk ⟨0⟩ [1]).shape.size = 1 := rfl
    rcases singles created performed within one with
      ⟨start', final', wide, narrow, created', performed', reached, reached', _,
        components⟩
    exact ⟨start, final, start', final', wide, narrow, created, performed,
      created', performed', reached, reached', components⟩

end RunningStatistics
