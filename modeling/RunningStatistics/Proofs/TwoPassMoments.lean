import RunningStatistics.Proofs.AcceptedSamples
import RunningStatistics.Proofs.Acceptance
import RunningStatistics.Scalar.Rational
import Mathlib.Algebra.BigOperators.Ring.List
import Mathlib.Algebra.Order.BigOperators.Group.List
import Mathlib.Algebra.Order.Ring.Rat
import Mathlib.Data.List.Induction
import Mathlib.Tactic.FieldSimp
import Mathlib.Tactic.Ring

/-!
# Moments in two passes

In exact arithmetic the single pass over the samples finds what two passes
would: the mean of each component, and then the squared deviations from this
mean.  The state after any run is the one of the accepted samples, so that
their order does not matter, and the mean is also that of a correlator to which
the same samples were given, however it compresses them.

A new value adds the product of its deviations from the old and from the new
mean to the squares, neither of the two deviations squared.

The variance is the squares over one less than the number of samples.  It is not
negative, and it is refused if and only if there are fewer than two of them.
Without samples the mean is zero.
-/

namespace RunningStatistics

/-! ## One component -/

/-- The mean of some numbers, which is zero if there are none. -/
def average (values : List Rat) : Rat :=
  values.sum / values.length

@[simp]
theorem average_nil : average [] = 0 :=
  zero_div _

/-- The sum of the squared deviations of some numbers from their mean. -/
def squaredDeviations (values : List Rat) : Rat :=
  (values.map fun value => (value - average values) ^ 2).sum

theorem squaredDeviations_nonneg (values : List Rat) :
    0 ≤ squaredDeviations values := by
  apply List.sum_nonneg
  intro square member
  rcases List.mem_map.mp member with ⟨value, _, rfl⟩
  exact sq_nonneg _

theorem average_mul_length (values : List Rat) :
    average values * values.length = values.sum := by
  rcases eq_or_ne values [] with rfl | some
  · exact mul_zero _
  · have positive : (values.length : Rat) ≠ 0 :=
      Nat.cast_ne_zero.mpr (List.length_pos_iff.mpr some).ne'
    exact div_mul_cancel₀ _ positive

/-- A further value moves the average by its share of the distance. -/
theorem average_concat
    (values : List Rat)
    (value : Rat) :
    average (values ++ [value]) =
      average values +
        (value - average values) / (values.length + 1 : Nat) := by
  have total := average_mul_length values
  have positive : ((values.length + 1 : Nat) : Rat) ≠ 0 :=
    Nat.cast_ne_zero.mpr (Nat.succ_ne_zero _)
  rw [average, List.sum_append, List.sum_singleton, List.length_append,
    List.length_singleton, ← total, div_eq_iff positive, add_mul,
    div_mul_cancel₀ _ positive]
  push_cast
  ring

/--
The squares around any number are those around the mean and the distance to the
mean.
-/
theorem sum_squares_around
    (values : List Rat)
    (center : Rat) :
    (values.map fun value => (value - center) ^ 2).sum =
      squaredDeviations values +
        values.length * (average values - center) ^ 2 := by
  have expand :
      ∀ value : Rat,
        (value - center) ^ 2 =
          (value - average values) ^ 2 +
            (value * (2 * (average values - center)) +
              (center ^ 2 - average values ^ 2)) := by
    intro value
    ring
  have scaled :
      (values.map fun value => value * (2 * (average values - center))).sum =
        average values * values.length * (2 * (average values - center)) := by
    rw [List.sum_map_mul_right, List.map_id', average_mul_length]
  simp only [expand, List.sum_map_add, scaled, List.map_const',
    List.sum_replicate, nsmul_eq_mul]
  rw [squaredDeviations]
  ring

/--
The squared deviations grow by the product of the distances from the old and
the new average.
-/
theorem squaredDeviations_concat
    (values : List Rat)
    (value : Rat) :
    squaredDeviations (values ++ [value]) =
      squaredDeviations values +
        (value - average values) * (value - average (values ++ [value])) := by
  have positive : ((values.length + 1 : Nat) : Rat) ≠ 0 :=
    Nat.cast_ne_zero.mpr (Nat.succ_ne_zero _)
  rw [squaredDeviations, List.map_append, List.sum_append, sum_squares_around,
    List.map_singleton, List.sum_singleton, average_concat]
  push_cast at positive ⊢
  field_simp
  ring

/-- The order of the values does not matter. -/
theorem average_of_perm
    {values others : List Rat}
    (same : values.Perm others) :
    average values = average others := by
  rw [average, average, same.sum_eq, same.length_eq]

theorem squaredDeviations_of_perm
    {values others : List Rat}
    (same : values.Perm others) :
    squaredDeviations values = squaredDeviations others := by
  rw [squaredDeviations, squaredDeviations, average_of_perm same]
  exact (same.map _).sum_eq

/-- The moment of some numbers by its definition. -/
def Moment.ofValues (values : List Rat) : Moment Rat :=
  ⟨average values, squaredDeviations values⟩

theorem Moment.ofValues_nil : ofValues [] = empty := by
  rw [ofValues, average_nil]
  rfl

/-- One more number changes the moment as the single pass does. -/
theorem Moment.add_ofValues
    (values : List Rat)
    (value : Rat) :
    Moment.add (values.length + 1) (ofValues values) value =
      ofValues (values ++ [value]) := by
  rw [ofValues, ofValues, average_concat, squaredDeviations_concat,
    average_concat]
  rfl

/-! ## All components -/

/-- The values of one component in some samples. -/
def column (index : Nat) (samples : List (List Rat)) : List Rat :=
  samples.map (·.getD index 0)

@[simp]
theorem length_column
    (index : Nat)
    (samples : List (List Rat)) :
    (column index samples).length = samples.length :=
  List.length_map _

/-- What is read off each component of some samples. -/
def eachColumn
    {α : Type}
    (length : Nat)
    (read : List Rat → α)
    (samples : List (List Rat)) :
    List α :=
  (List.range length).map fun index => read (column index samples)

theorem eachColumn_nil
    {α : Type}
    (length : Nat)
    (read : List Rat → α) :
    eachColumn length read [] = List.replicate length (read []) := by
  have blank :
      eachColumn length read [] = (List.range length).map fun _ => read [] :=
    rfl
  rw [blank, List.map_const', List.length_range]

theorem eachColumn_of_perm
    {α : Type}
    {read : List Rat → α}
    (symmetric :
      ∀ {values others : List Rat},
        values.Perm others → read values = read others)
    {samples others : List (List Rat)}
    (same : samples.Perm others)
    (length : Nat) :
    eachColumn length read samples = eachColumn length read others :=
  List.map_congr_left fun _ _ => symmetric (same.map _)

/-- What is read off each column can be changed afterwards. -/
theorem map_eachColumn
    {α β : Type}
    (change : α → β)
    (length : Nat)
    (read : List Rat → α)
    (samples : List (List Rat)) :
    (eachColumn length read samples).map change =
      eachColumn length (change ∘ read) samples :=
  List.map_map

/--
What is read off the components changes component by component with one more
sample.
-/
theorem zipWith_eachColumn
    {α : Type}
    {length : Nat}
    {read : List Rat → α}
    {combine : α → Rat → α}
    {samples : List (List Rat)}
    {sample : List Rat}
    (fits : sample.length = length)
    (advances :
      ∀ index,
        combine (read (column index samples)) (sample.getD index 0) =
          read (column index samples ++ [sample.getD index 0])) :
    List.zipWith combine (eachColumn length read samples) sample =
      eachColumn length read (samples ++ [sample]) := by
  apply List.ext_getElem
  · simp [eachColumn, fits]
  · intro index within _
    have inside : index < sample.length := by
      rw [List.length_zipWith] at within
      omega
    have joined : column index (samples ++ [sample]) =
        column index samples ++ [sample.getD index 0] := List.map_append
    simp only [List.getElem_zipWith, eachColumn, List.getElem_map,
      List.getElem_range, joined]
    rw [← advances, ← List.getElem_eq_getD 0]

namespace Moments

/-- The moments of some samples by their definition. -/
def ofSamples (binding : Binding) (samples : List (List Rat)) : Moments Rat :=
  ⟨binding, samples.length, eachColumn binding.length Moment.ofValues samples⟩

theorem start_eq_ofSamples (binding : Binding) :
    start binding = ofSamples binding [] := by
  rw [start, ofSamples, eachColumn_nil, Moment.ofValues_nil]
  rfl

/-- One more sample changes the moments as the single pass does. -/
theorem add_ofSamples
    {binding : Binding}
    {samples : List (List Rat)}
    {sample : List Rat}
    {next : Moments Rat}
    (accepted : (ofSamples binding samples).add sample = .ok next) :
    next = ofSamples binding (samples ++ [sample]) := by
  rcases next with ⟨binding', count, components⟩
  rcases add_ok accepted with ⟨fits, bound, counted, added⟩
  have length : sample.length = binding.length := by
    simpa [ofSamples, eachColumn] using fits
  have combined :
      components =
        eachColumn binding.length Moment.ofValues (samples ++ [sample]) := by
    rw [show components = _ from added]
    refine zipWith_eachColumn length fun index => ?_
    rw [← Moment.add_ofValues, length_column]
    rfl
  rw [ofSamples, List.length_append, List.length_singleton, ← combined]
  exact congrArg₂ (Moments.mk · · components) bound counted

variable {binding : Binding} {samples : List (List Rat)}

/-- The mean of the moments is the average of each column. -/
theorem mean_ofSamples
    (binding : Binding)
    (samples : List (List Rat)) :
    (ofSamples binding samples).mean =
      ⟨binding.shape, eachColumn binding.length average samples⟩ := by
  rw [mean, ofSamples, map_eachColumn]
  rfl

theorem squares_ofSamples
    (binding : Binding)
    (samples : List (List Rat)) :
    (ofSamples binding samples).components.map (·.squares) =
      eachColumn binding.length squaredDeviations samples :=
  map_eachColumn _ _ _ _

/--
The variance is refused below two samples, and otherwise divides by one less
than their number.
-/
theorem variance_ofSamples
    (binding : Binding)
    (samples : List (List Rat)) :
    (ofSamples binding samples).variance =
      if samples.length < 2 then
        .error (.insufficientSamples 2 samples.length)
      else
        .ok ⟨binding.shape,
          eachColumn binding.length
            (fun values => squaredDeviations values / (samples.length - 1))
            samples⟩ := by
  rw [variance, variances, squares_ofSamples]
  by_cases few : samples.length < 2
  · have missing : ¬2 ≤ (ofSamples binding samples).count := Nat.not_le.mpr few
    rw [if_pos few, if_neg missing]
    rfl
  · have enough : 2 ≤ (ofSamples binding samples).count := Nat.not_lt.mp few
    have one_less : ((samples.length - 1 : Nat) : Rat) = samples.length - 1 :=
      Nat.cast_pred (Nat.lt_of_lt_of_le Nat.two_pos enough)
    rw [if_neg few, if_pos enough, Scalar.divideEach, map_eachColumn,
      ← one_less]
    rfl

end Moments

/-! ## Sums of a stream -/

/-- Samples that are added one after another sum up each column. -/
theorem foldl_addEach
    {length : Nat}
    {samples : List (List Rat)}
    (fits : ∀ sample ∈ samples, sample.length = length) :
    samples.foldl Scalar.addEach (Scalar.zeros length) =
      eachColumn length List.sum samples := by
  induction samples using List.reverseRecOn with
  | nil =>
      rw [eachColumn_nil]
      rfl
  | append_singleton earlier newest hypothesis =>
      rw [List.forall_mem_append, List.forall_mem_singleton] at fits
      rw [List.foldl_append, hypothesis fits.1]
      refine zipWith_eachColumn fits.2 fun index => ?_
      rw [List.sum_append, List.sum_singleton]

/-- The mean of the stream A is the mean of each component of its samples. -/
theorem Correlator.Sums.meanA
    [Exponential Rat]
    {correlator : Correlator Rat}
    {taken : List (Sample Rat)}
    (sums : correlator.Sums taken) :
    correlator.meanA.values =
      eachColumn correlator.lengthA average (taken.map (·.a)) := by
  have fits :
      ∀ sample ∈ taken.map (·.a), sample.length = correlator.lengthA := by
    intro sample member
    rcases List.mem_map.mp member with ⟨pair, present, rfl⟩
    exact (sums.fits pair present).1
  have totals := sums.sumA.trans (foldl_addEach fits)
  show correlator.streamMean correlator.sumA = _
  rw [Correlator.streamMean, totals, sums.count]
  by_cases none : taken.length = 0
  · rw [if_pos none, List.length_eq_zero_iff.mp none, List.map_nil,
      eachColumn_nil, eachColumn_nil, List.length_replicate, average_nil]
    rfl
  · rw [if_neg none, Scalar.divideEach, map_eachColumn]
    refine List.map_congr_left fun index _ => ?_
    rw [Function.comp_apply, average, length_column, List.length_map]
    rfl

/-! ## Whole runs -/

section Runs

variable [Exponential Rat]

/-- After any run the moments are those of the accepted samples. -/
theorem Accumulator.moments_afterAll
    {source : Source}
    {interval : Nat}
    {start : Accumulator Rat}
    {binding : Binding}
    (bound : source.bind = .ok binding)
    (created : Accumulator.moments source interval = .ok start)
    (requests : List (Request Rat)) :
    (start.afterAll requests).statistic =
      .moments (.ofSamples binding (start.samples source.id requests)) := by
  rcases moments_ok created with ⟨binding', bound', _, kind⟩
  cases bound.symm.trans bound'
  have reads := (Source.bind_ok bound).1
  have added :
      ∀ {samples : List (List Rat)} {sample : List Rat}
          {statistic : Statistic Rat},
        (Statistic.moments (.ofSamples binding samples)).add sample =
          .ok statistic →
        statistic = .moments (.ofSamples binding (samples ++ [sample])) := by
    intro samples sample statistic accepted
    rcases map_ok accepted with ⟨next, added, rfl⟩
    rw [Moments.add_ofSamples added]
  have blank : start.statistic =
      .moments (.ofSamples binding (([] : List (Sample Rat)).map (·.a))) := by
    rw [kind, Moments.start_eq_ofSamples]
    rfl
  refine afterAll_accepted source.id source.id
    (fun accumulator taken =>
      accumulator.statistic = .moments (.ofSamples binding (taken.map (·.a))))
    ?_ blank requests
  intro accumulator next request taken holds performed
  rw [List.map_append]
  cases step_of_perform performed with
  | add accepted =>
      rw [holds] at accepted
      exact added accepted
  | update accepted =>
      rw [holds] at accepted
      have delivered := Statistic.update_moments accepted
      rw [show (Moments.ofSamples binding _).binding.source = source.id
          from reads] at delivered
      exact added delivered
  | setInterval adjustable accepted =>
      show accumulator.statistic = _
      rw [holds]
      simp [Request.sample?]
  | reschedule accepted =>
      show accumulator.statistic = _
      rw [holds]
      simp [Request.sample?]
  | addPair other accepted => cases holds.symm.trans other
  | finalize other => cases holds.symm.trans other
  | clear other => cases holds.symm.trans other
  | setArguments other accepted => cases holds.symm.trans other

/--
In exact arithmetic and after any requests, the moments are the mean and the
squared deviations from it of the accepted samples in any order, and the mean is
the one that any correlator reports of the same samples.
-/
theorem one_pass_eq_two_passes
    {source : Source}
    {interval : Nat}
    {start : Accumulator Rat}
    (created : Accumulator.moments source interval = .ok start)
    (requests : List (Request Rat)) :
    let samples := start.samples source.id requests
    let size := source.shape.size
    ∃ moments,
      (start.afterAll requests).statistic = .moments moments ∧
      moments.count = samples.length ∧
      moments.mean = ⟨source.shape, eachColumn size average samples⟩ ∧
      moments.components.map (·.squares) =
        eachColumn size squaredDeviations samples ∧
      (moments.variance =
        if samples.length < 2 then
          .error (.insufficientSamples 2 samples.length)
        else
          .ok ⟨source.shape,
            eachColumn size
              (fun values => squaredDeviations values / (samples.length - 1))
              samples⟩) ∧
      (∀ variance,
        moments.variance = .ok variance →
        ∀ value ∈ variance.values, 0 ≤ value) ∧
      (∀ {interval' : Nat} {other : Accumulator Rat}
          {requests' : List (Request Rat)},
        Accumulator.moments source interval' = .ok other →
        (other.samples source.id requests').Perm samples →
        ∃ moments',
          (other.afterAll requests').statistic = .moments moments' ∧
          moments'.mean = moments.mean ∧
          moments'.variance = moments.variance) ∧
      (∀ {sourceA : Source} {sourceB : Option Source} {config : Config Rat}
          {interval' : Nat} {other : Accumulator Rat}
          {requests' : List (Request Rat)},
        Accumulator.correlator sourceA sourceB config interval' = .ok other →
        sourceA.shape.size = size →
        (other.samples sourceA.id requests').Perm samples →
        ∃ correlator,
          (other.afterAll requests').statistic = .correlator correlator ∧
          correlator.meanA = ⟨sourceA.shape, moments.mean.values⟩) := by
  intro samples size
  rcases Accumulator.moments_ok created with ⟨binding, bound, _, _⟩
  have shape := (Source.bind_ok bound).2
  have length : binding.length = size := Source.length_bind bound
  have variance := Moments.variance_ofSamples binding samples
  refine ⟨.ofSamples binding samples,
    Accumulator.moments_afterAll bound created requests, rfl, ?_, ?_, ?_, ?_,
    ?_, ?_⟩
  · rw [Moments.mean_ofSamples, shape, length]
  · rw [Moments.squares_ofSamples, length]
  · rw [variance, shape, length]
  · intro reported accepted value member
    rw [variance] at accepted
    split at accepted
    next => cases accepted
    next enough =>
      cases accepted
      rcases List.mem_map.mp member with ⟨index, _, rfl⟩
      have several : (1 : Rat) ≤ samples.length := by
        exact_mod_cast Nat.le_of_succ_le (Nat.not_lt.mp enough)
      exact div_nonneg (squaredDeviations_nonneg _) (sub_nonneg.mpr several)
  · intro interval' other requests' created' same
    refine ⟨_, Accumulator.moments_afterAll bound created' requests', ?_, ?_⟩
    · rw [Moments.mean_ofSamples, Moments.mean_ofSamples,
        eachColumn_of_perm average_of_perm same]
    · rw [Moments.variance_ofSamples, variance, same.length_eq,
        eachColumn_of_perm
          (fun equal => by rw [squaredDeviations_of_perm equal]) same]
  · intro sourceA sourceB config interval' other requests' created' sameSize
      same
    rcases Accumulator.exists_sums created' requests' with
      ⟨_, correlator, _, _, reached, _, boundA, sums⟩
    have values := sums.meanA
    rw [Accumulator.map_a_accepted, Correlator.lengthA,
      Source.length_bind boundA, sameSize, ← length,
      eachColumn_of_perm average_of_perm same] at values
    refine ⟨correlator, reached, ?_⟩
    rw [Moments.mean_ofSamples, ← values, ← (Source.bind_ok boundA).2]
    rfl

end Runs

/-- Three samples in a run of moments, with two of a wrong length between. -/
def trialMoments : List (Request Rat) :=
  [.add [1, 2], .add [5], .setInterval 3,
    .update fun source => [source.index, 3], .add [], .add [4, 7]]

/-- The same samples in another order. -/
def trialMomentsReordered : List (Request Rat) :=
  [.add [4, 7], .clear, .add [1, 2], .add [1], .add [0, 3]]

/--
The same samples in pairs with others, and more of them after the end of the
run.
-/
def trialPairs : List (Request Rat) :=
  [.addPair [0, 3] [5, 5], .addPair [4, 7] [1], .add [4, 7],
    .addPair [1, 2] [0, 1], .finalize, .add [9, 9]]

/-- A configuration under which the streams are averaged. -/
def trialAveraging : Config Rat :=
  { Config.standard 6 1 with linearWidth := 2, compressionA := .average }

theorem one_pass_eq_two_passes_trial :
    ∃ (_ : Exponential Rat) (start other pairs : Accumulator Rat)
        (moments moments' : Moments Rat) (correlator : Correlator Rat),
      Accumulator.moments (trialSource 0) 2 = .ok start ∧
      Accumulator.moments (trialSource 0) 5 = .ok other ∧
      Accumulator.correlator (trialSource 0) (some (trialSource 1))
          trialAveraging 1 =
        .ok pairs ∧
      (start.afterAll trialMoments).statistic = .moments moments ∧
      (other.afterAll trialMomentsReordered).statistic = .moments moments' ∧
      (pairs.afterAll trialPairs).statistic = .correlator correlator ∧
      moments.count = 3 ∧
      moments.mean = ⟨[2], [5 / 3, 4]⟩ ∧
      moments.variance = .ok ⟨[2], [13 / 3, 7]⟩ ∧
      moments'.mean = moments.mean ∧
      moments'.variance = moments.variance ∧
      correlator.meanA = moments.mean := by
  let exponential := Exponential.tangent
  have begun : ((Accumulator.moments (trialSource 0) 2).map fun start =>
      start.samples ⟨0⟩ trialMoments) = .ok [[1, 2], [0, 3], [4, 7]] := by
    decide +kernel
  have begun' :
      ((Accumulator.moments (trialSource 0) 5).map fun start =>
        start.samples ⟨0⟩ trialMomentsReordered) =
        .ok [[4, 7], [1, 2], [0, 3]] := by
    decide +kernel
  have paired :
      ((Accumulator.correlator (trialSource 0) (some (trialSource 1))
         trialAveraging 1).map fun start => start.samples ⟨0⟩ trialPairs) =
        .ok [[0, 3], [4, 7], [1, 2]] := by
    decide +kernel
  rcases map_ok begun with ⟨start, created, samples⟩
  rcases map_ok begun' with ⟨other, created', samples'⟩
  rcases map_ok paired with ⟨pairs, createdPairs, samplesA⟩
  rcases one_pass_eq_two_passes created trialMoments with
    ⟨moments, reached, count, mean, _, variance, _, reordered, correlated⟩
  rw [show start.samples (trialSource 0).id trialMoments = _ from samples] at *
  have shuffled : (other.samples (trialSource 0).id trialMomentsReordered).Perm
      [[1, 2], [0, 3], [4, 7]] := by
    rw [show other.samples (trialSource 0).id trialMomentsReordered = _
        from samples']
    decide
  have shuffledPairs : (pairs.samples (trialSource 0).id trialPairs).Perm
      [[1, 2], [0, 3], [4, 7]] := by
    rw [show pairs.samples (trialSource 0).id trialPairs = _ from samplesA]
    decide
  rcases reordered created' shuffled with
    ⟨moments', reached', sameMean, sameVariance⟩
  rcases correlated createdPairs rfl shuffledPairs with
    ⟨correlator, reachedPairs, meanA⟩
  refine ⟨exponential, start, other, pairs, moments, moments', correlator,
    created, created', createdPairs, reached, reached', reachedPairs, count, ?_,
    ?_, sameMean, sameVariance, ?_⟩
  · rw [mean]
    decide +kernel
  · rw [variance]
    decide +kernel
  · rw [meanA, mean]

end RunningStatistics
