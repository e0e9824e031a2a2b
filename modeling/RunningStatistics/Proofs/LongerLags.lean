import RunningStatistics.Proofs.Binary64Spans
import RunningStatistics.Proofs.Courses
import RunningStatistics.Proofs.Deliveries

/-!
# Larger largest lags

Two correlators that differ only in their largest lag take the same course
under the same requests: each request is carried out by both, or refused to
both for the same cause.  The one of the larger lag has more levels, and its
coarsest level may be an inner one of the other; but the streams do not depend
on how many levels there are, and a level that both have covers at least the
lags that it covers in the smaller grid.

So the table of the one begins with that of the other.

This holds in every state that the two reach, whether the requests are carried
out or not.  The number of samples and their means agree, too.
-/

namespace RunningStatistics

variable {R : Type} [Scalar R]

/-! ## Tables that begin with others -/

namespace LagRange

/-- The rows of the shorter grid are the first rows of the longer one. -/
theorem Begins.table_prefix
    {short long : List LagRange}
    (begins : Begins short long)
    (width : Nat)
    (next : List (Arrival R) → List (Arrival R))
    (stream : List (Arrival R)) :
    table width next short stream <+: table width next long stream := by
  induction short generalizing long stream with
  | nil => exact List.nil_prefix
  | cons range above hypothesis =>
      cases long with
      | nil => exact begins.elim
      | cons longer higher =>
          rw [table, table]
          cases above with
          | nil =>
              rw [table, List.append_nil]
              exact (Continues.map_prefix begins _).trans
                (List.prefix_append _ _)
          | cons second rest =>
              rcases begins with ⟨continues, same, begins⟩
              rw [continues.first, continues.count_eq same]
              exact (List.prefix_append_right_inj _).mpr
                (hypothesis begins (next stream))

end LagRange

variable [Exponential R]

namespace Correlator

/-! ## Steps of two correlators -/

/-- How many samples were taken in, and their sums. -/
structure Tally (R : Type) where
  count : Nat
  sumA : List R
  sumB : List R

/-- The tally with one more sample. -/
def Tally.add (tally : Tally R) (arrival : Arrival R) : Tally R :=
  ⟨tally.count + 1, Scalar.addEach tally.sumA arrival.sample.a,
    Scalar.addEach tally.sumB arrival.sample.b⟩

/-- The samples that a correlator has taken in, and their sums. -/
def tally (correlator : Correlator R) : Tally R :=
  ⟨correlator.count, correlator.sumA, correlator.sumB⟩

/-- A request adds its arrival, if it has one, to the tally. -/
theorem Step.tally
    {correlator after : Correlator R}
    {request : Request R}
    (step : correlator.Step request after) :
    after.tally =
      (correlator.arrival request).foldl Tally.add correlator.tally := by
  cases step with
  | receive handed running fitsA fitsB =>
      rw [arrival, handed]
      rfl
  | finalize =>
      rw [Correlator.finalize]
      split <;> rfl
  | setArguments sound => rfl
  | reschedule => rfl

/--
Two correlators on the same course, of which the second has a larger largest
lag; the linear width may have been derived from it.
-/
structure Extends (short long : Correlator R) : Prop where
  config : ∃ largestLag linearWidth,
    long.config = { short.config with largestLag, linearWidth }
  samplingTime : long.samplingTime = short.samplingTime
  bindingA : long.bindingA = short.bindingA
  bindingB : long.bindingB = short.bindingB
  valueShape : long.valueShape = short.valueShape
  lags : LagRange.Begins short.lags long.lags
  tally : long.tally = short.tally
  courses : ∃ course, short.Stands course ∧ long.Stands course

namespace Extends

variable {short long short' long' : Correlator R}

theorem effectiveBindingB (extension : short.Extends long) :
    long.effectiveBindingB = short.effectiveBindingB := by
  rw [Correlator.effectiveBindingB, Correlator.effectiveBindingB,
    extension.bindingA, extension.bindingB]

theorem operation (extension : short.Extends long) :
    long.config.operation = short.config.operation := by
  rcases extension.config with ⟨largestLag, linearWidth, config⟩
  rw [config]

theorem arguments (extension : short.Extends long) :
    long.config.arguments = short.config.arguments := by
  rcases extension.config with ⟨largestLag, linearWidth, config⟩
  rw [config]

theorem isFinalized (extension : short.Extends long) :
    long.isFinalized = short.isFinalized := by
  rcases extension.courses with ⟨course, stands, stands'⟩
  rw [stands.ended, stands'.ended]

/-- A request hands the same sample to both correlators. -/
theorem arrival
    (extension : short.Extends long)
    (request : Request R) :
    long.arrival request = short.arrival request := by
  rw [Correlator.arrival, Correlator.arrival, extension.bindingA,
    extension.effectiveBindingB, extension.operation, extension.arguments]

/-- One course describes what both correlators took in. -/
theorem course_after
    (extension : short.Extends long)
    (course : Course R)
    (request : Request R) :
    course.after long request = course.after short request := by
  simp only [Course.after, extension.arguments, extension.arrival]

/-- Steps that carry out the same request keep the two on one course. -/
theorem step
    (extension : short.Extends long)
    {request : Request R}
    (first : short.Step request short')
    (second : long.Step request long') :
    short'.Extends long' where
  config := by
    rcases extension.config with ⟨largestLag, linearWidth, config⟩
    refine ⟨largestLag, linearWidth, ?_⟩
    rw [second.sameSetup.config, second.arguments, config,
      first.sameSetup.config, first.arguments]
  samplingTime := by
    rw [second.sameSetup.samplingTime, first.sameSetup.samplingTime,
      extension.samplingTime]
  bindingA := by
    rw [second.sameSetup.bindingA, first.sameSetup.bindingA, extension.bindingA]
  bindingB := by
    rw [second.sameSetup.bindingB, first.sameSetup.bindingB, extension.bindingB]
  valueShape := by
    rw [second.sameSetup.valueShape, first.sameSetup.valueShape,
      extension.valueShape]
  lags := by
    rw [second.sameSetup.lags, first.sameSetup.lags]
    exact extension.lags
  tally := by rw [second.tally, first.tally, extension.arrival, extension.tally]
  courses := by
    rcases extension.courses with ⟨course, stands, stands'⟩
    refine ⟨course.after short request, stands.step first, ?_⟩
    rw [← extension.course_after]
    exact stands'.step second

theorem addPair
    (extension : short.Extends long)
    (a b : List R) :
    Alike Extends (short.addPair a b) (long.addPair a b) := by
  have same : long.checkPair a b = short.checkPair a b := by
    rw [checkPair, checkPair, extension.isFinalized, lengthA, lengthA, lengthB,
      lengthB, extension.bindingA, extension.effectiveBindingB]
  cases checked : short.checkPair a b with
  | error cause =>
      rw [addPair_eq, addPair_eq, same, checked]
      exact .error cause
  | ok _ =>
      have first : short.addPair a b = .ok (short.receive ⟨a, b⟩) := by
        rw [addPair_eq, checked]
        rfl
      have second : long.addPair a b = .ok (long.receive ⟨a, b⟩) := by
        rw [addPair_eq, same, checked]
        rfl
      have handed :
          ∀ sourceA sourceB,
            (Request.addPair a b).sample? sourceA sourceB = some ⟨a, b⟩ :=
        fun _ _ => rfl
      rw [first, second]
      exact .ok (extension.step (step_of_addPair (handed _ _) first)
        (step_of_addPair (handed _ _) second))

theorem setArguments
    (extension : short.Extends long)
    (arguments : Axes R) :
    Alike Extends (short.setArguments arguments)
      (long.setArguments arguments) := by
  rw [Correlator.setArguments, Correlator.setArguments, extension.operation]
  cases sound : short.config.operation.checkArguments arguments with
  | error fault => exact .error _
  | ok _ =>
      have sound' := sound
      rw [← extension.operation] at sound'
      exact .ok (extension.step (.setArguments sound) (.setArguments sound'))

end Extends

end Correlator

/-! ## Runs of two correlators -/

namespace Accumulator

/-- What the owner is told of a request. -/
def reply
    (accumulator : Accumulator R)
    (request : Request R) :
    Except Refusal Unit :=
  (accumulator.perform request).map fun _ => ()

/-- Two accumulators of one interval whose correlators are on one course. -/
structure Extends (short long : Accumulator R) : Prop where
  sampling : long.sampling = short.sampling
  statistic : ∃ shorter longer, short.statistic = .correlator shorter ∧
    long.statistic = .correlator longer ∧ shorter.Extends longer

namespace Extends

variable {short long : Accumulator R}

/-- Both correlators accept the pair, or both reject it for the same cause. -/
theorem perform_addPair
    (extension : short.Extends long)
    (a b : List R) :
    Alike Extends (short.perform (.addPair a b))
      (long.perform (.addPair a b)) := by
  rcases extension with ⟨same, shorter, longer, kind, kind', extension⟩
  rw [perform, perform, addPair?, addPair?, kind, kind']
  apply Alike.mapError
  apply (extension.addPair a b).map
  intro next next' after
  exact ⟨congrArg Sampling.recordUpdate same, next, next', rfl, rfl, after⟩

/-- A request is refused to both for the same cause, or carried out by both. -/
theorem perform
    (extension : short.Extends long)
    (request : Request R) :
    Alike Extends (short.perform request) (long.perform request) := by
  have pair := extension.perform_addPair
  rcases extension with ⟨same, shorter, longer, kind, kind', extension⟩
  cases request with
  | add sample =>
      rw [← perform_through_id kind, ← perform_through_id kind']
      exact pair sample sample
  | addPair a b => exact pair a b
  | update readings =>
      rw [← perform_through_id kind, ← perform_through_id kind',
        extension.bindingA, extension.effectiveBindingB]
      exact pair _ _
  | finalize =>
      rw [perform_finalize kind, perform_finalize kind']
      exact .ok ⟨same, _, _, rfl, rfl, extension.step .finalize .finalize⟩
  | clear =>
      rw [Accumulator.perform, Accumulator.perform, clear?, clear?, kind, kind']
      exact .error _
  | setArguments arguments =>
      rw [Accumulator.perform, Accumulator.perform, setArguments?,
        setArguments?, kind, kind']
      apply Alike.mapError
      apply (extension.setArguments arguments).map
      intro next next' after
      exact ⟨same, next, next', rfl, rfl, after⟩
  | setInterval interval =>
      rw [Accumulator.perform, Accumulator.perform, Accumulator.setInterval,
        Accumulator.setInterval, kind, kind']
      exact .error _
  | reschedule interval =>
      rw [Accumulator.perform, Accumulator.perform, Accumulator.reschedule,
        Accumulator.reschedule, same]
      apply Alike.mapError
      cases short.sampling.setInterval interval with
      | error cause => exact .error cause
      | ok sampling => exact .ok ⟨rfl, shorter, longer, kind, kind', extension⟩

/-- A request, refused or not, keeps the correlators on one course. -/
theorem after
    (extension : short.Extends long)
    (request : Request R) :
    (short.after request).Extends (long.after request) := by
  have outcomes := extension.perform request
  rw [Accumulator.after, Accumulator.after]
  generalize short.perform request = left at outcomes ⊢
  generalize long.perform request = right at outcomes ⊢
  cases outcomes with
  | error cause => exact extension
  | ok next => exact next

/-- So does every sequence of requests. -/
theorem afterAll
    (extension : short.Extends long)
    (requests : List (Request R)) :
    (short.afterAll requests).Extends (long.afterAll requests) := by
  induction requests generalizing short long with
  | nil => exact extension
  | cons request rest hypothesis => exact hypothesis (extension.after request)

theorem reply
    (extension : short.Extends long)
    (request : Request R) :
    long.reply request = short.reply request :=
  ((extension.perform request).map_const_eq ()).symm

end Extends

end Accumulator

/-! ## What the two report -/

namespace Correlator.Extends

variable {short long : Correlator R}

/-- The lags of the shorter correlator are the first ones of the longer one. -/
theorem lagSteps_prefix (extension : short.Extends long) :
    short.lagSteps <+: long.lagSteps := by
  rw [lagSteps_eq, lagSteps_eq]
  exact extension.lags.steps_prefix

theorem lagTimes_prefix (extension : short.Extends long) :
    short.lagTimes <+: long.lagTimes := by
  rw [lagTimes, lagTimes, extension.samplingTime]
  exact extension.lagSteps_prefix.map _

/-- The table of the larger lag begins with that of the smaller one. -/
theorem rows_prefix (extension : short.Extends long) :
    short.rows <+: long.rows := by
  rcases extension.courses with ⟨course, stands, stands'⟩
  rcases extension.config with ⟨largestLag, linearWidth, config⟩
  have next : course.next long.config = course.next short.config := by
    rw [config]
    rfl
  rw [stands.rows_eq, stands'.rows_eq, next, extension.valueShape]
  exact extension.lags.table_prefix _ _ _

/-- Cut to the lags of the shorter correlator, the tables agree. -/
theorem take_rows (extension : short.Extends long) :
    long.rows.take short.lagCount = short.rows := by
  rcases extension.courses with ⟨course, stands, stands'⟩
  rw [← stands.length_rows]
  exact (List.prefix_iff_eq_take.mp extension.rows_prefix).symm

theorem take_sampleSizes (extension : short.Extends long) :
    long.sampleSizes.take short.lagCount = short.sampleSizes := by
  rw [sampleSizes, ← List.map_take, extension.take_rows, sampleSizes]

/-- The result at a common lag does not depend on the largest lag. -/
theorem row_result
    (extension : short.Extends long)
    {index : Nat}
    (within : index < short.lagCount) :
    long.result.row index = short.result.row index := by
  rcases extension.courses with ⟨course, stands, stands'⟩
  rw [← stands.length_rows] at within
  have present : short.rows[index]? = some short.rows[index] :=
    List.getElem?_eq_getElem within
  have present' : long.rows[index]? = some short.rows[index] := by
    rcases extension.rows_prefix with ⟨appended, rows⟩
    rw [← rows, List.getElem?_append_left within, present]
  rw [Correlator.row_result stands.uniform present,
    Correlator.row_result stands'.uniform present']

theorem count (extension : short.Extends long) : long.count = short.count :=
  congrArg Tally.count extension.tally

theorem meanA (extension : short.Extends long) : long.meanA = short.meanA := by
  have sums : long.sumA = short.sumA := congrArg Tally.sumA extension.tally
  rw [Correlator.meanA, Correlator.meanA, streamMean, streamMean,
    extension.count, sums, extension.bindingA]

theorem meanB (extension : short.Extends long) : long.meanB = short.meanB := by
  have sums : long.sumB = short.sumB := congrArg Tally.sumB extension.tally
  rw [Correlator.meanB, Correlator.meanB, streamMean, streamMean,
    extension.count, sums, extension.effectiveBindingB]

end Correlator.Extends

/-! ## Correlators that are created alike -/

omit [Exponential R] in
/-- Another largest lag changes no more than itself and the derived width. -/
theorem Config.resolve_withLargestLag
    (config : Config R)
    (longest : R)
    (interval : Nat) :
    ∃ largestLag linearWidth,
      { config with largestLag := longest }.resolve interval =
        { config.resolve interval with largestLag, linearWidth } := by
  rw [resolve, resolve]
  split
  · exact ⟨_, _, rfl⟩
  · exact ⟨_, _, rfl⟩

/--
Correlators whose configurations differ in the largest lag alone begin on one
course.
-/
theorem Correlator.extends_of_create
    {config : Config R}
    {longest : R}
    {bindingA : Binding}
    {bindingB : Option Binding}
    {interval : Nat}
    {short long : Correlator R}
    (made : create config bindingA bindingB interval = .ok short)
    (made' :
      create { config with largestLag := longest } bindingA bindingB interval =
        .ok long)
    (lags : LagRange.Begins short.lags long.lags)
    (stands : short.Stands ⟨[], none⟩)
    (stands' : long.Stands ⟨[], none⟩) :
    short.Extends long := by
  rcases map_ok made with ⟨valueShape, fitting, rfl⟩
  rcases map_ok made' with ⟨valueShape', fitting', rfl⟩
  cases fitting.symm.trans fitting'
  refine ⟨config.resolve_withLargestLag longest interval, ?_, rfl, rfl, rfl,
    lags, rfl, _, stands, stands'⟩
  show
    ({ config with largestLag := longest }.resolve interval).samplingTime
        interval =
      (config.resolve interval).samplingTime interval
  rw [Config.samplingTime_resolve, Config.samplingTime_resolve]
  rfl

/--
Accepted correlators of binary64 that differ in their largest lag are on one
course.
-/
theorem Accumulator.extends_of_created
    {sourceA : Source}
    {sourceB : Option Source}
    {config : Config Float}
    {longest : Float}
    {interval : Nat}
    {short long : Accumulator Float}
    (ordered : config.largestLag ≤ longest)
    (created :
      Accumulator.correlator sourceA sourceB config interval = .ok short)
    (created' :
      Accumulator.correlator sourceA sourceB
          { config with largestLag := longest } interval =
        .ok long) :
    short.Extends long := by
  rcases correlator_parts created with
    ⟨bindingA, bindingB, shorter, boundA, boundB, spaced, made, kind⟩
  rcases correlator_parts created' with
    ⟨bindingA', bindingB', longer, boundA', boundB', spaced', made', kind'⟩
  cases boundA.symm.trans boundA'
  cases boundB.symm.trans boundB'
  rcases correlator_ok created with ⟨_, same, begun⟩
  rcases correlator_ok created' with ⟨_, same', begun'⟩
  cases kind.symm.trans same
  cases kind'.symm.trans same'
  refine ⟨Except.ok.inj (spaced'.symm.trans spaced), shorter, longer, kind,
    kind', ?_⟩
  refine Correlator.extends_of_create made made' ?_
    (begun.records.stands (begun.fits (.refl _)))
    (begun'.records.stands (begun'.fits (.refl _)))
  rw [begun.lags, begun'.lags, begun.resolved, begun'.resolved]
  exact Double.begins_grid begun.sound begun'.sound ordered begun.interval_pos

/--
Of two accepted correlators that differ in their largest lag and are sent the
same requests, the one has the lags, sums, numbers of pairs and results of the
other in its first rows, and gives the same answers.
-/
theorem longer_lags_append_rows
    {sourceA : Source}
    {sourceB : Option Source}
    {config : Config Float}
    {longest : Float}
    {interval : Nat}
    {short long : Accumulator Float}
    (ordered : config.largestLag ≤ longest)
    (created :
      Accumulator.correlator sourceA sourceB config interval = .ok short)
    (created' :
      Accumulator.correlator sourceA sourceB
          { config with largestLag := longest } interval =
        .ok long)
    (requests : List (Request Float)) :
    ∃ shorter longer,
      (short.afterAll requests).statistic = .correlator shorter ∧
      (long.afterAll requests).statistic = .correlator longer ∧
      (∀ request,
        (long.afterAll requests).reply request =
          (short.afterAll requests).reply request) ∧
      shorter.lagSteps <+: longer.lagSteps ∧
      shorter.lagTimes <+: longer.lagTimes ∧
      longer.rows.take shorter.lagCount = shorter.rows ∧
      longer.sampleSizes.take shorter.lagCount = shorter.sampleSizes ∧
      (∀ index < shorter.lagCount,
        longer.result.row index = shorter.result.row index) ∧
      longer.count = shorter.count ∧
      longer.meanA = shorter.meanA ∧
      longer.meanB = shorter.meanB := by
  have reached :=
    (Accumulator.extends_of_created ordered created created').afterAll requests
  rcases reached.statistic with ⟨shorter, longer, kind, kind', extension⟩
  refine ⟨shorter, longer, kind, kind', reached.reply,
    extension.lagSteps_prefix, extension.lagTimes_prefix, extension.take_rows,
    extension.take_sampleSizes, ?_, extension.count, extension.meanA,
    extension.meanB⟩
  intro index within
  exact extension.row_result within

/--
The trial run up to its end, with a request in between that no correlator knows.
-/
def trialRunToEnd : List (Request Float) :=
  trialRequests ++ [.clear, .finalize, .add [Scalar.ofNat 1, Scalar.ofNat 1]]

theorem longer_lags_append_rows_trial :
    ∃ (short long : Accumulator Float) (shorter longer : Correlator Float),
      trialConfig.largestLag ≤ Scalar.ofNat 40 ∧
      Accumulator.correlator (trialSource 0) (some (trialSource 1))
          trialConfig 2 =
        .ok short ∧
      Accumulator.correlator (trialSource 0) (some (trialSource 1))
          { trialConfig with largestLag := Scalar.ofNat 40 } 2 =
        .ok long ∧
      (short.afterAll trialRunToEnd).statistic = .correlator shorter ∧
      (long.afterAll trialRunToEnd).statistic = .correlator longer ∧
      (∀ request,
        (long.afterAll trialRunToEnd).reply request =
          (short.afterAll trialRunToEnd).reply request) ∧
      shorter.lagSteps <+: longer.lagSteps ∧
      longer.rows.take shorter.lagCount = shorter.rows ∧
      ∀ index < shorter.lagCount,
        longer.result.row index = shorter.result.row index := by
  rcases trial_accepted with ⟨short, _, created, _⟩
  have accepted : (Accumulator.correlator (trialSource 0) (some (trialSource 1))
      { trialConfig with largestLag := Scalar.ofNat 40 } 2).toBool = true := by
    decide +kernel
  have ordered : trialConfig.largestLag ≤ Scalar.ofNat 40 := by decide +kernel
  rcases exists_ok accepted with ⟨long, created'⟩
  rcases longer_lags_append_rows ordered created created' trialRunToEnd with
    ⟨shorter, longer, kind, kind', replies, lags, _, rows, _, results, _⟩
  exact ⟨short, long, shorter, longer, ordered, created, created', kind, kind',
    replies, lags, rows, results⟩

end RunningStatistics
