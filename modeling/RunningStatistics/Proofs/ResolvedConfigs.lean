import RunningStatistics.Proofs.Acceptance
import RunningStatistics.Proofs.Binary64Signs
import RunningStatistics.Proofs.Courses
import RunningStatistics.Proofs.SamplingTimes

/-!
# Resolved configurations

A correlator keeps its configuration with the linear width resolved.  It was
checked before that, and new arguments are checked on their own later on; still
the configuration that a correlator reports is a sound one at all times, and the
same sources make the same correlator of it.

A resolved width is at least two, so that resolving it again changes nothing.

The width is even besides, and the arguments are finite.  As beam waists they
are positive, so that no term of a fluorescence autocorrelation divides by
zero.  What is made again has the configuration, its width and its rules of
compression included, and the same sampling time, levels, lag times and shape of
a value.
-/

namespace RunningStatistics

variable {R : Type} [Scalar R]

/-! ## Arguments -/

/-- Sound arguments are finite, and as beam waists not zero or less. -/
theorem Operation.checkArguments_ok
    {operation : Operation}
    {arguments : Axes R}
    (sound : operation.checkArguments arguments = .ok ()) :
    (∀ argument ∈ arguments.toList, Scalar.isFinite argument = true) ∧
    (operation = .fluorescence →
     ∀ argument ∈ arguments.toList, ¬argument ≤ Scalar.zero) := by
  rw [checkArguments] at sound
  split at sound
  next => cases sound
  next finite =>
    split at sound
    next => cases sound
    next positive =>
      constructor
      · simpa using finite
      · rintro rfl
        simpa using positive

/-- A quotient, unless it is one by zero. -/
def divide? (dividend divisor : R) : Option R :=
  if divisor ≤ Scalar.zero ∧ Scalar.zero ≤ divisor then
    none
  else
    some (dividend / divisor)

/--
The distance of two particles in units of beam waists, unless one of these is
zero.
-/
def beamDistance? (waists left right : Axes R) : Option R := do
  let x ← divide? (squaredDistance left.x right.x) waists.x
  let y ← divide? (squaredDistance left.y right.y) waists.y
  let z ← divide? (squaredDistance left.z right.z) waists.z
  return Scalar.sum [x, y, z]

/--
The terms of the fluorescence autocorrelation, unless one of them divides by
zero.
-/
def fluorescenceTerms?
    [Exponential R]
    (waists : Axes R)
    (a b : List R) :
    Option (List R) :=
  (List.zip (particles a) (particles b)).mapM fun pair =>
    (beamDistance? waists pair.1 pair.2).map fun distance =>
      Exponential.exp (-distance)

theorem divide?_eq
    {dividend divisor : R}
    (positive : ¬divisor ≤ Scalar.zero) :
    divide? dividend divisor = some (dividend / divisor) :=
  if_neg fun zero => positive zero.1

theorem beamDistance?_eq
    {waists : Axes R}
    (positive : ∀ waist ∈ waists.toList, ¬waist ≤ Scalar.zero)
    (left right : Axes R) :
    beamDistance? waists left right =
      some (beamDistance waists left right) := by
  simp only [Axes.toList, List.forall_mem_cons] at positive
  rcases positive with ⟨x, y, z, _⟩
  rw [beamDistance?, divide?_eq x, divide?_eq y, divide?_eq z]
  rfl

/-- With sound beam waists no term divides by zero. -/
theorem fluorescenceTerms?_eq
    [Exponential R]
    {waists : Axes R}
    (positive : ∀ waist ∈ waists.toList, ¬waist ≤ Scalar.zero)
    (a b : List R) :
    fluorescenceTerms? waists a b =
      some (Operation.fluorescence.terms waists a b) := by
  rw [fluorescenceTerms?]
  simp only [beamDistance?_eq positive, Option.map_some]
  exact List.mapM_pure.trans (congrArg some (List.map_zip_eq_zipWith ..))

/-! ## Configurations -/

namespace Config

variable {config : Config R}

theorem validate_ok (sound : config.check = .ok ()) :
    config.validate = .ok () := by
  rw [validate, sound]
  rfl

theorem check_withWidth
    {linearWidth : Nat}
    (sound : config.check = .ok ())
    (accepted : isWidth linearWidth = true) :
    { config with linearWidth }.check = .ok () := by
  rcases check_ok sound with ⟨largestLag, timeStep, _, span, arguments⟩
  exact check_of_parts largestLag timeStep accepted span arguments

/-- The resolved configuration is sound, too. -/
theorem check_resolve
    (sound : config.check = .ok ())
    (interval : Nat) :
    (config.resolve interval).check = .ok () := by
  rcases width_resolve sound interval with ⟨wide, even⟩
  rw [resolve] at wide even ⊢
  split at wide
  next derived =>
    rw [if_pos derived] at even ⊢
    exact check_withWidth sound (by simp [isWidth, wide, even])
  next given =>
    rw [if_neg given]
    exact sound

/-- A width that is not one stands for itself. -/
theorem resolve_of_wide
    {interval : Nat}
    (wide : 2 ≤ config.linearWidth) :
    config.resolve interval = config :=
  if_neg (Nat.ne_of_gt wide)

end Config

variable [Exponential R]

/-! ## Runs -/

/-- What a request does to a correlator leaves its configuration sound. -/
theorem Correlator.Step.check
    {correlator after : Correlator R}
    {request : Request R}
    (step : correlator.Step request after)
    (sound : correlator.config.check = .ok ()) :
    after.config.check = .ok () := by
  cases step with
  | receive handed running fitsA fitsB => exact sound
  | finalize =>
      rw [Correlator.finalize]
      split <;> exact sound
  | setArguments accepted => exact Config.check_withTerms sound accepted
  | reschedule => exact sound

/--
What every step preserves holds of a correlator after all requests, refused or
not, and the setup is kept.
-/
theorem Accumulator.afterAll_of_step
    {holds : Correlator R → Prop}
    (preserved :
      ∀ {before after : Correlator R} {request : Request R},
        before.Step request after → holds before → holds after)
    {accumulator : Accumulator R}
    {correlator : Correlator R}
    (kind : accumulator.statistic = .correlator correlator)
    (initially : holds correlator)
    (requests : List (Request R)) :
    ∃ final,
      (accumulator.afterAll requests).statistic = .correlator final ∧
      correlator.SameSetup final ∧
      holds final := by
  induction requests generalizing accumulator correlator with
  | nil => exact ⟨correlator, kind, .refl correlator, initially⟩
  | cons request rest hypothesis =>
      rw [afterAll, List.foldl_cons, ← afterAll]
      cases performed : accumulator.perform request with
      | error refusal =>
          rw [after_of_error performed]
          exact hypothesis kind initially
      | ok next =>
          rw [after_of_ok performed]
          rcases perform_correlator kind performed with ⟨after, reached, step⟩
          rcases hypothesis reached (preserved step initially) with
            ⟨final, last, same, held⟩
          exact ⟨final, last, step.sameSetup.trans same, held⟩

/-! ## Making a correlator again -/

namespace Correlator

variable
    {initial correlator other : Correlator R}
    {sourceA : Source}
    {sourceB : Option Source}
    {config : Config R}
    {interval : Nat}

omit [Scalar R] [Exponential R] in
theorem depth_eq (correlator : Correlator R) :
    correlator.depth = correlator.lags.length := by
  rw [depth, lags, List.length_map]

omit [Exponential R] in
theorem lagTimes_eq
    (lags : other.lags = correlator.lags)
    (samplingTime : other.samplingTime = correlator.samplingTime) :
    other.lagTimes = correlator.lagTimes := by
  rw [lagTimes, lagTimes, lagSteps_eq, lagSteps_eq, lags, samplingTime]

namespace Created

/-- The width that a correlator keeps is resolved. -/
theorem width
    (made : initial.Created sourceA sourceB config interval)
    (same : initial.SameSetup correlator) :
    2 ≤ correlator.config.linearWidth ∧
    correlator.config.linearWidth % 2 = 0 := by
  rw [same.config, made.resolved]
  exact Config.width_resolve made.sound interval

theorem operation
    (made : initial.Created sourceA sourceB config interval)
    (same : initial.SameSetup correlator) :
    correlator.config.operation = config.operation := by
  rw [same.operation, made.resolved, Config.operation_resolve]

theorem span
    (made : initial.Created sourceA sourceB config interval)
    (same : initial.SameSetup correlator) :
    correlator.config.span interval = config.span interval := by
  rw [same.config]
  show initial.config.span interval = _
  rw [made.resolved, Config.span_resolve]

end Created

end Correlator

/--
The same sources are accepted with the configuration that a correlator keeps,
and make a correlator of this configuration with the same lags.
-/
theorem Accumulator.exists_again
    {sourceA : Source}
    {sourceB : Option Source}
    {config : Config R}
    {interval : Nat}
    {start : Accumulator R}
    {initial correlator : Correlator R}
    (created :
      Accumulator.correlator sourceA sourceB config interval = .ok start)
    (kind : start.statistic = .correlator initial)
    (same : initial.SameSetup correlator)
    (sound : correlator.config.check = .ok ()) :
    ∃ again fresh,
      Accumulator.correlator sourceA sourceB correlator.config interval =
        .ok again ∧
      again.statistic = .correlator fresh ∧
      fresh.config = correlator.config ∧
      fresh.samplingTime = correlator.samplingTime ∧
      fresh.valueShape = correlator.valueShape ∧
      fresh.lags = correlator.lags := by
  rcases lengths_ok created with ⟨_, kind', made, lengthA, lengthB⟩
  cases kind.symm.trans kind'
  have nonemptyA : 0 < sourceA.shape.size :=
    lengthA ▸ initial.bindingA.length_pos
  have nonemptyB : 0 < (sourceB.getD sourceA).shape.size :=
    lengthB ▸ initial.effectiveBindingB.length_pos
  have fits : correlator.config.operation.valueShape sourceA.shape.size
      (sourceB.getD sourceA).shape.size = .ok initial.valueShape := by
    rw [made.operation same, ← lengthA, ← lengthB]
    exact made.fitting
  rcases exists_correlator made.interval_pos sound nonemptyA nonemptyB fits with
    ⟨again, created'⟩
  rcases lengths_ok created' with ⟨fresh, reached, made', lengthA', lengthB'⟩
  have resolved : fresh.config = correlator.config :=
    made'.resolved.trans (Config.resolve_of_wide (made.width same).1)
  have shape : fresh.valueShape = initial.valueShape := by
    have fitting := made'.fitting
    rw [lengthA', lengthB', fits] at fitting
    exact (Except.ok.inj fitting).symm
  refine ⟨again, fresh, created', reached, resolved, ?_, ?_, ?_⟩
  · rw [made'.samplingTime, made.samplingTime_eq same, ← made.timeStep_eq same]
    rfl
  · rw [shape, same.valueShape]
  · rw [made'.lags, resolved, made.span same, same.lags, made.lags, same.config]

/-! ## In binary64 -/

/-- A number that is not zero or less is positive. -/
theorem Double.zero_lt_of_finite
    {x : Float}
    (finite : Scalar.isFinite x = true)
    (positive : ¬x ≤ Scalar.zero) :
    Scalar.zero < x := by
  replace finite : x.toModel.unpack.isFinite = true := finite
  rw [Double.le_iff, unpack_zero] at positive
  rw [Double.lt_iff, unpack_zero]
  generalize x.toModel.unpack = unpacked at finite positive
  cases unpacked with
  | notANumber => cases finite
  | infinity sign => cases finite
  | zero sign => exact absurd rfl positive
  | finite sign mantissa exponent above =>
      cases sign with
      | positive => rfl
      | negative => exact absurd rfl positive

/--
After any requests, refused or not, the configuration that a correlator keeps is
sound, and the same sources with this configuration and the interval of the
creation make the same correlator.
-/
theorem resolved_config_reproduces
    {sourceA : Source}
    {sourceB : Option Source}
    {config : Config Float}
    {interval : Nat}
    {start : Accumulator Float}
    (created :
      Accumulator.correlator sourceA sourceB config interval = .ok start)
    (requests : List (Request Float)) :
    ∃ correlator,
      (start.afterAll requests).statistic = .correlator correlator ∧
      correlator.config.validate = .ok () ∧
      2 ≤ correlator.config.linearWidth ∧
      correlator.config.linearWidth % 2 = 0 ∧
      (∀ argument ∈ correlator.config.arguments.toList,
        Scalar.isFinite argument = true) ∧
      (correlator.config.operation = .fluorescence →
       (∀ argument ∈ correlator.config.arguments.toList,
         Scalar.zero < argument) ∧
       ∀ a b,
         fluorescenceTerms? correlator.config.arguments a b =
           some (correlator.config.rules.terms a b)) ∧
      ∃ again fresh,
        Accumulator.correlator sourceA sourceB correlator.config interval =
          .ok again ∧
        again.statistic = .correlator fresh ∧
        fresh.config = correlator.config ∧
        fresh.samplingTime = correlator.samplingTime ∧
        fresh.depth = correlator.depth ∧
        fresh.lagTimes = correlator.lagTimes ∧
        fresh.valueShape = correlator.valueShape := by
  rcases Accumulator.correlator_ok created with ⟨initial, kind, made⟩
  have begun : initial.config.check = .ok () := by
    rw [made.resolved]
    exact Config.check_resolve made.sound interval
  rcases Accumulator.afterAll_of_step Correlator.Step.check kind
      begun requests with
    ⟨correlator, reached, same, sound⟩
  rcases Operation.checkArguments_ok (Config.check_ok sound).2.2.2.2 with
    ⟨finite, positive⟩
  rcases Accumulator.exists_again created kind same sound with
    ⟨again, fresh, created', reached', resolved, time, shape, lags⟩
  rcases made.width same with ⟨wide, even⟩
  refine ⟨correlator, reached, Config.validate_ok sound, wide, even, finite, ?_,
    again, fresh, created', reached', resolved, time, ?_,
    Correlator.lagTimes_eq lags time, shape⟩
  · intro fluorescence
    have nonzero := positive fluorescence
    constructor
    · intro argument member
      exact Double.zero_lt_of_finite (finite argument member)
        (nonzero argument member)
    · intro a b
      rw [fluorescenceTerms?_eq nonzero, Config.rules, fluorescence]
  · rw [Correlator.depth_eq, Correlator.depth_eq, lags]

/-- Particles that are seen over a span without compression. -/
def trialBeam : Config Float :=
  { Config.standard (Scalar.ofNat 9) (Scalar.ofNat 1) with
    linearWidth := 1
    operation := .fluorescence
    arguments := ⟨Scalar.ofNat 1, Scalar.ofNat 2, Scalar.ofNat 3⟩ }

/-- Beam waists of which one is zero, which are refused, and others. -/
def trialWaists : List (Request Float) :=
  [.setArguments ⟨Scalar.ofNat 1, Scalar.zero, Scalar.ofNat 1⟩,
    .setArguments ⟨Scalar.half, Scalar.half, Scalar.half⟩, .reschedule 5,
    .finalize]

theorem resolved_config_reproduces_trial :
    ∃ (start again : Accumulator Float) (correlator fresh : Correlator Float),
      Accumulator.correlator ⟨⟨0⟩, [2, 3]⟩ none trialBeam 2 = .ok start ∧
      (start.afterAll trialWaists).statistic = .correlator correlator ∧
      correlator.config.validate = .ok () ∧
      2 ≤ correlator.config.linearWidth ∧
      Accumulator.correlator ⟨⟨0⟩, [2, 3]⟩ none correlator.config 2 =
        .ok again ∧
      again.statistic = .correlator fresh ∧
      fresh.lagTimes = correlator.lagTimes := by
  have accepted :
      (Accumulator.correlator ⟨⟨0⟩, [2, 3]⟩ none trialBeam 2).toBool =
        true := by
    decide +kernel
  rcases exists_ok accepted with ⟨start, created⟩
  rcases resolved_config_reproduces created trialWaists with
    ⟨correlator, reached, valid, wide, _, _, _, again, fresh, created',
      reached', _, _, _, times, _⟩
  exact ⟨start, again, correlator, fresh, created, reached, valid, wide,
    created', reached', times⟩

end RunningStatistics
