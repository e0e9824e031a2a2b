import RunningStatistics.Proofs.LagTable
import RunningStatistics.Proofs.LevelStreams
import RunningStatistics.Proofs.Requests
import RunningStatistics.Scalar.Binary64

/-!
# Runs of a correlator

What a correlator is at every moment between its creation and the end of its
run: its setup is the one it was created with, and its levels follow the
streams of everything it has taken in.  Each of the two is shown for one step
and then for all the requests of a run.
-/

namespace RunningStatistics

variable {R : Type}

/-! ## Accepted parameters -/

namespace Config

variable [Scalar R]

/-- What an accepted configuration was checked for. -/
theorem check_ok
    {config : Config R}
    (sound : config.check = .ok ()) :
    Scalar.isPositive config.largestLag = true ∧
    Scalar.isPositive config.timeStep = true ∧
    isWidth config.linearWidth = true ∧
    ¬Scalar.ofNat spanLimit < config.largestLag / config.timeStep ∧
    config.operation.checkArguments config.arguments = .ok () := by
  rw [check] at sound
  split at sound
  next => cases sound
  next largestLag =>
    split at sound
    next => cases sound
    next timeStep =>
      split at sound
      next => cases sound
      next linearWidth =>
        split at sound
        next => cases sound
        next span =>
          exact ⟨by simpa using largestLag, by simpa using timeStep,
            by simpa using linearWidth, span, mapError_ok sound⟩

theorem check_of_parts
    {config : Config R}
    (largestLag : Scalar.isPositive config.largestLag = true)
    (timeStep : Scalar.isPositive config.timeStep = true)
    (linearWidth : isWidth config.linearWidth = true)
    (span : ¬Scalar.ofNat spanLimit < config.largestLag / config.timeStep)
    (arguments : config.operation.checkArguments config.arguments = .ok ()) :
    config.check = .ok () := by
  rw [check, if_neg (by simp [largestLag]), if_neg (by simp [timeStep]),
    if_neg (by simp [linearWidth]), if_neg span, arguments]
  rfl

/--
The width that is used is even and at least two, whether it was given or
derived.
-/
theorem width_resolve
    {config : Config R}
    (sound : config.check = .ok ())
    (interval : Nat) :
    2 ≤ (config.resolve interval).linearWidth ∧
    (config.resolve interval).linearWidth % 2 = 0 := by
  rcases check_ok sound with ⟨_, _, width, _, _⟩
  rw [resolve]
  split
  next =>
    simp only [LagGrid.wholeWidth]
    omega
  next several => simpa [isWidth, several] using width

end Config

namespace Correlator

/-! ## What never changes -/

/--
Two states of one correlator: nothing but its arguments and what it took in may
differ.
-/
structure SameSetup (before after : Correlator R) : Prop where
  config :
    after.config = { before.config with arguments := after.config.arguments }
  samplingTime : after.samplingTime = before.samplingTime
  bindingA : after.bindingA = before.bindingA
  bindingB : after.bindingB = before.bindingB
  valueShape : after.valueShape = before.valueShape
  lags : after.lags = before.lags

namespace SameSetup

variable {before middle after : Correlator R}

theorem refl (correlator : Correlator R) : correlator.SameSetup correlator :=
  ⟨rfl, rfl, rfl, rfl, rfl, rfl⟩

theorem trans
    (first : before.SameSetup middle)
    (second : middle.SameSetup after) :
    before.SameSetup after where
  config := by rw [second.config, first.config]
  samplingTime := second.samplingTime.trans first.samplingTime
  bindingA := second.bindingA.trans first.bindingA
  bindingB := second.bindingB.trans first.bindingB
  valueShape := second.valueShape.trans first.valueShape
  lags := second.lags.trans first.lags

theorem operation (same : before.SameSetup after) :
    after.config.operation = before.config.operation := by
  rw [same.config]

theorem effectiveBindingB (same : before.SameSetup after) :
    after.effectiveBindingB = before.effectiveBindingB := by
  rw [Correlator.effectiveBindingB, Correlator.effectiveBindingB, same.bindingA,
    same.bindingB]

theorem lengthA (same : before.SameSetup after) :
    after.lengthA = before.lengthA := by
  rw [Correlator.lengthA, Correlator.lengthA, same.bindingA]

theorem lengthB (same : before.SameSetup after) :
    after.lengthB = before.lengthB := by
  rw [Correlator.lengthB, Correlator.lengthB, same.effectiveBindingB]

theorem reduce
    [Scalar R]
    [Exponential R]
    (same : before.SameSetup after) :
    after.config.rules.reduce = before.config.rules.reduce := by
  rw [same.config]
  rfl

end SameSetup

variable [Scalar R] [Exponential R]

/-- Taking in a sample leaves the setup of a correlator as it is. -/
theorem sameSetup_receive
    (correlator : Correlator R)
    (sample : Sample R) :
    correlator.SameSetup (correlator.receive sample) :=
  ⟨rfl, rfl, rfl, rfl, rfl, Hierarchy.map_lags_ingest _ _ _⟩

theorem sameSetup_finalize (correlator : Correlator R) :
    correlator.SameSetup correlator.finalize := by
  rw [finalize]
  split
  · exact SameSetup.refl correlator
  · exact ⟨rfl, rfl, rfl, rfl, rfl, Hierarchy.map_lags_flush _ _ _⟩

/-- A request leaves the setup of a correlator as it is. -/
theorem Step.sameSetup
    {correlator after : Correlator R}
    {request : Request R}
    (step : correlator.Step request after) :
    correlator.SameSetup after := by
  cases step with
  | receive handed running fitsA fitsB => exact sameSetup_receive correlator _
  | finalize => exact sameSetup_finalize correlator
  | setArguments sound => exact ⟨rfl, rfl, rfl, rfl, rfl, rfl⟩
  | reschedule => exact SameSetup.refl _

/-- Only a request for other arguments changes the arguments in force. -/
theorem Step.arguments
    {correlator after : Correlator R}
    {request : Request R}
    (step : correlator.Step request after) :
    after.config.arguments = request.settle correlator.config.arguments := by
  cases step with
  | receive handed running fitsA fitsB =>
      cases request with
      | setArguments arguments => cases handed
      | add sample => rfl
      | addPair a b => rfl
      | update readings => rfl
      | finalize => rfl
      | clear => rfl
      | setInterval interval => rfl
      | reschedule interval => rfl
  | finalize =>
      rw [Correlator.finalize]
      split <;> rfl
  | setArguments sound => rfl
  | reschedule => rfl

end Correlator

/-! ## What was taken in -/

variable [Scalar R] [Exponential R]

/--
The arrival of a sample of the right lengths under the terms of an operation.
-/
structure Arrival.Suits
    (operation : Operation)
    (lengthA lengthB : Nat)
    (arrival : Arrival R) : Prop where
  fitsA : arrival.sample.a.length = lengthA
  fitsB : arrival.sample.b.length = lengthB
  terms : ∃ arguments, arrival.terms = operation.terms arguments

namespace Correlator

/-- A correlator whose run goes on and which took in a stream of arrivals. -/
structure Records
    (correlator : Correlator R)
    (raw : List (Arrival R)) : Prop where
  follows :
    Hierarchy.Follows correlator.valueShape.size correlator.config.rules.reduce
      correlator.hierarchy raw
  count : correlator.count = raw.length
  running : correlator.isFinalized = false
  suits :
    ∀ arrival ∈ raw,
      arrival.Suits correlator.config.operation correlator.lengthA
        correlator.lengthB

/-- What one request hands to a correlator, with the terms in force. -/
def arrival
    (correlator : Correlator R)
    (request : Request R) :
    List (Arrival R) :=
  ((request.sample? correlator.bindingA.source
     correlator.effectiveBindingB.source).map
    (⟨·, correlator.config.operation.terms correlator.config.arguments⟩)).toList

/--
While the run goes on, a request appends at most one arrival to the stream.
-/
theorem Records.step
    {correlator after : Correlator R}
    {request : Request R}
    {raw : List (Arrival R)}
    (records : correlator.Records raw)
    (step : correlator.Step request after)
    (goesOn : request ≠ .finalize) :
    after.Records (raw ++ correlator.arrival request) := by
  cases step with
  | @receive request sample handed running fitsA fitsB =>
      rw [arrival, handed]
      refine ⟨records.follows.ingest sample, ?_, running, ?_⟩
      · simp [receive, records.count]
      · intro arrival member
        rcases List.mem_append.mp member with earlier | newest
        · exact records.suits arrival earlier
        · rw [List.mem_singleton.mp newest]
          exact ⟨fitsA.symm, fitsB.symm, _, rfl⟩
  | finalize => exact absurd rfl goesOn
  | @setArguments replacement sound =>
      have idle : correlator.arrival (.setArguments replacement) = [] := rfl
      rw [idle, List.append_nil]
      exact ⟨records.follows, records.count, records.running, records.suits⟩
  | @reschedule interval =>
      have idle : correlator.arrival (.reschedule interval) = [] := rfl
      rw [idle, List.append_nil]
      exact records

/-! ## Whole runs -/

/--
What the requests of a run hand to a correlator, from its present arguments on.
-/
def arrivalsOf
    (correlator : Correlator R)
    (requests : List (Request R)) :
    List (Arrival R) :=
  arrivals correlator.config.operation correlator.bindingA.source
    correlator.effectiveBindingB.source correlator.config.arguments requests

/--
The arrivals of a run are those of its first request, followed by those of the
rest.
-/
theorem arrivalsOf_cons
    {correlator after : Correlator R}
    {request : Request R}
    (step : correlator.Step request after)
    (rest : List (Request R)) :
    correlator.arrivalsOf (request :: rest) =
      correlator.arrival request ++ after.arrivalsOf rest := by
  have same := step.sameSetup
  rw [arrivalsOf, arrivals, arrivalsOf, same.operation, same.bindingA,
    same.effectiveBindingB, step.arguments]
  rfl

/-- A run that goes on records what its requests handed over. -/
theorem Records.performAll
    {accumulator final : Accumulator R}
    {correlator : Correlator R}
    {raw : List (Arrival R)}
    {requests : List (Request R)}
    (kind : accumulator.statistic = .correlator correlator)
    (records : correlator.Records raw)
    (performed : accumulator.performAll requests = .ok final)
    (goesOn : Request.finalize ∉ requests) :
    ∃ after,
      final.statistic = .correlator after ∧
      correlator.SameSetup after ∧
      after.config.arguments =
        argumentsAfter correlator.config.arguments requests ∧
      after.Records (raw ++ correlator.arrivalsOf requests) := by
  induction requests generalizing accumulator correlator raw with
  | nil =>
      cases performed
      exact ⟨correlator, kind, .refl correlator, rfl,
        by simpa [arrivalsOf, arrivals] using records⟩
  | cons request rest hypothesis =>
      rw [List.mem_cons, not_or] at goesOn
      rcases Accumulator.performAll_cons_ok performed with ⟨next, first, later⟩
      rcases Accumulator.perform_correlator kind first with ⟨middle, kept, step⟩
      rcases hypothesis kept (records.step step (Ne.symm goesOn.1))
          later goesOn.2 with ⟨after, reached, same, arguments, recorded⟩
      refine ⟨after, reached, step.sameSetup.trans same, ?_, ?_⟩
      · rw [arguments, step.arguments]
        rfl
      · rw [arrivalsOf_cons step, ← List.append_assoc]
        exact recorded

/-- A correlator as it is created for a pair of sources. -/
structure Created
    (correlator : Correlator R)
    (sourceA : Source)
    (sourceB : Option Source)
    (config : Config R)
    (interval : Nat) : Prop where
  interval_pos : 0 < interval
  sound : config.check = .ok ()
  fitting : config.operation.valueShape correlator.lengthA correlator.lengthB =
    .ok correlator.valueShape
  /-- The linear width is resolved. -/
  resolved : correlator.config = config.resolve interval
  samplingTime : correlator.samplingTime = config.samplingTime interval
  readsA : correlator.bindingA.source = sourceA.id
  /-- Samples of B come from the second source, or from the first one. -/
  readsB : correlator.effectiveBindingB.source = (sourceB.getD sourceA).id
  lags : correlator.lags =
    LagGrid.build correlator.config.linearWidth (config.span interval)
  records : correlator.Records []

/-- What is true of every correlator that was created. -/
theorem create_ok
    {sourceA : Source}
    {sourceB : Option Source}
    {config : Config R}
    {bindingA : Binding}
    {bindingB : Option Binding}
    {interval : Nat}
    {correlator : Correlator R}
    (made : create config bindingA bindingB interval = .ok correlator)
    (interval_pos : 0 < interval)
    (sound : config.check = .ok ())
    (readsA : bindingA.source = sourceA.id)
    (readsB : (bindingB.getD bindingA).source = (sourceB.getD sourceA).id) :
    correlator.Created sourceA sourceB config interval := by
  rcases map_ok made with ⟨valueShape, fitting, rfl⟩
  refine ⟨interval_pos, sound, fitting, rfl,
    config.samplingTime_resolve interval, readsA, readsB, ?_, ?_, rfl, rfl, ?_⟩
  · rw [← config.span_resolve interval]
    exact Hierarchy.map_lags_empty _ _ _
  · exact Hierarchy.follows_empty _ _
      (fun range member => LagGrid.stop_le_of_mem_build member)
      (Nat.lt_of_lt_of_le Nat.two_pos (Config.width_resolve sound interval).1)
  · exact fun arrival member => absurd member List.not_mem_nil

namespace Created

variable
    {sourceA : Source}
    {sourceB : Option Source}
    {config : Config R}
    {interval : Nat}
    {initial correlator : Correlator R}

theorem laidOut
    (made : initial.Created sourceA sourceB config interval)
    (same : initial.SameSetup correlator) :
    LagRange.LaidOut 0 correlator.lags := by
  rw [same.lags, made.lags]
  exact LagGrid.laidOut_build _ _

theorem fits
    (made : initial.Created sourceA sourceB config interval)
    (same : initial.SameSetup correlator) :
    correlator.config.operation.valueShape correlator.lengthA
        correlator.lengthB =
      .ok correlator.valueShape := by
  rw [same.operation, same.lengthA, same.lengthB, same.valueShape,
    made.resolved, Config.operation_resolve]
  exact made.fitting

/-- The rules by which samples are reduced are those of the configuration. -/
theorem reduces
    (made : initial.Created sourceA sourceB config interval)
    (same : initial.SameSetup correlator) :
    correlator.config.rules.reduce = config.rules.reduce := by
  rw [same.reduce, made.resolved, Config.rules_resolve]

/-- The rules under which a run ends are those of the arguments set last. -/
theorem rules_eq
    (made : initial.Created sourceA sourceB config interval)
    (same : initial.SameSetup correlator)
    {requests : List (Request R)}
    (arguments :
      correlator.config.arguments =
        argumentsAfter initial.config.arguments requests) :
    correlator.config.rules =
      { config with
        arguments := argumentsAfter config.arguments requests }.rules := by
  rw [same.config, arguments, made.resolved, Config.arguments_resolve,
    Config.resolve]
  split <;> rfl

/--
The arrivals of a run are read off the requests and the configuration alone.
-/
theorem arrivalsOf_eq
    (made : initial.Created sourceA sourceB config interval)
    (requests : List (Request R)) :
    initial.arrivalsOf requests =
      arrivals config.operation sourceA.id (sourceB.getD sourceA).id
        config.arguments requests := by
  rw [arrivalsOf, made.resolved, Config.operation_resolve,
    Config.arguments_resolve, made.readsA, made.readsB]

end Created

end Correlator

/-- A binding has the name and the shape of its source. -/
theorem Source.bind_ok
    {source : Source}
    {binding : Binding}
    (bound : source.bind = .ok binding) :
    binding.source = source.id ∧ binding.shape = source.shape := by
  rw [Source.bind] at bound
  split at bound
  next =>
    cases bound
    exact ⟨rfl, rfl⟩
  next => cases bound

/--
A correlator that is accepted is created as its parameters and sources say.
-/
theorem Accumulator.correlator_ok
    {sourceA : Source}
    {sourceB : Option Source}
    {config : Config R}
    {interval : Nat}
    {start : Accumulator R}
    (created :
      Accumulator.correlator sourceA sourceB config interval = .ok start) :
    ∃ correlator,
      start.statistic = .correlator correlator ∧
      correlator.Created sourceA sourceB config interval := by
  rcases bind_ok created with ⟨sampling, spaced, created⟩
  rcases bind_ok created with ⟨⟨⟩, checked, created⟩
  rcases bind_ok created with ⟨bindingA, boundA, created⟩
  have interval_pos : 0 < interval :=
    (Sampling.every_ok spaced).1 ▸ sampling.interval_pos
  have sound : config.check = .ok () := mapError_ok checked
  cases sourceB with
  | none =>
      rcases bind_ok created with ⟨bindingB, bound, created⟩
      cases bound
      rcases bind_ok created with ⟨correlator, made, created⟩
      cases created
      exact ⟨correlator, rfl, Correlator.create_ok made interval_pos sound
        (Source.bind_ok boundA).1 (Source.bind_ok boundA).1⟩
  | some source =>
      rcases bind_ok created with ⟨bindingB, bound, created⟩
      rcases map_ok bound with ⟨binding, boundB, rfl⟩
      rcases bind_ok created with ⟨correlator, made, created⟩
      cases created
      exact ⟨correlator, rfl, Correlator.create_ok made interval_pos sound
        (Source.bind_ok boundA).1 (Source.bind_ok boundB).1⟩

/-- What is read off an accumulator, if it is a correlator. -/
def Accumulator.read?
    {α : Type}
    (read : Correlator R → α)
    (accumulator : Accumulator R) :
    Option α :=
  match accumulator.statistic with
  | .correlator correlator => some (read correlator)
  | _ => none

omit [Scalar R] [Exponential R] in
/-- A value that was read off an outcome was read off a correlator. -/
theorem Accumulator.exists_of_read?
    {α ε : Type}
    {read : Correlator R → α}
    {outcome : Except ε (Accumulator R)}
    {value : α}
    (found : outcome.toOption.bind (Accumulator.read? read) = some value) :
    ∃ final correlator,
      outcome = .ok final ∧
      final.statistic = .correlator correlator ∧
      read correlator = value := by
  rcases Option.bind_eq_some_iff.mp found with ⟨final, reached, seen⟩
  cases outcome with
  | error cause => cases reached
  | ok last =>
      cases reached
      rw [read?] at seen
      split at seen
      next correlator kind =>
        exact ⟨final, correlator, rfl, kind, Option.some.inj seen⟩
      next => cases seen

/-! ### Runs of new accumulators -/

/-- Carry out requests with an accumulator that is created first. -/
def Accumulator.run
    (created : Except Rejection (Accumulator R))
    (requests : List (Request R)) :
    Except Refusal (Accumulator R) :=
  created.mapError .rejected >>= (·.performAll requests)

theorem Accumulator.run_ok
    {created : Except Rejection (Accumulator R)}
    {requests : List (Request R)}
    {final : Accumulator R}
    (ran : run created requests = .ok final) :
    ∃ start, created = .ok start ∧ start.performAll requests = .ok final := by
  rcases bind_ok ran with ⟨start, accepted, performed⟩
  exact ⟨start, mapError_ok accepted, performed⟩

/-! ## A trial run -/

/-- A source of two values. -/
def trialSource (index : Nat) : Source :=
  ⟨⟨index⟩, [2]⟩

/-- Four levels whose streams are compressed by different rules. -/
def trialConfig : Config Float where
  largestLag := Scalar.ofNat 18
  timeStep := Scalar.ofNat 1
  linearWidth := 2
  operation := .tensorProduct
  compressionA := .average
  compressionB := some .keepNewer
  arguments := ⟨Scalar.zero, Scalar.zero, Scalar.zero⟩

/--
Five samples, so that one is left over at the finest level, and changes of
settings between.
-/
def trialRequests : List (Request Float) :=
  [.addPair [Scalar.ofNat 1, Scalar.ofNat 2] [Scalar.ofNat 3, Scalar.ofNat 4],
    .setArguments ⟨Scalar.ofNat 2, Scalar.ofNat 1, Scalar.ofNat 3⟩,
    .add [Scalar.ofNat 5, Scalar.ofNat 1],
    .reschedule 3,
    .update fun source => [Scalar.ofNat source.index, Scalar.ofNat 2],
    .addPair [Scalar.ofNat 1, Scalar.ofNat 0] [Scalar.ofNat 0, Scalar.ofNat 1],
    .add [Scalar.ofNat 2, Scalar.ofNat 2]]

theorem trial_accepted :
    ∃ start final,
      Accumulator.correlator (trialSource 0) (some (trialSource 1))
          trialConfig 2 =
        .ok start ∧
      start.performAll trialRequests = .ok final := by
  have accepted :
      (Accumulator.run
        (Accumulator.correlator (trialSource 0) (some (trialSource 1))
          trialConfig 2)
        trialRequests).toBool = true := by
    decide +kernel
  rcases exists_ok accepted with ⟨final, ran⟩
  rcases Accumulator.run_ok ran with ⟨start, created, performed⟩
  exact ⟨start, final, created, performed⟩

theorem finalize_notMem_trialRequests : Request.finalize ∉ trialRequests := by
  simp [trialRequests]

end RunningStatistics
