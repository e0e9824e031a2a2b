import RunningStatistics.Proofs.Deliveries
import RunningStatistics.Proofs.Finalization

/-!
# What is accepted

Whether a correlator is accepted depends on its parameters and on how many
values its sources deliver; whether it carries out a request depends on the
lengths of its samples, on the arguments of its operation, and on whether its
run was ended.  A correlator that agrees with another one in these carries out
whatever the other one carries out.
-/

namespace RunningStatistics

variable {R : Type} [Scalar R] [Exponential R]

/-! ## Creation -/

theorem Source.length_bind
    {source : Source}
    {binding : Binding}
    (bound : source.bind = .ok binding) :
    binding.length = source.shape.size :=
  congrArg Shape.size (bind_ok bound).2

/--
The samples of an accepted correlator have as many values as its sources
declare.
-/
theorem Accumulator.lengths_ok
    {sourceA : Source}
    {sourceB : Option Source}
    {config : Config R}
    {interval : Nat}
    {start : Accumulator R}
    (created :
      Accumulator.correlator sourceA sourceB config interval = .ok start) :
    ∃ correlator,
      start.statistic = .correlator correlator ∧
      correlator.Created sourceA sourceB config interval ∧
      correlator.lengthA = sourceA.shape.size ∧
      correlator.lengthB = (sourceB.getD sourceA).shape.size := by
  rcases correlator_parts created with
    ⟨bindingA, bindingB, correlator, boundA, boundB, _, made, kind⟩
  rcases correlator_ok created with ⟨_, same, begun⟩
  cases kind.symm.trans same
  refine ⟨correlator, kind, begun, ?_⟩
  rcases map_ok made with ⟨valueShape, fitting, rfl⟩
  refine ⟨Source.length_bind boundA, ?_⟩
  cases sourceB with
  | none =>
      cases boundB
      exact Source.length_bind boundA
  | some source =>
      rcases map_ok boundB with ⟨binding, bound, rfl⟩
      exact Source.length_bind bound

/-- No level of a correlator that was just accepted has received a sample. -/
theorem Accumulator.blank_ok
    {sourceA : Source}
    {sourceB : Option Source}
    {config : Config R}
    {interval : Nat}
    {start : Accumulator R}
    (created :
      Accumulator.correlator sourceA sourceB config interval = .ok start) :
    ∃ correlator,
      start.statistic = .correlator correlator ∧
      correlator.Created sourceA sourceB config interval ∧
      correlator.hierarchy =
        Hierarchy.empty correlator.config.linearWidth correlator.valueShape.size
          correlator.lags := by
  rcases correlator_parts created with
    ⟨bindingA, bindingB, correlator, _, _, _, made, kind⟩
  rcases correlator_ok created with ⟨_, same, begun⟩
  cases kind.symm.trans same
  refine ⟨correlator, kind, begun, ?_⟩
  rw [begun.lags]
  rcases map_ok made with ⟨valueShape, _, rfl⟩
  exact congrArg (fun span => Hierarchy.empty _ _ (LagGrid.build _ span))
    (config.span_resolve interval)

omit [Exponential R] in
/-- Sound parameters and sources of fitting lengths are accepted. -/
theorem Accumulator.exists_correlator
    {sourceA : Source}
    {sourceB : Option Source}
    {config : Config R}
    {interval : Nat}
    {shape : Shape}
    (interval_pos : 0 < interval)
    (sound : config.check = .ok ())
    (nonemptyA : 0 < sourceA.shape.size)
    (nonemptyB : 0 < (sourceB.getD sourceA).shape.size)
    (fits :
      config.operation.valueShape sourceA.shape.size
          (sourceB.getD sourceA).shape.size =
        .ok shape) :
    ∃ start,
      Accumulator.correlator sourceA sourceB config interval = .ok start := by
  have boundA : sourceA.bind = .ok ⟨sourceA.id, sourceA.shape, nonemptyA⟩ :=
    dif_pos nonemptyA
  rw [Accumulator.correlator, Sampling.every, dif_pos interval_pos,
    Config.validate, sound, boundA]
  cases sourceB with
  | none => exact ⟨_, congrArg (Except.map _) (congrArg (Except.map _) fits)⟩
  | some source =>
      have boundB : source.bind = .ok ⟨source.id, source.shape, nonemptyB⟩ :=
        dif_pos nonemptyB
      simp only [boundB]
      exact ⟨_, congrArg (Except.map _) (congrArg (Except.map _) fits)⟩

namespace Config

omit [Exponential R] in
theorem resolve_withOperation
    (config : Config R)
    (operation : Operation)
    (interval : Nat) :
    { config with operation }.resolve interval =
      { config.resolve interval with operation } := by
  rw [resolve, resolve]
  split <;> rfl

omit [Exponential R] in
/--
Any operation may be chosen together with arguments that are sound for it.
-/
theorem check_withTerms
    {config : Config R}
    {operation : Operation}
    {arguments : Axes R}
    (sound : config.check = .ok ())
    (accepted : operation.checkArguments arguments = .ok ()) :
    { config with operation, arguments }.check = .ok () := by
  rcases check_ok sound with ⟨largestLag, timeStep, width, span, _⟩
  exact check_of_parts largestLag timeStep width span accepted

end Config

/-! ## What is carried out -/

namespace Correlator

/--
A correlator and one that takes in whatever the first one takes in, once its
samples are sent through two maps.
-/
structure Admits
    (changeA changeB : List R → List R)
    (correlator correlator' : Correlator R) : Prop where
  lengthA : ∀ {a : List R}, correlator.lengthA = a.length →
    correlator'.lengthA = (changeA a).length
  lengthB : ∀ {b : List R}, correlator.lengthB = b.length →
    correlator'.lengthB = (changeB b).length
  isFinalized : correlator'.isFinalized = correlator.isFinalized
  checkArguments : ∀ {arguments : Axes R},
    correlator.config.operation.checkArguments arguments = .ok () →
      correlator'.config.operation.checkArguments arguments = .ok ()

variable
    {changeA changeB : List R → List R}
    {correlator correlator' after after' : Correlator R}
    {request : Request R}

theorem Step.isFinalized_of_goesOn
    (step : correlator.Step request after)
    (goesOn : request ≠ .finalize) :
    after.isFinalized = correlator.isFinalized := by
  cases step with
  | finalize => exact absurd rfl goesOn
  | receive handed running fitsA fitsB => rfl
  | setArguments sound => rfl
  | reschedule => rfl

theorem Step.isFinalized_of_last (step : correlator.Step .finalize after) :
    after.isFinalized = true := by
  cases step with
  | receive handed running fitsA fitsB => cases handed
  | finalize => exact correlator.isFinalized_finalize

namespace Admits

/-- A step keeps the second correlator accepting whatever the first one does. -/
theorem step
    (admits : correlator.Admits changeA changeB correlator')
    (first : correlator.Step request after)
    (second :
      correlator'.Step
        (request.through changeA changeB correlator.bindingA.source
          correlator.effectiveBindingB.source) after') :
    after.Admits changeA changeB after' where
  lengthA := by
    rw [first.sameSetup.lengthA, second.sameSetup.lengthA]
    exact admits.lengthA
  lengthB := by
    rw [first.sameSetup.lengthB, second.sameSetup.lengthB]
    exact admits.lengthB
  isFinalized := by
    by_cases last : request = .finalize
    · subst last
      rw [first.isFinalized_of_last, Step.isFinalized_of_last second]
    · rw [first.isFinalized_of_goesOn last,
        second.isFinalized_of_goesOn (Request.through_ne_finalize last),
        admits.isFinalized]
  checkArguments := by
    rw [first.sameSetup.operation, second.sameSetup.operation]
    exact admits.checkArguments

/-- What is carried out by the one is carried out by the other. -/
theorem exists_perform
    (admits : correlator.Admits changeA changeB correlator')
    {accumulator next accumulator' : Accumulator R}
    (kind : accumulator.statistic = .correlator correlator)
    (kind' : accumulator'.statistic = .correlator correlator')
    (performed : accumulator.perform request = .ok next) :
    ∃ next',
      accumulator'.perform
          (request.through changeA changeB correlator.bindingA.source
            correlator.effectiveBindingB.source) =
        .ok next' := by
  rcases Accumulator.perform_correlator kind performed with ⟨after, _, step⟩
  cases step with
  | receive handed running fitsA fitsB =>
      have accepted :=
        addPair_of_fits (admits.isFinalized.trans running)
          (admits.lengthA fitsA) (admits.lengthB fitsB)
      rw [Request.through_of_sample handed, Accumulator.perform,
        Accumulator.addPair?, kind']
      simp only [accepted]
      exact ⟨_, rfl⟩
  | finalize => exact ⟨_, Accumulator.perform_finalize kind'⟩
  | @setArguments arguments sound =>
      refine ⟨{ accumulator' with
          statistic := .correlator (correlator'.withArguments arguments) }, ?_⟩
      show Refusal.unlessKnown (accumulator'.setArguments? arguments) = _
      rw [Accumulator.setArguments?, kind']
      simp only [setArguments, admits.checkArguments sound]
      rfl
  | @reschedule interval =>
      rcases map_ok (mapError_ok performed) with ⟨sampling, changed, _⟩
      rcases Accumulator.exists_reschedule changed accumulator' with
        ⟨next', accepted, _⟩
      refine ⟨next', ?_⟩
      show (accumulator'.reschedule interval).mapError _ = _
      rw [accepted]
      rfl

theorem exists_performAll
    (admits : correlator.Admits changeA changeB correlator')
    {accumulator final accumulator' : Accumulator R}
    {requests : List (Request R)}
    (kind : accumulator.statistic = .correlator correlator)
    (kind' : accumulator'.statistic = .correlator correlator')
    (performed : accumulator.performAll requests = .ok final) :
    ∃ final',
      accumulator'.performAll
          (requests.map fun request =>
            request.through changeA changeB correlator.bindingA.source
              correlator.effectiveBindingB.source) =
        .ok final' := by
  induction requests generalizing accumulator accumulator' correlator
    correlator' with
  | nil => exact ⟨accumulator', rfl⟩
  | cons request rest hypothesis =>
      rcases Accumulator.performAll_cons_ok performed with ⟨next, first, later⟩
      rcases admits.exists_perform kind kind' first with ⟨next', first'⟩
      rcases Accumulator.perform_correlator kind first with ⟨after, kept, step⟩
      rcases Accumulator.perform_correlator kind' first' with
        ⟨after', kept', step'⟩
      rcases hypothesis (admits.step step step') kept kept' later with
        ⟨final', later'⟩
      rw [step.sameSetup.bindingA, step.sameSetup.effectiveBindingB] at later'
      refine ⟨final', ?_⟩
      rw [List.map_cons, Accumulator.performAll, first']
      exact later'

end Admits

end Correlator

end RunningStatistics
