import RunningStatistics.Proofs.Requests

/-!
# Accumulators that an owner can have

An owner creates an accumulator for sources and sends it requests.  Whatever
holds at creation and survives every request holds of all accumulators that an
owner can have.

One such fact is that running moments have a component for each value of a
sample.  It makes a sample that the source delivers acceptable in exactly the
same cases as one that is handed over directly.
-/

namespace RunningStatistics

variable {R : Type} [Scalar R]

/-! ## Creation -/

namespace Accumulator

omit [Scalar R] in
/--
A statistic of one source is sampled at an interval and starts with the tie to
the source.
-/
theorem ofSource_ok
    {fresh : Binding → Statistic R}
    {source : Source}
    {interval : Nat}
    {start : Accumulator R}
    (created : ofSource fresh source interval = .ok start) :
    ∃ binding,
      source.bind = .ok binding ∧
      Sampling.every interval = .ok start.sampling ∧
      start.statistic = fresh binding := by
  rcases bind_ok created with ⟨sampling, spaced, created⟩
  rcases bind_ok created with ⟨binding, bound, created⟩
  cases created
  exact ⟨binding, bound, spaced, rfl⟩

omit [Scalar R] in
/--
A statistic of one source is created if there is an interval and something to
sample.
-/
theorem ofSource_eq
    {fresh : Binding → Statistic R}
    {source : Source}
    {interval : Nat}
    {sampling : Sampling}
    {binding : Binding}
    (spaced : Sampling.every interval = .ok sampling)
    (bound : source.bind = .ok binding) :
    ofSource fresh source interval = .ok ⟨sampling, fresh binding⟩ := by
  rw [ofSource, spaced, bound]
  rfl

theorem moments_ok
    {source : Source}
    {interval : Nat}
    {start : Accumulator R}
    (created : Accumulator.moments source interval = .ok start) :
    ∃ binding,
      source.bind = .ok binding ∧
      Sampling.every interval = .ok start.sampling ∧
      start.statistic = .moments (.start binding) :=
  ofSource_ok created

omit [Scalar R] in
theorem series_ok
    {source : Source}
    {interval : Nat}
    {start : Accumulator R}
    (created : Accumulator.series source interval = .ok start) :
    ∃ binding,
      source.bind = .ok binding ∧
      Sampling.every interval = .ok start.sampling ∧
      start.statistic = .series (.start binding) :=
  ofSource_ok created

/--
The sampling and the bindings of a correlator are those of its interval and its
sources.
-/
theorem correlator_parts
    {sourceA : Source}
    {sourceB : Option Source}
    {config : Config R}
    {interval : Nat}
    {start : Accumulator R}
    (created :
      Accumulator.correlator sourceA sourceB config interval = .ok start) :
    ∃ bindingA bindingB correlator,
      sourceA.bind = .ok bindingA ∧
      (match sourceB with
        | some source => source.bind.map some
        | none => .ok none) =
        .ok bindingB ∧
      Sampling.every interval = .ok start.sampling ∧
      Correlator.create config bindingA bindingB interval = .ok correlator ∧
      start.statistic = .correlator correlator := by
  rcases bind_ok created with ⟨sampling, spaced, created⟩
  rcases bind_ok created with ⟨⟨⟩, checked, created⟩
  rcases bind_ok created with ⟨bindingA, boundA, created⟩
  cases sourceB with
  | none =>
      rcases bind_ok created with ⟨bindingB, boundB, created⟩
      rcases bind_ok created with ⟨correlator, made, created⟩
      cases created
      exact ⟨bindingA, bindingB, correlator, boundA, boundB, spaced, made, rfl⟩
  | some source =>
      rcases bind_ok created with ⟨bindingB, boundB, created⟩
      rcases bind_ok created with ⟨correlator, made, created⟩
      cases created
      exact ⟨bindingA, bindingB, correlator, boundA, boundB, spaced, made, rfl⟩

end Accumulator

variable [Exponential R]

/-! ## Requests -/

namespace Accumulator

/-- Everything that a request which is carried out can do to an accumulator. -/
inductive Step (accumulator : Accumulator R) :
    Request R → Accumulator R → Prop where
  | add {sample : List R} {statistic : Statistic R}
      (accepted : accumulator.statistic.add sample = .ok statistic) :
      Step accumulator (.add sample) (accumulator.accept statistic)
  | addPair {a b : List R} {correlator after : Correlator R}
      (kind : accumulator.statistic = .correlator correlator)
      (accepted : correlator.addPair a b = .ok after) :
      Step accumulator (.addPair a b) (accumulator.accept (.correlator after))
  | update {readings : Readings R} {statistic : Statistic R}
      (accepted : accumulator.statistic.update readings = .ok statistic) :
      Step accumulator (.update readings) (accumulator.accept statistic)
  | finalize {correlator : Correlator R}
      (kind : accumulator.statistic = .correlator correlator) :
      Step accumulator .finalize
        { accumulator with statistic := .correlator correlator.finalize }
  | clear {series : Series R} (kind : accumulator.statistic = .series series) :
      Step accumulator .clear
        { accumulator with statistic := .series series.clear }
  | setArguments {arguments : Axes R} {correlator after : Correlator R}
      (kind : accumulator.statistic = .correlator correlator)
      (accepted : correlator.setArguments arguments = .ok after) :
      Step accumulator (.setArguments arguments)
        { accumulator with statistic := .correlator after }
  | setInterval {interval : Nat} {sampling : Sampling}
      (adjustable :
        ∀ correlator, accumulator.statistic ≠ .correlator correlator)
      (accepted : accumulator.sampling.setInterval interval = .ok sampling) :
      Step accumulator (.setInterval interval) { accumulator with sampling }
  | reschedule {interval : Nat} {sampling : Sampling}
      (accepted : accumulator.sampling.setInterval interval = .ok sampling) :
      Step accumulator (.reschedule interval) { accumulator with sampling }

/-- A request that is carried out is one of the steps of an accumulator. -/
theorem step_of_perform
    {accumulator next : Accumulator R}
    {request : Request R}
    (performed : accumulator.perform request = .ok next) :
    accumulator.Step request next := by
  cases request with
  | add sample =>
      rcases map_ok (mapError_ok performed) with ⟨statistic, accepted, rfl⟩
      exact .add accepted
  | addPair a b =>
      have known := Refusal.unlessKnown_ok performed
      rw [addPair?] at known
      split at known
      next correlator kind =>
        rcases map_ok (Option.some.inj known) with ⟨after, accepted, rfl⟩
        exact .addPair kind accepted
      next => cases known
  | update readings =>
      rcases map_ok (mapError_ok performed) with ⟨statistic, accepted, rfl⟩
      exact .update accepted
  | finalize =>
      have known := Refusal.unlessKnown_ok performed
      rw [finalize?] at known
      split at known
      next correlator kind =>
        cases known
        exact .finalize kind
      next => cases known
  | clear =>
      have known := Refusal.unlessKnown_ok performed
      rw [clear?] at known
      split at known
      next series kind =>
        cases known
        exact .clear kind
      next => cases known
  | setArguments arguments =>
      have known := Refusal.unlessKnown_ok performed
      rw [setArguments?] at known
      split at known
      next correlator kind =>
        rcases map_ok (Option.some.inj known) with ⟨after, accepted, rfl⟩
        exact .setArguments kind accepted
      next => cases known
  | setInterval interval =>
      have changed := mapError_ok performed
      rw [Accumulator.setInterval] at changed
      split at changed
      next => cases changed
      next adjustable =>
        rcases map_ok changed with ⟨sampling, accepted, rfl⟩
        exact .setInterval adjustable accepted
  | reschedule interval =>
      rcases map_ok (mapError_ok performed) with ⟨sampling, accepted, rfl⟩
      exact .reschedule accepted

/-- The number of accepted samples never falls. -/
theorem Step.updates_le
    {accumulator next : Accumulator R}
    {request : Request R}
    (step : accumulator.Step request next) :
    accumulator.updates ≤ next.updates := by
  cases step with
  | add accepted => exact Nat.le_succ _
  | addPair kind accepted => exact Nat.le_succ _
  | update accepted => exact Nat.le_succ _
  | finalize kind => exact Nat.le_refl _
  | clear kind => exact Nat.le_refl _
  | setArguments kind accepted => exact Nat.le_refl _
  | setInterval adjustable accepted =>
      exact Nat.le_of_eq (Sampling.setInterval_ok accepted).2.symm
  | reschedule accepted =>
      exact Nat.le_of_eq (Sampling.setInterval_ok accepted).2.symm

/-! ## Reachable accumulators -/

/--
The accumulators that were created for sources and then carried out requests.
-/
inductive IsReachable : Accumulator R → Prop where
  | moments {source : Source} {interval : Nat} {start : Accumulator R}
      (created : Accumulator.moments source interval = .ok start) :
      IsReachable start
  | series {source : Source} {interval : Nat} {start : Accumulator R}
      (created : Accumulator.series source interval = .ok start) :
      IsReachable start
  | correlator {sourceA : Source} {sourceB : Option Source} {config : Config R}
      {interval : Nat} {start : Accumulator R}
      (created :
        Accumulator.correlator sourceA sourceB config interval = .ok start) :
      IsReachable start
  | perform {accumulator next : Accumulator R} {request : Request R}
      (reachable : IsReachable accumulator)
      (performed : accumulator.perform request = .ok next) : IsReachable next

end Accumulator

/-! ### Complete moments -/

namespace Statistic

/-- Running moments have a component for each value of a sample. -/
def IsComplete : Statistic R → Prop
  | moments statistic => statistic.components.length = statistic.binding.length
  | _ => True

theorem IsComplete.add
    {statistic after : Statistic R}
    (complete : statistic.IsComplete)
    {sample : List R}
    (accepted : statistic.add sample = .ok after) : after.IsComplete := by
  cases statistic with
  | moments moments =>
      rcases map_ok accepted with ⟨next, added, rfl⟩
      rcases Moments.add_ok added with ⟨_, binding, _, _⟩
      rw [IsComplete, Moments.length_components_add added, binding]
      exact complete
  | series series =>
      rcases map_ok accepted with ⟨next, _, rfl⟩
      trivial
  | correlator correlator =>
      rcases map_ok accepted with ⟨next, _, rfl⟩
      trivial

omit [Scalar R] [Exponential R] in
/-- What is taken in after a pull is the sample that the source delivers. -/
theorem taken_of_pull
    {binding : Binding}
    {readings : Readings R}
    {take : List R → Except Rejection (Statistic R)}
    {after : Statistic R}
    (accepted : (binding.pull readings >>= take) = .ok after) :
    take (readings binding.source) = .ok after := by
  rcases bind_ok accepted with ⟨sample, delivered, taken⟩
  rcases Binding.pull_ok delivered with ⟨rfl, _⟩
  exact taken

theorem update_moments
    {moments : Moments R}
    {readings : Readings R}
    {after : Statistic R}
    (accepted : (Statistic.moments moments).update readings = .ok after) :
    (Statistic.moments moments).add (readings moments.binding.source) =
      .ok after :=
  taken_of_pull accepted

theorem update_series
    {series : Series R}
    {readings : Readings R}
    {after : Statistic R}
    (accepted : (Statistic.series series).update readings = .ok after) :
    (Statistic.series series).add (readings series.binding.source) =
      .ok after :=
  taken_of_pull accepted

/-- An update leaves running moments a component for each value. -/
theorem IsComplete.update
    {statistic after : Statistic R}
    (complete : statistic.IsComplete)
    {readings : Readings R}
    (accepted : statistic.update readings = .ok after) : after.IsComplete := by
  cases statistic with
  | moments moments => exact complete.add (update_moments accepted)
  | series series => exact complete.add (update_series accepted)
  | correlator correlator =>
      rcases map_ok accepted with ⟨next, _, rfl⟩
      trivial

end Statistic

namespace Accumulator

theorem Step.isComplete
    {accumulator next : Accumulator R}
    {request : Request R}
    (step : accumulator.Step request next)
    (complete : accumulator.statistic.IsComplete) :
    next.statistic.IsComplete := by
  cases step with
  | add accepted => exact complete.add accepted
  | update accepted => exact complete.update accepted
  | setInterval adjustable accepted => exact complete
  | reschedule accepted => exact complete
  | addPair kind accepted => trivial
  | finalize kind => trivial
  | clear kind => trivial
  | setArguments kind accepted => trivial

/--
The running moments that requests lead to have a component for each value.
-/
theorem IsReachable.isComplete
    {accumulator : Accumulator R}
    (reachable : accumulator.IsReachable) :
    accumulator.statistic.IsComplete := by
  induction reachable with
  | moments created =>
      rcases moments_ok created with ⟨binding, _, _, kind⟩
      rw [kind]
      exact Moments.length_components_start binding
  | series created =>
      rcases series_ok created with ⟨binding, _, _, kind⟩
      rw [kind]
      trivial
  | correlator created =>
      rcases correlator_parts created with ⟨_, _, correlator, _, _, _, _, kind⟩
      rw [kind]
      trivial
  | perform reachable performed complete =>
      exact (step_of_perform performed).isComplete complete

end Accumulator

end RunningStatistics
