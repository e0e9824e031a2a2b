import RunningStatistics.Proofs.Deliveries

/-!
# Accepted samples

Of the samples that the requests of a run hand over, an accumulator takes in
those that it accepts, and a refused request leaves it as it was.  So what it
has become depends on the accepted samples alone.

Whatever holds of an accumulator and the samples accepted so far is shown for
one request that is carried out; `afterAll_accepted` extends it to all the
requests of a run, refused or not.
-/

namespace RunningStatistics

variable {R : Type} [Scalar R] [Exponential R]

namespace Accumulator

/--
The simultaneous samples of two sources that an accumulator accepts among those
that requests hand over.
-/
def accepted (sourceA sourceB : SourceId) :
    Accumulator R → List (Request R) → List (Sample R)
  | _, [] => []
  | accumulator, request :: rest =>
      match accumulator.perform request with
      | .ok next =>
          (request.sample? sourceA sourceB).toList ++
            next.accepted sourceA sourceB rest
      | .error _ => accumulator.accepted sourceA sourceB rest

/-- The samples of one source that an accumulator accepts. -/
def samples
    (source : SourceId)
    (accumulator : Accumulator R)
    (requests : List (Request R)) :
    List (List R) :=
  (accumulator.accepted source source requests).map (·.a)

theorem accepted_cons_of_ok
    {accumulator next : Accumulator R}
    {request : Request R}
    (performed : accumulator.perform request = .ok next)
    (sourceA sourceB : SourceId)
    (rest : List (Request R)) :
    accumulator.accepted sourceA sourceB (request :: rest) =
      (request.sample? sourceA sourceB).toList ++
        next.accepted sourceA sourceB rest := by
  rw [accepted, performed]

theorem accepted_cons_of_error
    {accumulator : Accumulator R}
    {request : Request R}
    {refusal : Refusal}
    (refused : accumulator.perform request = .error refusal)
    (sourceA sourceB : SourceId)
    (rest : List (Request R)) :
    accumulator.accepted sourceA sourceB (request :: rest) =
      accumulator.accepted sourceA sourceB rest := by
  rw [accepted, refused]

/-- The accepted samples of A do not depend on where B comes from. -/
theorem map_a_accepted
    (accumulator : Accumulator R)
    (sourceA sourceB : SourceId)
    (requests : List (Request R)) :
    (accumulator.accepted sourceA sourceB requests).map (·.a) =
      accumulator.samples sourceA requests := by
  rw [samples]
  induction requests generalizing accumulator with
  | nil => rfl
  | cons request rest hypothesis =>
      cases performed : accumulator.perform request with
      | error refusal =>
          rw [accepted_cons_of_error performed,
            accepted_cons_of_error performed]
          exact hypothesis accumulator
      | ok next =>
          have same : (request.sample? sourceA sourceB).toList.map (·.a) =
              (request.sample? sourceA sourceA).toList.map (·.a) := by
            cases request <;> rfl
          rw [accepted_cons_of_ok performed, accepted_cons_of_ok performed,
            List.map_append, List.map_append, same, hypothesis next]

/--
What every request that is carried out preserves, with the sample that it hands
over, holds after all requests with all accepted samples.
-/
theorem afterAll_accepted
    (sourceA sourceB : SourceId)
    (holds : Accumulator R → List (Sample R) → Prop)
    (preserved :
      ∀ {accumulator next : Accumulator R} {request : Request R}
          {taken : List (Sample R)},
        holds accumulator taken →
        accumulator.perform request = .ok next →
        holds next (taken ++ (request.sample? sourceA sourceB).toList))
    {accumulator : Accumulator R}
    {taken : List (Sample R)}
    (initially : holds accumulator taken)
    (requests : List (Request R)) :
    holds (accumulator.afterAll requests)
      (taken ++ accumulator.accepted sourceA sourceB requests) := by
  induction requests generalizing accumulator taken with
  | nil =>
      rw [accepted, List.append_nil]
      exact initially
  | cons request rest hypothesis =>
      rw [afterAll, List.foldl_cons, ← afterAll]
      cases performed : accumulator.perform request with
      | ok next =>
          rw [after_of_ok performed, accepted_cons_of_ok performed,
            ← List.append_assoc]
          exact hypothesis (preserved initially performed)
      | error refusal =>
          rw [after_of_error performed, accepted_cons_of_error performed]
          exact hypothesis initially

end Accumulator

/-! ## The sums of the streams -/

namespace Correlator

/--
A correlator with the number and the sums of the samples that it has taken in.
-/
structure Sums
    (correlator : Correlator R)
    (taken : List (Sample R)) : Prop where
  fits : ∀ sample ∈ taken,
    sample.a.length = correlator.lengthA ∧ sample.b.length = correlator.lengthB
  count : correlator.count = taken.length
  sumA : correlator.sumA =
    (taken.map (·.a)).foldl Scalar.addEach (Scalar.zeros correlator.lengthA)
  sumB : correlator.sumB =
    (taken.map (·.b)).foldl Scalar.addEach (Scalar.zeros correlator.lengthB)

variable {correlator after : Correlator R} {taken : List (Sample R)}

theorem Sums.receive
    (sums : correlator.Sums taken)
    {sample : Sample R}
    (fitsA : correlator.lengthA = sample.a.length)
    (fitsB : correlator.lengthB = sample.b.length) :
    (correlator.receive sample).Sums (taken ++ [sample]) where
  fits := List.forall_mem_append.mpr
    ⟨sums.fits, List.forall_mem_singleton.mpr ⟨fitsA.symm, fitsB.symm⟩⟩
  count := by
    rw [List.length_append, ← sums.count]
    rfl
  sumA := by
    have earlier := sums.sumA
    rw [List.map_append, List.foldl_append]
    exact congrArg (Scalar.addEach · sample.a) earlier
  sumB := by
    have earlier := sums.sumB
    rw [List.map_append, List.foldl_append]
    exact congrArg (Scalar.addEach · sample.b) earlier

theorem Sums.step
    {request : Request R}
    (sums : correlator.Sums taken)
    (step : correlator.Step request after) :
    after.Sums (taken ++
        (request.sample? correlator.bindingA.source
          correlator.effectiveBindingB.source).toList) := by
  cases step with
  | receive handed running fitsA fitsB =>
      rw [handed]
      exact sums.receive fitsA fitsB
  | finalize =>
      have idle :
          (Request.finalize.sample? correlator.bindingA.source
              correlator.effectiveBindingB.source :
            Option (Sample R)).toList =
            [] :=
        rfl
      rw [idle, List.append_nil, Correlator.finalize]
      split
      next => exact sums
      next => exact ⟨sums.fits, sums.count, sums.sumA, sums.sumB⟩
  | @setArguments arguments sound =>
      have idle :
          ((Request.setArguments arguments).sample? correlator.bindingA.source
              correlator.effectiveBindingB.source :
            Option (Sample R)).toList =
            [] :=
        rfl
      rw [idle, List.append_nil]
      exact ⟨sums.fits, sums.count, sums.sumA, sums.sumB⟩
  | @reschedule interval =>
      have idle :
          ((Request.reschedule interval).sample? correlator.bindingA.source
              correlator.effectiveBindingB.source :
            Option (Sample R)).toList =
            [] :=
        rfl
      rw [idle, List.append_nil]
      exact sums

end Correlator

/-- The sums of a correlator are those of the samples that it has accepted. -/
theorem Accumulator.exists_sums
    {sourceA : Source}
    {sourceB : Option Source}
    {config : Config R}
    {interval : Nat}
    {start : Accumulator R}
    (created :
      Accumulator.correlator sourceA sourceB config interval = .ok start)
    (requests : List (Request R)) :
    ∃ initial correlator : Correlator R,
      start.statistic = .correlator initial ∧
      initial.Created sourceA sourceB config interval ∧
      (start.afterAll requests).statistic = .correlator correlator ∧
      initial.SameSetup correlator ∧
      sourceA.bind = .ok correlator.bindingA ∧
      correlator.Sums
        (start.accepted sourceA.id (sourceB.getD sourceA).id requests) := by
  rcases correlator_ok created with ⟨initial, kind, made⟩
  rcases correlator_parts created with
    ⟨bindingA, bindingB, blank, bound, _, _, built, begun⟩
  cases kind.symm.trans begun
  have tied : initial.bindingA = bindingA := by
    rcases map_ok built with ⟨shape, _, rfl⟩
    rfl
  have none : initial.Sums [] := by
    rcases map_ok built with ⟨shape, _, rfl⟩
    exact ⟨fun sample member => absurd member List.not_mem_nil, rfl, rfl, rfl⟩
  rcases afterAll_accepted sourceA.id (sourceB.getD sourceA).id
    (fun accumulator taken =>
      ∃ correlator,
        accumulator.statistic = .correlator correlator ∧
        initial.SameSetup correlator ∧
        correlator.Sums taken)
    (by
      rintro accumulator next request taken ⟨correlator, kind, same, sums⟩
        performed
      rcases perform_correlator kind performed with ⟨after, reached, step⟩
      have later := sums.step step
      rw [same.effectiveBindingB, same.bindingA, made.readsA, made.readsB]
        at later
      exact ⟨after, reached, same.trans step.sameSetup, later⟩)
    ⟨initial, kind, .refl initial, none⟩ requests with
    ⟨correlator, reached, same, sums⟩
  rw [← tied, ← same.bindingA] at bound
  exact ⟨initial, correlator, kind, made, reached, same, bound, sums⟩

end RunningStatistics
