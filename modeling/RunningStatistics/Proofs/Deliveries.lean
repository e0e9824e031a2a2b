import RunningStatistics.Proofs.CorrelatorRuns
import RunningStatistics.Proofs.Reachability

/-!
# What sources deliver

An update takes in what the sources deliver at that moment.  It is the request
that hands these values over directly, also in what is refused, so the requests
of an owner may be read as a list of samples.

A request that is refused leaves an accumulator as it is, so that any list of
requests leads to a state.
-/

namespace RunningStatistics

variable {R : Type}

/-! ## Pulling samples -/

namespace Binding

theorem pull_of_fits
    {binding : Binding}
    {readings : Readings R}
    (fits : binding.length = (readings binding.source).length) :
    binding.pull readings = .ok (readings binding.source) := by
  simp only [pull, ← fits, requireLength_self]
  rfl

/--
A source that delivers another number of values than it declared is refused.
-/
theorem pull_of_misfit
    {binding : Binding}
    {readings : Readings R}
    (misfit : binding.length ≠ (readings binding.source).length) :
    binding.pull readings =
      .error (.shapeMismatch binding.length
          (readings binding.source).length) := by
  simp only [pull, requireLength_of_ne misfit]
  rfl

/--
A sample whose length is checked by what follows need not be checked first.
-/
theorem pull_bind_of_checked
    {α : Type}
    {binding : Binding}
    {readings : Readings R}
    {next : List R → Except Rejection α}
    (checked :
      ∀ sample : List R,
        binding.length ≠ sample.length →
        next sample = .error (.shapeMismatch binding.length sample.length)) :
    (binding.pull readings >>= next) = next (readings binding.source) := by
  by_cases fits : binding.length = (readings binding.source).length
  · rw [pull_of_fits fits]
    rfl
  · rw [pull_of_misfit fits, checked _ fits]
    rfl

end Binding

variable [Scalar R]

theorem Moments.add_of_misfit
    {moments : Moments R}
    {sample : List R}
    (misfit : moments.components.length ≠ sample.length) :
    moments.add sample =
      .error (.shapeMismatch moments.components.length sample.length) := by
  rw [add, requireLength_of_ne misfit]
  rfl

omit [Scalar R] in
theorem Series.add_of_misfit
    {series : Series R}
    {sample : List R}
    (misfit : series.binding.length ≠ sample.length) :
    series.add sample =
      .error (.shapeMismatch series.binding.length sample.length) := by
  rw [add, requireLength_of_ne misfit]
  rfl

variable [Exponential R]

namespace Correlator

/-- Why a pair of samples is not taken in, if it is not. -/
def checkPair
    (correlator : Correlator R)
    (a b : List R) :
    Except Rejection Unit :=
  if correlator.isFinalized then
    .error .finalized
  else do
    requireLength correlator.lengthA a.length
    requireLength correlator.lengthB b.length

/-- A pair is checked before anything of it is taken in. -/
theorem addPair_eq
    (correlator : Correlator R)
    (a b : List R) :
    correlator.addPair a b =
      (correlator.checkPair a b).map fun _ => correlator.receive ⟨a, b⟩ := by
  rw [addPair, checkPair]
  split
  · rfl
  · cases requireLength correlator.lengthA a.length with
    | error cause => rfl
    | ok _ => cases requireLength correlator.lengthB b.length <;> rfl

theorem addPair_of_fits
    {correlator : Correlator R}
    {a b : List R}
    (running : correlator.isFinalized = false)
    (fitsA : correlator.lengthA = a.length)
    (fitsB : correlator.lengthB = b.length) :
    correlator.addPair a b = .ok (correlator.receive ⟨a, b⟩) := by
  rw [addPair_eq, checkPair, running, fitsA, fitsB, requireLength_self,
    requireLength_self]
  rfl

theorem addPair_of_misfitA
    {correlator : Correlator R}
    {a : List R}
    (running : ¬correlator.isFinalized = true)
    (misfit : correlator.lengthA ≠ a.length)
    (b : List R) :
    correlator.addPair a b =
      .error (.shapeMismatch correlator.lengthA a.length) := by
  rw [addPair_eq, checkPair, if_neg running, requireLength_of_ne misfit]
  rfl

/-- The length of the first sample is checked before that of the second. -/
theorem addPair_of_misfitB
    {correlator : Correlator R}
    {a b : List R}
    (running : ¬correlator.isFinalized = true)
    (fits : correlator.lengthA = a.length)
    (misfit : correlator.lengthB ≠ b.length) :
    correlator.addPair a b =
      .error (.shapeMismatch correlator.lengthB b.length) := by
  rw [addPair_eq, checkPair, if_neg running, ← fits, requireLength_self,
    requireLength_of_ne misfit]
  rfl

/--
An update takes in what the two sources deliver, or refuses it for the same
cause.
-/
theorem update_eq_addPair
    (correlator : Correlator R)
    (readings : Readings R) :
    correlator.update readings =
      correlator.addPair (readings correlator.bindingA.source)
        (readings correlator.effectiveBindingB.source) := by
  by_cases ended : correlator.isFinalized = true
  · rw [update, if_pos ended, addPair_of_isFinalized ended]
  rw [update, if_neg ended]
  by_cases fits : correlator.bindingA.length =
    (readings correlator.bindingA.source).length
  · rw [Binding.pull_of_fits fits]
    cases second : correlator.bindingB with
    | none =>
        rw [effectiveBindingB, second]
        rfl
    | some binding =>
        have source : correlator.effectiveBindingB = binding := by
          rw [effectiveBindingB, second]
          rfl
        rw [source]
        refine Binding.pull_bind_of_checked fun sample misfit => ?_
        have unequal : correlator.lengthB ≠ sample.length := by
          rw [lengthB, source]
          exact misfit
        show correlator.addPair _ sample = _
        rw [addPair_of_misfitB ended fits unequal, lengthB, source]
  · rw [Binding.pull_of_misfit fits, addPair_of_misfitA ended fits]
    rfl

end Correlator

/--
The same request with the samples of A and B sent through two maps; what it
hands to a correlator of two sources is handed over as a pair.
-/
def Request.through
    (changeA changeB : List R → List R)
    (sourceA sourceB : SourceId)
    (request : Request R) :
    Request R :=
  match request.sample? sourceA sourceB with
  | some sample => .addPair (changeA sample.a) (changeB sample.b)
  | none => request

namespace Request

variable
    {changeA changeB : List R → List R}
    {sourceA sourceB : SourceId}
    {request : Request R}

omit [Scalar R] [Exponential R] in
theorem through_of_sample
    {sample : Sample R}
    (handed : request.sample? sourceA sourceB = some sample) :
    request.through changeA changeB sourceA sourceB =
      .addPair (changeA sample.a) (changeB sample.b) := by
  rw [through, handed]

omit [Scalar R] [Exponential R] in
theorem settle_through (arguments : Axes R) :
    (request.through changeA changeB sourceA sourceB).settle arguments =
      request.settle arguments := by
  cases request <;> rfl

omit [Scalar R] [Exponential R] in
theorem through_ne_finalize (goesOn : request ≠ .finalize) :
    request.through changeA changeB sourceA sourceB ≠ .finalize := by
  cases request with
  | finalize => exact absurd rfl goesOn
  | _ => exact nofun

end Request

namespace Accumulator

/-- The request that hands over what the sources of an accumulator deliver. -/
def handOver
    (accumulator : Accumulator R)
    (readings : Readings R) :
    Request R :=
  match accumulator.statistic with
  | .moments moments => .add (readings moments.binding.source)
  | .series series => .add (readings series.binding.source)
  | .correlator correlator =>
      .addPair (readings correlator.bindingA.source)
        (readings correlator.effectiveBindingB.source)

/--
A correlator accepts a pair exactly if the request to the accumulator is
carried out.
-/
theorem perform_addPair
    {accumulator : Accumulator R}
    {correlator : Correlator R}
    (kind : accumulator.statistic = .correlator correlator)
    (a b : List R) :
    accumulator.perform (.addPair a b) =
      ((correlator.addPair a b).map fun next =>
        accumulator.accept (.correlator next)).mapError .rejected := by
  rw [perform, addPair?, kind]
  rfl

theorem perform_update
    {accumulator : Accumulator R}
    {correlator : Correlator R}
    (kind : accumulator.statistic = .correlator correlator)
    (readings : Readings R) :
    accumulator.perform (.update readings) =
      ((correlator.update readings).map fun next =>
        accumulator.accept (.correlator next)).mapError .rejected := by
  rw [perform, update, kind]
  show (((correlator.update readings).map _).map _).mapError _ = _
  cases correlator.update readings <;> rfl

/-- A correlator takes in a pair whatever the request that hands it over. -/
theorem perform_through_id
    {accumulator : Accumulator R}
    {correlator : Correlator R}
    (kind : accumulator.statistic = .correlator correlator)
    (request : Request R) :
    accumulator.perform
        (request.through id id correlator.bindingA.source
          correlator.effectiveBindingB.source) =
      accumulator.perform request := by
  cases request with
  | add sample =>
      simp only [Request.through, Request.sample?, id, perform, addPair?, add,
        Statistic.add, Refusal.unlessKnown, kind, Correlator.add]
      cases correlator.addPair sample sample <;> rfl
  | update readings =>
      simp only [Request.through, Request.sample?, id, perform, addPair?,
        update, Statistic.update, Refusal.unlessKnown, kind,
        correlator.update_eq_addPair]
      cases correlator.addPair (readings correlator.bindingA.source)
        (readings correlator.effectiveBindingB.source) <;> rfl
  | addPair a b => rfl
  | finalize => rfl
  | clear => rfl
  | setArguments arguments => rfl
  | setInterval interval => rfl
  | reschedule interval => rfl

/--
Requests that hand over what the sources deliver can be replaced by the
original ones.
-/
theorem performAll_through_id
    {accumulator final : Accumulator R}
    {correlator : Correlator R}
    (kind : accumulator.statistic = .correlator correlator)
    {requests : List (Request R)}
    (performed :
      accumulator.performAll
          (requests.map fun request =>
            request.through id id correlator.bindingA.source
              correlator.effectiveBindingB.source) =
        .ok final) :
    accumulator.performAll requests = .ok final := by
  induction requests generalizing accumulator correlator with
  | nil => exact performed
  | cons request rest hypothesis =>
      rcases performAll_cons_ok performed with ⟨next, first, later⟩
      rw [perform_through_id kind] at first
      rcases perform_correlator kind first with ⟨after, kept, step⟩
      have same := step.sameSetup
      rw [← same.bindingA, ← same.effectiveBindingB] at later
      rw [performAll, first]
      exact hypothesis kept later

/--
Handing over the values of the sources is an update, also in what is refused.
-/
theorem perform_handOver
    {accumulator : Accumulator R}
    (complete : accumulator.statistic.IsComplete)
    (readings : Readings R) :
    accumulator.perform (accumulator.handOver readings) =
      accumulator.perform (.update readings) := by
  rcases accumulator with ⟨sampling, statistic⟩
  cases statistic with
  | moments moments =>
      have pulled : (moments.binding.pull readings >>= fun sample =>
          (moments.add sample).map Statistic.moments) =
          (moments.add (readings moments.binding.source)).map .moments := by
        refine Binding.pull_bind_of_checked fun sample misfit => ?_
        rw [←
            show moments.components.length = moments.binding.length
              from complete] at misfit ⊢
        rw [Moments.add_of_misfit misfit]
        rfl
      simp only [handOver, perform, add, update, Statistic.update,
        Statistic.add, pulled]
  | series series =>
      have pulled : (series.binding.pull readings >>= fun sample =>
          (series.add sample).map Statistic.series) =
          (series.add (readings series.binding.source)).map .series := by
        refine Binding.pull_bind_of_checked fun sample misfit => ?_
        rw [Series.add_of_misfit misfit]
        rfl
      simp only [handOver, perform, add, update, Statistic.update,
        Statistic.add, pulled]
  | correlator correlator => exact perform_through_id rfl (.update readings)

omit [Scalar R] [Exponential R] in
/-- An interval that is accepted is accepted for every accumulator. -/
theorem exists_reschedule
    {sampling changed : Sampling}
    {interval : Nat}
    (accepted : sampling.setInterval interval = .ok changed)
    (accumulator : Accumulator R) :
    ∃ next,
      accumulator.reschedule interval = .ok next ∧
      next.statistic = accumulator.statistic := by
  have positive : 0 < interval :=
    (Sampling.setInterval_ok accepted).1 ▸ changed.interval_pos
  refine ⟨⟨⟨interval, accumulator.sampling.updates, positive⟩,
      accumulator.statistic⟩, ?_, rfl⟩
  rw [reschedule, Sampling.setInterval, dif_pos positive]
  rfl

end Accumulator

/-! ## The state after a request -/

namespace Accumulator

/-- The accumulator after a request; one that is refused changes nothing. -/
def after (accumulator : Accumulator R) (request : Request R) : Accumulator R :=
  match accumulator.perform request with
  | .ok next => next
  | .error _ => accumulator

/-- The accumulator after requests in turn, refused or not. -/
def afterAll
    (accumulator : Accumulator R)
    (requests : List (Request R)) :
    Accumulator R :=
  requests.foldl after accumulator

/-- The accumulator after its owner has handed over what its sources deliver. -/
def feed
    (accumulator : Accumulator R)
    (readings : Readings R) :
    Accumulator R :=
  accumulator.after (accumulator.handOver readings)

/-- What a state becomes by a request, whether it is carried out or refused. -/
theorem after_of_ok
    {accumulator next : Accumulator R}
    {request : Request R}
    (performed : accumulator.perform request = .ok next) :
    accumulator.after request = next := by
  rw [after, performed]

/-- A refused request leaves the accumulator as it was. -/
theorem after_of_error
    {accumulator : Accumulator R}
    {request : Request R}
    {refusal : Refusal}
    (refused : accumulator.perform request = .error refusal) :
    accumulator.after request = accumulator := by
  rw [after, refused]

theorem feed_eq_after_update
    {accumulator : Accumulator R}
    (complete : accumulator.statistic.IsComplete)
    (readings : Readings R) :
    accumulator.feed readings = accumulator.after (.update readings) := by
  rw [feed, after, perform_handOver complete, after]

/-- Running moments keep a component for each value, whatever is requested. -/
theorem isComplete_after
    {accumulator : Accumulator R}
    (complete : accumulator.statistic.IsComplete)
    (request : Request R) :
    (accumulator.after request).statistic.IsComplete := by
  cases performed : accumulator.perform request with
  | error refusal =>
      rw [after_of_error performed]
      exact complete
  | ok next =>
      rw [after_of_ok performed]
      exact (step_of_perform performed).isComplete complete

/-- What a state becomes by an update. -/
theorem after_update
    (accumulator : Accumulator R)
    (readings : Readings R) :
    accumulator.after (.update readings) =
      match accumulator.statistic.update readings with
      | .ok statistic => accumulator.accept statistic
      | .error _ => accumulator := by
  rw [after, perform, update]
  cases accumulator.statistic.update readings <;> rfl

theorem updates_le_after
    (accumulator : Accumulator R)
    (request : Request R) :
    accumulator.updates ≤ (accumulator.after request).updates := by
  cases performed : accumulator.perform request with
  | error refusal => rw [after_of_error performed]
  | ok next =>
      rw [after_of_ok performed]
      exact (step_of_perform performed).updates_le

/-- The count of an accumulator never decreases. -/
theorem updates_le_afterAll
    (accumulator : Accumulator R)
    (requests : List (Request R)) :
    accumulator.updates ≤ (accumulator.afterAll requests).updates := by
  induction requests generalizing accumulator with
  | nil => exact Nat.le_refl _
  | cons request rest hypothesis =>
      exact Nat.le_trans (accumulator.updates_le_after request) (hypothesis _)

end Accumulator

end RunningStatistics
