import RunningStatistics.Proofs.Deliveries

/-!
# Requests carried out in place

Whoever owns an accumulator, a cell or a registry changes it in place.  A
request is then a sequence of checks and changes, and what was changed before a
check fails stays changed.

The programs of this module carry out every request in that way, one check or
change after the other.  They lead where the functions lead, and when a function
rejects a request its program fails for the same cause and leaves the object as
it was.  The rules for `Realizes` are why: a check may come before anything, but
a change only before what cannot fail.

This includes an update of which the source of B alone delivers a sample of the
wrong length.  Whatever samples are offered to a finalized correlator, it is the
end of the run that they are refused for.
-/

namespace RunningStatistics

/-! ## Programs -/

section Programs

variable {ε δ σ τ α : Type}

/-- Go on with what a check yields, or fail. -/
def demand (check : Except ε α) : EStateM ε σ α :=
  match check with
  | .ok value => pure value
  | .error cause => throw cause

/--
Run a program on a part of an object, and put back whatever it leaves of the
part.
-/
def onPart
    (put : τ → σ)
    (part : τ)
    (program : EStateM ε τ Unit) :
    EStateM ε σ Unit := fun _ =>
  match program.run part with
  | .ok () left => .ok () (put left)
  | .error cause left => .error cause (put left)

/--
A program leaves an object in the state that is the outcome, or fails and leaves
it as it is.
-/
def Realizes
    (program : EStateM ε σ Unit)
    (object : σ)
    (outcome : Except ε σ) : Prop :=
  program.run object =
    match outcome with
    | .ok next => .ok () next
    | .error cause => .error cause object

namespace Realizes

/--
The program succeeds exactly if the function does, and in the state that is
the outcome.
-/
theorem ok_iff
    {program : EStateM ε σ Unit}
    {object next : σ}
    {outcome : Except ε σ}
    (realizes : Realizes program object outcome) :
    program.run object = .ok () next ↔ outcome = .ok next := by
  rw [realizes]
  cases outcome <;> simp

/--
The program fails exactly if the function does, and then the state is as it
was.
-/
theorem error_iff
    {program : EStateM ε σ Unit}
    {object left : σ}
    {outcome : Except ε σ}
    {cause : ε}
    (realizes : Realizes program object outcome) :
    program.run object = .error cause left ↔
      outcome = .error cause ∧ left = object := by
  rw [realizes]
  cases outcome <;> simp [eq_comm]

/-- A change at the end. -/
theorem change
    (alter : σ → σ)
    (object : σ) :
    Realizes (modify alter : EStateM ε σ Unit) object (.ok (alter object)) :=
  rfl

theorem fail
    (cause : ε)
    (object : σ) :
    Realizes (throw cause : EStateM ε σ Unit) object (.error cause) :=
  rfl

/-- A look at the object. -/
theorem look
    {program : σ → EStateM ε σ Unit}
    {object : σ}
    {outcome : Except ε σ}
    (rest : Realizes (program object) object outcome) :
    Realizes (get >>= program) object outcome :=
  rest

/-- A check, which may come before anything. -/
theorem check
    {check : Except ε α}
    {program : α → EStateM ε σ Unit}
    {object : σ}
    {outcome : α → Except ε σ}
    (rest :
      ∀ value,
        check = .ok value → Realizes (program value) object (outcome value)) :
    Realizes (demand check >>= program) object (check >>= outcome) := by
  cases check with
  | error cause => rfl
  | ok value => exact rest value rfl

/-- A change, which may come only before what cannot fail. -/
theorem changeFirst
    {alter : σ → σ}
    {program : Unit → EStateM ε σ Unit}
    {object next : σ}
    (rest : Realizes (program ()) (alter object) (.ok next)) :
    Realizes (modify alter >>= program) object (.ok next) :=
  rest

/-- A change after a program. -/
theorem changeLast
    {program : EStateM ε σ Unit}
    {object : σ}
    {outcome : Except ε σ}
    (first : Realizes program object outcome)
    (alter : σ → σ) :
    Realizes (program >>= fun _ => modify alter) object
      (outcome.map alter) := by
  show EStateM.bind program _ object = _
  have first : program object = _ := first
  rw [EStateM.bind, first]
  cases outcome <;> rfl

/-- What is realized on a part is realized on the whole. -/
theorem part
    {program : EStateM ε τ Unit}
    {part : τ}
    {outcome : Except ε τ}
    (inside : Realizes program part outcome)
    (put : τ → σ) :
    Realizes (onPart put part program) (put part) (outcome.map put) := by
  show onPart put part program _ = _
  rw [onPart, inside]
  cases outcome <;> rfl

theorem adaptExcept
    {program : EStateM ε σ Unit}
    {object : σ}
    {outcome : Except ε σ}
    (realizes : Realizes program object outcome)
    (name : ε → δ) :
    Realizes (program.adaptExcept name) object (outcome.mapError name) := by
  show EStateM.adaptExcept name program object = _
  have realizes : program object = _ := realizes
  rw [EStateM.adaptExcept, realizes]
  cases outcome <;> rfl

end Realizes

end Programs

/-! ## Intervals, cells and registries -/

/-- Whether samples can be due at the multiples of a number. -/
def Sampling.checkInterval (interval : Nat) :
    Except Rejection (PLift (0 < interval)) :=
  if positive : 0 < interval then
    .ok ⟨positive⟩
  else
    .error (.configuration .zeroInterval)

/-- Change an interval in place. -/
def Sampling.setIntervalInPlace (interval : Nat) :
    EStateM Rejection Sampling Unit := do
  let positive ← demand (checkInterval interval)
  modify fun sampling =>
    { sampling with interval, interval_pos := positive.down }

theorem Sampling.realizes_setInterval
    (sampling : Sampling)
    (interval : Nat) :
    Realizes (setIntervalInPlace interval) sampling
      (sampling.setInterval interval) := by
  have checked :
      sampling.setInterval interval =
        (checkInterval interval >>= fun positive =>
          .ok { sampling with interval, interval_pos := positive.down }) := by
    rw [setInterval, checkInterval]
    by_cases positive : 0 < interval
    · rw [dif_pos positive, dif_pos positive]
      rfl
    · rw [dif_neg positive, dif_neg positive]
      rfl
  rw [checked]
  apply Realizes.check
  intro positive accepted
  apply Realizes.change

section Objects

variable {R : Type}

/-- Whether values fill a cell. -/
def Cell.checkFilled
    (cell : Cell R)
    (values : List R) :
    Except Rejection (PLift (values.length = cell.values.length)) :=
  if same : values.length = cell.values.length then
    .ok ⟨same⟩
  else
    .error (.shapeMismatch cell.values.length values.length)

/-- Overwrite the values of a cell in place. -/
def Cell.setInPlace (values : List R) : EStateM Rejection (Cell R) Unit := do
  let cell ← get
  let same ← demand (cell.checkFilled values)
  modify fun _ => ⟨cell.shape, values, same.down.trans cell.filled⟩

theorem Cell.realizes_set
    (cell : Cell R)
    (values : List R) :
    Realizes (setInPlace values) cell (cell.set values) := by
  have checked : cell.set values = (cell.checkFilled values >>= fun same =>
      .ok ⟨cell.shape, values, same.down.trans cell.filled⟩) := by
    rw [Cell.set, checkFilled]
    by_cases same : values.length = cell.values.length
    · rw [dif_pos same, dif_pos same]
      rfl
    · rw [dif_neg same, dif_neg same]
      rfl
  rw [checked]
  apply Realizes.look
  apply Realizes.check
  intro same accepted
  apply Realizes.change

namespace Registry

/-- Whether an accumulator is not registered yet. -/
def checkAbsent
    (registry : Registry)
    (id : AccumulatorId) :
    Except Rejection (PLift (id ∉ registry.entries)) :=
  if present : id ∈ registry.entries then
    .error .alreadyRegistered
  else
    .ok ⟨present⟩

/-- Whether an accumulator is registered. -/
def checkPresent
    (registry : Registry)
    (id : AccumulatorId) :
    Except Rejection Unit :=
  if id ∈ registry.entries then
    .ok ()
  else
    .error .notRegistered

/-- Registering an absent accumulator keeps the entries distinct. -/
theorem nodup_concat
    (registry : Registry)
    {id : AccumulatorId}
    (absent : id ∉ registry.entries) : (registry.entries ++ [id]).Nodup := by
  rw [List.nodup_append]
  refine ⟨registry.nodup, List.pairwise_singleton _ _, ?_⟩
  rintro member present last single rfl
  cases List.mem_singleton.mp single
  exact absent present

/-- Register an accumulator in place. -/
def addInPlace (id : AccumulatorId) : EStateM Rejection Registry Unit := do
  let registry ← get
  let absent ← demand (registry.checkAbsent id)
  modify fun _ => ⟨registry.entries ++ [id], registry.nodup_concat absent.down⟩

/-- Take an accumulator off a registry in place. -/
def removeInPlace (id : AccumulatorId) : EStateM Rejection Registry Unit := do
  let registry ← get
  demand (registry.checkPresent id)
  modify fun _ => ⟨registry.entries.erase id, registry.nodup.erase id⟩

theorem realizes_add
    (registry : Registry)
    (id : AccumulatorId) :
    Realizes (addInPlace id) registry (registry.add id) := by
  have checked : registry.add id = (registry.checkAbsent id >>= fun absent =>
      .ok ⟨registry.entries ++ [id], registry.nodup_concat absent.down⟩) := by
    rw [add, checkAbsent]
    by_cases present : id ∈ registry.entries
    · rw [dif_pos present, dif_pos present]
      rfl
    · rw [dif_neg present, dif_neg present]
      rfl
  rw [checked]
  apply Realizes.look
  apply Realizes.check
  intro absent accepted
  apply Realizes.change

theorem realizes_remove
    (registry : Registry)
    (id : AccumulatorId) :
    Realizes (removeInPlace id) registry (registry.remove id) := by
  have checked : registry.remove id = (registry.checkPresent id >>= fun _ =>
      .ok ⟨registry.entries.erase id, registry.nodup.erase id⟩) := by
    rw [remove, checkPresent]
    split <;> rfl
  rw [checked]
  apply Realizes.look
  apply Realizes.check
  intro present accepted
  apply Realizes.change

end Registry

/-! ## Statistics -/

/-- Record one sample in place. -/
def Series.addInPlace (sample : List R) :
    EStateM Rejection (Series R) Unit := do
  let series ← get
  demand (requireLength series.binding.length sample.length)
  modify fun series => { series with samples := series.samples.push sample }

theorem Series.realizes_add
    (series : Series R)
    (sample : List R) :
    Realizes (addInPlace sample) series (series.add sample) := by
  apply Realizes.look
  apply Realizes.check
  intro fits accepted
  apply Realizes.change

/-- Record in place what the source delivers now. -/
def Series.updateInPlace (readings : Readings R) :
    EStateM Rejection (Series R) Unit := do
  let series ← get
  let sample ← demand (series.binding.pull readings)
  addInPlace sample

/-- What a source delivers is checked before a series records it. -/
theorem Series.realizes_update
    (series : Series R)
    (readings : Readings R) :
    Realizes (updateInPlace readings) series
      (series.binding.pull readings >>= series.add) := by
  apply Realizes.look
  apply Realizes.check
  intro sample delivered
  exact series.realizes_add sample

variable [Scalar R]

namespace Moments

/-- Take in one sample in place. -/
def addInPlace (sample : List R) : EStateM Rejection (Moments R) Unit := do
  let moments ← get
  demand (requireLength moments.components.length sample.length)
  modify fun moments => { moments with count := moments.count + 1 }
  modify fun moments =>
    { moments with
      components :=
        List.zipWith (Moment.add moments.count) moments.components sample }

/-- Take in what the source delivers now in place. -/
def updateInPlace (readings : Readings R) :
    EStateM Rejection (Moments R) Unit := do
  let moments ← get
  let sample := readings moments.binding.source
  demand (requireLength moments.components.length sample.length)
  addInPlace sample

theorem realizes_add
    (moments : Moments R)
    (sample : List R) :
    Realizes (addInPlace sample) moments (moments.add sample) := by
  apply Realizes.look
  apply Realizes.check
  intro fits accepted
  apply Realizes.changeFirst
  apply Realizes.change

/--
Checking against the components is checking against the binding if there are as
many.
-/
theorem realizes_update
    {moments : Moments R}
    (complete : moments.components.length = moments.binding.length)
    (readings : Readings R) :
    Realizes (updateInPlace readings) moments
      (moments.binding.pull readings >>= moments.add) := by
  have pulled :
      (moments.binding.pull readings >>= moments.add) =
        (requireLength moments.components.length
          (readings moments.binding.source).length >>= fun _ =>
          moments.add (readings moments.binding.source)) := by
    rw [Binding.pull, complete]
    cases requireLength moments.binding.length
      (readings moments.binding.source).length <;>
      rfl
  rw [pulled]
  apply Realizes.look
  apply Realizes.check
  intro fits accepted
  exact moments.realizes_add _

end Moments

/-! ### Correlators -/

namespace Correlator

/-- Whether a correlator still takes samples. -/
def checkRunning (correlator : Correlator R) : Except Rejection Unit :=
  if correlator.isFinalized then .error .finalized else .ok ()

/-- Replace the arguments of the operation in place. -/
def setArgumentsInPlace (arguments : Axes R) :
    EStateM Rejection (Correlator R) Unit := do
  let correlator ← get
  demand
    ((correlator.config.operation.checkArguments arguments).mapError
      fun fault => .configuration (.arguments fault))
  modify fun correlator =>
    { correlator with config := { correlator.config with arguments } }

theorem realizes_setArguments
    (correlator : Correlator R)
    (arguments : Axes R) :
    Realizes (setArgumentsInPlace arguments) correlator
      (correlator.setArguments arguments) := by
  have checked :
      correlator.setArguments arguments =
        ((correlator.config.operation.checkArguments arguments).mapError
          (fun fault => Rejection.configuration (.arguments fault)) >>= fun _ =>
          .ok { correlator with
            config := { correlator.config with arguments } }) := by
    rw [setArguments]
    cases correlator.config.operation.checkArguments arguments <;> rfl
  rw [checked]
  apply Realizes.look
  apply Realizes.check
  intro sound accepted
  apply Realizes.change

variable [Exponential R]

/-- Take in simultaneous samples of A and B in place. -/
def addPairInPlace (a b : List R) : EStateM Rejection (Correlator R) Unit := do
  let correlator ← get
  demand correlator.checkRunning
  demand (requireLength correlator.lengthA a.length)
  demand (requireLength correlator.lengthB b.length)
  modify fun correlator => { correlator with count := correlator.count + 1 }
  modify fun correlator =>
    { correlator with sumA := Scalar.addEach correlator.sumA a }
  modify fun correlator =>
    { correlator with sumB := Scalar.addEach correlator.sumB b }
  modify fun correlator =>
    { correlator with
      hierarchy :=
        Hierarchy.ingest correlator.config.rules correlator.hierarchy ⟨a, b⟩ }

/-- Take in what the sources deliver now in place. -/
def updateInPlace (readings : Readings R) :
    EStateM Rejection (Correlator R) Unit := do
  let correlator ← get
  demand correlator.checkRunning
  let a ← demand (correlator.bindingA.pull readings)
  let b ← demand (match correlator.bindingB with
    | some binding => binding.pull readings
    | none => .ok a)
  addPairInPlace a b

theorem realizes_addPair
    (correlator : Correlator R)
    (a b : List R) :
    Realizes (addPairInPlace a b) correlator (correlator.addPair a b) := by
  have checked : correlator.addPair a b = (correlator.checkRunning >>= fun _ =>
      requireLength correlator.lengthA a.length >>= fun _ =>
        requireLength correlator.lengthB b.length >>= fun _ =>
          .ok (correlator.receive ⟨a, b⟩)) := by
    rw [addPair, checkRunning]
    split <;> rfl
  rw [checked]
  apply Realizes.look
  apply Realizes.check
  intro running _
  apply Realizes.check
  intro fitsA _
  apply Realizes.check
  intro fitsB _
  apply Realizes.changeFirst
  apply Realizes.changeFirst
  apply Realizes.changeFirst
  apply Realizes.change

theorem realizes_update
    (correlator : Correlator R)
    (readings : Readings R) :
    Realizes (updateInPlace readings) correlator
      (correlator.update readings) := by
  have checked :
      correlator.update readings =
        (correlator.checkRunning >>= fun _ =>
          correlator.bindingA.pull readings >>= fun a =>
            (match correlator.bindingB with
              | some binding => binding.pull readings
              | none => .ok a) >>= fun b => correlator.addPair a b) := by
    rw [update, checkRunning]
    cases correlator.bindingB <;> split <;> rfl
  rw [checked]
  apply Realizes.look
  apply Realizes.check
  intro running _
  apply Realizes.check
  intro a _
  apply Realizes.check
  intro b _
  exact correlator.realizes_addPair a b

end Correlator

end Objects

/-! ## Accumulators -/

variable {R : Type}

namespace Accumulator

/-- Count a sample that was taken in. -/
def countUpdate (accumulator : Accumulator R) : Accumulator R :=
  { accumulator with sampling := accumulator.sampling.recordUpdate }

/-- Let the statistic take in a sample in place, and count it. -/
def takeIn (program : EStateM Rejection (Statistic R) Unit) :
    EStateM Rejection (Accumulator R) Unit := do
  let accumulator ← get
  onPart (fun statistic => { accumulator with statistic }) accumulator.statistic
    program
  modify countUpdate

/-- Run a program on a correlator. -/
def onCorrelator (program : EStateM Rejection (Correlator R) Unit) :
    EStateM Refusal (Accumulator R) Unit := do
  let accumulator ← get
  match accumulator.statistic with
  | .correlator correlator =>
      (onPart (fun next => { accumulator with statistic := .correlator next })
        correlator program).adaptExcept .rejected
  | _ => throw .unsuited

/-- Forget the samples of a series in place. -/
def clearInPlace : EStateM Refusal (Accumulator R) Unit := do
  let accumulator ← get
  match accumulator.statistic with
  | .series series =>
      onPart (fun next => { accumulator with statistic := .series next }) series
        (modify Series.clear)
  | _ => throw .unsuited

/-- Change when samples are due in place. -/
def rescheduleInPlace (interval : Nat) :
    EStateM Rejection (Accumulator R) Unit := do
  let accumulator ← get
  onPart (fun sampling => { accumulator with sampling }) accumulator.sampling
    (Sampling.setIntervalInPlace interval)

/--
Change the interval in place, unless the lags of a correlator depend on it.
-/
def setIntervalInPlace (interval : Nat) :
    EStateM Rejection (Accumulator R) Unit := do
  match (← get).statistic with
  | .correlator _ => throw (.configuration .fixedInterval)
  | _ => rescheduleInPlace interval

/--
A statistic that takes in a sample is counted, and one that refuses it is not.
-/
theorem realizes_takeIn
    {accumulator : Accumulator R}
    {program : EStateM Rejection (Statistic R) Unit}
    {outcome : Except Rejection (Statistic R)}
    (realizes : Realizes program accumulator.statistic outcome) :
    Realizes (takeIn program) accumulator (outcome.map accumulator.accept) := by
  have counted :
      outcome.map accumulator.accept =
        (outcome.map fun statistic => { accumulator with statistic }).map
          countUpdate := by
    cases outcome <;> rfl
  rw [counted]
  apply Realizes.look
  apply Realizes.changeLast
  exact realizes.part fun statistic => { accumulator with statistic }

theorem realizes_onCorrelator
    {accumulator : Accumulator R}
    {correlator : Correlator R}
    (kind : accumulator.statistic = .correlator correlator)
    {program : EStateM Rejection (Correlator R) Unit}
    {outcome : Except Rejection (Correlator R)}
    (realizes : Realizes program correlator outcome) :
    Realizes (onCorrelator program) accumulator
      ((outcome.map fun next =>
         { accumulator with statistic := .correlator next }).mapError
        .rejected) := by
  rcases accumulator with ⟨sampling, statistic⟩
  cases kind
  apply Realizes.look
  apply Realizes.adaptExcept
  exact realizes.part fun next => (⟨sampling, .correlator next⟩ : Accumulator R)

theorem realizes_reschedule
    (accumulator : Accumulator R)
    (interval : Nat) :
    Realizes (rescheduleInPlace interval) accumulator
      (accumulator.reschedule interval) := by
  apply Realizes.look
  exact (accumulator.sampling.realizes_setInterval interval).part
    fun sampling => { accumulator with sampling }

theorem realizes_setInterval
    (accumulator : Accumulator R)
    (interval : Nat) :
    Realizes (setIntervalInPlace interval) accumulator
      (accumulator.setInterval interval) := by
  rcases accumulator with ⟨sampling, statistic⟩
  apply Realizes.look
  cases statistic with
  | correlator correlator => apply Realizes.fail
  | moments moments => apply realizes_reschedule
  | series series => apply realizes_reschedule

end Accumulator

variable [Scalar R] [Exponential R]

namespace Statistic

/-- Take in one sample in place. -/
def addInPlace (sample : List R) : EStateM Rejection (Statistic R) Unit := do
  match ← get with
  | moments statistic => onPart moments statistic (Moments.addInPlace sample)
  | series statistic => onPart series statistic (Series.addInPlace sample)
  | correlator statistic =>
      onPart correlator statistic (Correlator.addPairInPlace sample sample)

/-- Take in what the sources deliver now in place. -/
def updateInPlace (readings : Readings R) :
    EStateM Rejection (Statistic R) Unit := do
  match ← get with
  | moments statistic =>
      onPart moments statistic (Moments.updateInPlace readings)
  | series statistic => onPart series statistic (Series.updateInPlace readings)
  | correlator statistic =>
      onPart correlator statistic (Correlator.updateInPlace readings)

theorem realizes_add
    (statistic : Statistic R)
    (sample : List R) :
    Realizes (addInPlace sample) statistic (statistic.add sample) := by
  apply Realizes.look
  cases statistic with
  | moments statistic => exact (statistic.realizes_add sample).part moments
  | series statistic => exact (statistic.realizes_add sample).part series
  | correlator statistic =>
      exact (statistic.realizes_addPair sample sample).part correlator

theorem realizes_update
    {statistic : Statistic R}
    (complete : statistic.IsComplete)
    (readings : Readings R) :
    Realizes (updateInPlace readings) statistic
      (statistic.update readings) := by
  apply Realizes.look
  cases statistic with
  | moments statistic =>
      have updated : (moments statistic).update readings =
          (statistic.binding.pull readings >>= statistic.add).map moments := by
        rw [update]
        cases statistic.binding.pull readings <;> rfl
      rw [updated]
      exact (Moments.realizes_update complete readings).part moments
  | series statistic =>
      have updated : (series statistic).update readings =
          (statistic.binding.pull readings >>= statistic.add).map series := by
        rw [update]
        cases statistic.binding.pull readings <;> rfl
      rw [updated]
      exact (statistic.realizes_update readings).part series
  | correlator statistic =>
      exact (statistic.realizes_update readings).part correlator

end Statistic

/-! ### Requests -/

namespace Accumulator

/-- Carry out a request in place. -/
def performInPlace : Request R → EStateM Refusal (Accumulator R) Unit
  | .add sample => (takeIn (Statistic.addInPlace sample)).adaptExcept .rejected
  | .addPair a b => do
      onCorrelator (Correlator.addPairInPlace a b)
      modify countUpdate
  | .update readings =>
      (takeIn (Statistic.updateInPlace readings)).adaptExcept .rejected
  | .finalize => onCorrelator (modify Correlator.finalize)
  | .clear => clearInPlace
  | .setArguments arguments =>
      onCorrelator (Correlator.setArgumentsInPlace arguments)
  | .setInterval interval => (setIntervalInPlace interval).adaptExcept .rejected
  | .reschedule interval => (rescheduleInPlace interval).adaptExcept .rejected

/-- A request that is carried out in place leads where the function leads. -/
theorem realizes_perform
    {accumulator : Accumulator R}
    (complete : accumulator.statistic.IsComplete)
    (request : Request R) :
    Realizes (performInPlace request) accumulator
      (accumulator.perform request) := by
  cases request with
  | add sample =>
      apply Realizes.adaptExcept
      apply realizes_takeIn
      exact accumulator.statistic.realizes_add sample
  | update readings =>
      apply Realizes.adaptExcept
      apply realizes_takeIn
      exact Statistic.realizes_update complete readings
  | setInterval interval =>
      exact (accumulator.realizes_setInterval interval).adaptExcept _
  | reschedule interval =>
      exact (accumulator.realizes_reschedule interval).adaptExcept _
  | addPair a b =>
      rcases accumulator with ⟨sampling, statistic⟩
      cases statistic with
      | correlator correlator =>
          have counted :
              (⟨sampling, .correlator correlator⟩ : Accumulator R).perform
                  (.addPair a b) =
                (((correlator.addPair a b).map fun next =>
                   (⟨sampling, .correlator next⟩ : Accumulator R)).mapError
                  .rejected).map countUpdate := by
            simp only [perform, addPair?, Refusal.unlessKnown]
            cases correlator.addPair a b <;> rfl
          rw [counted]
          apply Realizes.changeLast
          exact realizes_onCorrelator rfl (correlator.realizes_addPair a b)
      | moments moments => apply Realizes.fail
      | series series => apply Realizes.fail
  | finalize =>
      rcases accumulator with ⟨sampling, statistic⟩
      cases statistic with
      | correlator correlator =>
          exact realizes_onCorrelator rfl
            (Realizes.change Correlator.finalize correlator)
      | moments moments => apply Realizes.fail
      | series series => apply Realizes.fail
  | clear =>
      rcases accumulator with ⟨sampling, statistic⟩
      cases statistic with
      | series series =>
          exact (Realizes.change Series.clear series).part
            fun next => (⟨sampling, .series next⟩ : Accumulator R)
      | moments moments => apply Realizes.fail
      | correlator correlator => apply Realizes.fail
  | setArguments arguments =>
      rcases accumulator with ⟨sampling, statistic⟩
      cases statistic with
      | correlator correlator =>
          exact realizes_onCorrelator rfl
            (correlator.realizes_setArguments arguments)
      | moments moments => apply Realizes.fail
      | series series => apply Realizes.fail

/-! ## Refusals -/

/--
What is offered to a finalized correlator is refused for the end of the run,
whatever it is.
-/
theorem perform_of_isFinalized
    {accumulator : Accumulator R}
    {correlator : Correlator R}
    (kind : accumulator.statistic = .correlator correlator)
    (ended : correlator.isFinalized = true)
    {request : Request R}
    {sample : Sample R}
    (offered :
      request.sample? correlator.bindingA.source
          correlator.effectiveBindingB.source =
        some sample) :
    accumulator.perform request = .error (.rejected .finalized) := by
  cases request with
  | add a =>
      rw [perform, add, kind, Statistic.add, Correlator.add,
        Correlator.addPair_of_isFinalized ended]
      rfl
  | addPair a b =>
      simp only [perform, addPair?, kind,
        Correlator.addPair_of_isFinalized ended]
      rfl
  | update readings =>
      rw [perform, update, kind, Statistic.update, Correlator.update_eq_addPair,
        Correlator.addPair_of_isFinalized ended]
      rfl
  | finalize => cases offered
  | clear => cases offered
  | setArguments arguments => cases offered
  | setInterval interval => cases offered
  | reschedule interval => cases offered

/--
An update is refused if the source of B delivers a sample of the wrong length.
-/
theorem perform_update_of_misfitB
    {accumulator : Accumulator R}
    {correlator : Correlator R}
    {bindingB : Binding}
    {readings : Readings R}
    (kind : accumulator.statistic = .correlator correlator)
    (running : correlator.isFinalized = false)
    (second : correlator.bindingB = some bindingB)
    (fits :
      correlator.bindingA.length = (readings correlator.bindingA.source).length)
    (misfit : bindingB.length ≠ (readings bindingB.source).length) :
    accumulator.perform (.update readings) =
      .error (.rejected (.shapeMismatch bindingB.length
            (readings bindingB.source).length)) := by
  rw [perform, update, kind, Statistic.update, Correlator.update, second,
    if_neg (by simp [running]), Binding.pull_of_fits fits]
  have refused := Binding.pull_of_misfit misfit
  show
    ((Except.map _ (Binding.pull bindingB readings >>= _)).map _).mapError _ = _
  rw [refused]
  rfl

/--
Carried out in place, a request fails if and only if the function rejects it,
for the same cause, and leaves an accumulator, a cell or a registry exactly as
it was; otherwise it leads where the function leads.
-/
theorem refused_requests_change_nothing
    (accumulator : Accumulator R)
    (reachable : accumulator.IsReachable)
    (cell : Cell R)
    (registry : Registry) :
    (∀ request,
      (∀ refusal left,
        (performInPlace request).run accumulator = .error refusal left ↔
          accumulator.perform request = .error refusal ∧ left = accumulator) ∧
      ∀ next,
        (performInPlace request).run accumulator = .ok () next ↔
          accumulator.perform request = .ok next) ∧
    (∀ correlator bindingB readings,
      accumulator.statistic = .correlator correlator →
      correlator.isFinalized = false →
      correlator.bindingB = some bindingB →
      correlator.bindingA.length =
        (readings correlator.bindingA.source).length →
      bindingB.length ≠ (readings bindingB.source).length →
      (performInPlace (.update readings)).run accumulator =
        .error
          (.rejected (.shapeMismatch bindingB.length
              (readings bindingB.source).length)) accumulator) ∧
    (∀ correlator request sample,
      accumulator.statistic = .correlator correlator →
      correlator.isFinalized = true →
      request.sample? correlator.bindingA.source
          correlator.effectiveBindingB.source =
        some sample →
      (performInPlace request).run accumulator =
        .error (.rejected .finalized) accumulator) ∧
    (∀ values,
      (∀ cause left,
        (Cell.setInPlace values).run cell = .error cause left ↔
          cell.set values = .error cause ∧ left = cell) ∧
      ∀ next,
        (Cell.setInPlace values).run cell = .ok () next ↔
          cell.set values = .ok next) ∧
    ∀ id,
      (∀ cause left,
        (Registry.addInPlace id).run registry = .error cause left ↔
          registry.add id = .error cause ∧ left = registry) ∧
      (∀ next,
        (Registry.addInPlace id).run registry = .ok () next ↔
          registry.add id = .ok next) ∧
      (∀ cause left,
        (Registry.removeInPlace id).run registry = .error cause left ↔
          registry.remove id = .error cause ∧ left = registry) ∧
      ∀ next,
        (Registry.removeInPlace id).run registry = .ok () next ↔
          registry.remove id = .ok next := by
  have realizes := accumulator.realizes_perform reachable.isComplete
  refine ⟨?_, ?_, ?_, ?_, ?_⟩
  · intro request
    exact ⟨fun _ _ => (realizes request).error_iff,
      fun _ => (realizes request).ok_iff⟩
  · intro correlator bindingB readings kind running second fitsA misfitB
    rw [(realizes _).error_iff]
    exact ⟨perform_update_of_misfitB kind running second fitsA misfitB, rfl⟩
  · intro correlator request sample kind ended offered
    rw [(realizes _).error_iff]
    exact ⟨perform_of_isFinalized kind ended offered, rfl⟩
  · intro values
    have realizes := cell.realizes_set values
    exact ⟨fun _ _ => realizes.error_iff, fun _ => realizes.ok_iff⟩
  · intro id
    have added := registry.realizes_add id
    have removed := registry.realizes_remove id
    exact ⟨fun _ _ => added.error_iff, fun _ => added.ok_iff,
      fun _ _ => removed.error_iff, fun _ => removed.ok_iff⟩

/-- The source of A delivers two values, the source of B none. -/
def halfSilent : Readings Float := fun source =>
  if source.index = 0 then [Scalar.zero, Scalar.zero] else []

theorem refused_requests_change_nothing_trial :
    ∃ start ended : Accumulator Float,
      Accumulator.correlator (trialSource 0) (some (trialSource 1))
          trialConfig 2 =
        .ok start ∧
      start.perform .finalize = .ok ended ∧
      (performInPlace (.update halfSilent)).run start =
        .error (.rejected (.shapeMismatch 2 0)) start ∧
      (performInPlace (.add [])).run ended =
        .error (.rejected .finalized) ended := by
  rcases trial_accepted with ⟨start, _, created, _⟩
  have reachable : start.IsReachable := .correlator created
  rcases correlator_parts created with
    ⟨bindingA, bindingB, correlator, boundA, boundB, _, made, kind⟩
  cases boundA
  cases boundB
  have setup :
      correlator.bindingA = ⟨⟨0⟩, [2], by decide⟩ ∧
      correlator.bindingB = some ⟨⟨1⟩, [2], by decide⟩ ∧
      correlator.isFinalized = false := by
    rw [Correlator.create] at made
    rcases map_ok made with ⟨_, _, rfl⟩
    exact ⟨rfl, rfl, rfl⟩
  rcases setup with ⟨readsA, readsB, running⟩
  let finished := { start with statistic := .correlator correlator.finalize }
  have ended : start.perform .finalize = .ok finished := by
    simp only [perform, finalize?, kind]
    rfl
  refine ⟨start, finished, created, ended, ?_, ?_⟩
  · exact (refused_requests_change_nothing start reachable
        (.blank []) .empty).2.1 correlator _ halfSilent kind running readsB
      (by rw [readsA]; decide) (by decide)
  · exact (refused_requests_change_nothing finished (reachable.perform ended)
        (.blank []) .empty).2.2.1 correlator.finalize _ _ rfl
      correlator.isFinalized_finalize rfl

end Accumulator

end RunningStatistics
