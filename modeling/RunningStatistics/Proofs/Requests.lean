import RunningStatistics.Correlation.Streams
import RunningStatistics.Registry

/-!
# Requests to accumulators

The owner of an accumulator asks it to take in samples, to end its run, or to
change its settings.  A request is carried out, rejected, or unknown to an
accumulator of that kind; only one that is carried out changes anything.

For a correlator, `Correlator.Step` lists everything that a request can do to
it.  A run is a sequence of requests, all of which are carried out; what the
correlator took in during a run is read off the requests alone.
-/

namespace RunningStatistics

/-! ## Successful outcomes -/

section Outcomes

variable {ε δ α β : Type}

/--
If a sequence of two computations succeeds, the first one does, and the second
one does with its value.
-/
theorem bind_ok
    {outcome : Except ε α}
    {next : α → Except ε β}
    {result : β}
    (success : (outcome >>= next) = .ok result) :
    ∃ value, outcome = .ok value ∧ next value = .ok result := by
  cases outcome with
  | error cause => cases success
  | ok value => exact ⟨value, rfl, success⟩

theorem map_ok
    {outcome : Except ε α}
    {change : α → β}
    {result : β}
    (success : outcome.map change = .ok result) :
    ∃ value, outcome = .ok value ∧ change value = result := by
  cases outcome with
  | error cause => cases success
  | ok value =>
      cases success
      exact ⟨value, rfl, rfl⟩

theorem mapError_ok
    {outcome : Except ε α}
    {change : ε → δ}
    {result : α}
    (success : outcome.mapError change = .ok result) :
    outcome = .ok result := by
  cases outcome with
  | error cause => cases success
  | ok value =>
      cases success
      rfl

theorem exists_ok
    {outcome : Except ε α}
    (success : outcome.toBool = true) :
    ∃ result, outcome = .ok result := by
  cases outcome with
  | error cause => cases success
  | ok result => exact ⟨result, rfl⟩

end Outcomes

/-! ### Outcomes that are alike -/

/--
Two outcomes that are failures of the same cause, or successes whose values are
related.
-/
inductive Alike
    {ε α β : Type}
    (related : α → β → Prop) :
    Except ε α → Except ε β → Prop where
  | error (cause : ε) : Alike related (.error cause) (.error cause)
  | ok {left : α} {right : β} (values : related left right) :
      Alike related (.ok left) (.ok right)

namespace Alike

variable
    {ε δ α β γ ζ : Type}
    {related : α → β → Prop}
    {left : Except ε α}
    {right : Except ε β}

theorem map
    (alike : Alike related left right)
    {images : γ → ζ → Prop}
    {first : α → γ}
    {second : β → ζ}
    (keeps : ∀ {x y}, related x y → images (first x) (second y)) :
    Alike images (left.map first) (right.map second) := by
  cases alike with
  | error cause => exact .error cause
  | ok values => exact .ok (keeps values)

theorem mapError
    (alike : Alike related left right)
    (change : ε → δ) :
    Alike related (left.mapError change) (right.mapError change) := by
  cases alike with
  | error cause => exact .error (change cause)
  | ok values => exact .ok values

/--
What follows a step that two programs share is alike if it is after the step
succeeds.
-/
theorem bind
    {shared : Except ε γ}
    {first : γ → Except ε α}
    {second : γ → Except ε β}
    (next :
      ∀ value,
        shared = .ok value → Alike related (first value) (second value)) :
    Alike related (shared >>= first) (shared >>= second) := by
  cases shared with
  | error cause => exact .error cause
  | ok value => exact next value rfl

/-- What is told of two outcomes that are alike is the same. -/
theorem map_const_eq
    (alike : Alike related left right)
    (told : γ) :
    (left.map fun _ => told) = right.map fun _ => told := by
  cases alike <;> rfl

end Alike

/-! ## Requests -/

/-- What the owner of an accumulator can ask of it. -/
inductive Request (R : Type) where
  | add (sample : List R)
  | addPair (a b : List R)
  | update (readings : Readings R)
  | finalize
  | clear
  | setArguments (arguments : Axes R)
  /-- Change the interval, if the accumulator permits it. -/
  | setInterval (interval : Nat)
  /-- Change when samples are due. -/
  | reschedule (interval : Nat)

/-- Why a request was not carried out. -/
inductive Refusal where
  | rejected (cause : Rejection)
  /-- An accumulator of this kind knows no such request. -/
  | unsuited
  deriving DecidableEq

/-- The outcome of a request that not every kind of accumulator knows. -/
def Refusal.unlessKnown {α : Type} :
    Option (Except Rejection α) → Except Refusal α
  | some outcome => outcome.mapError rejected
  | none => .error unsuited

/-- A request that succeeds was one that the accumulator knows. -/
theorem Refusal.unlessKnown_ok
    {α : Type}
    {outcome : Option (Except Rejection α)}
    {result : α}
    (success : unlessKnown outcome = .ok result) :
    outcome = some (.ok result) := by
  cases outcome with
  | none => cases success
  | some outcome => rw [mapError_ok success]

variable {R : Type} [Scalar R]

namespace Accumulator

variable [Exponential R]

/-- Carry out a request. -/
def perform (accumulator : Accumulator R) :
    Request R → Except Refusal (Accumulator R)
  | .add sample => (accumulator.add sample).mapError .rejected
  | .addPair a b => Refusal.unlessKnown (accumulator.addPair? a b)
  | .update readings => (accumulator.update readings).mapError .rejected
  | .finalize => Refusal.unlessKnown (accumulator.finalize?.map .ok)
  | .clear => Refusal.unlessKnown (accumulator.clear?.map .ok)
  | .setArguments arguments =>
      Refusal.unlessKnown (accumulator.setArguments? arguments)
  | .setInterval interval =>
      (accumulator.setInterval interval).mapError .rejected
  | .reschedule interval => (accumulator.reschedule interval).mapError .rejected

/-- Carry out requests in turn, up to the first one that is not carried out. -/
def performAll :
    Accumulator R → List (Request R) → Except Refusal (Accumulator R)
  | accumulator, [] => .ok accumulator
  | accumulator, request :: rest => do
      let next ← accumulator.perform request
      next.performAll rest

/--
In a run that succeeds, the first request succeeds, and the rest do after it.
-/
theorem performAll_cons_ok
    {accumulator final : Accumulator R}
    {request : Request R}
    {rest : List (Request R)}
    (performed : accumulator.performAll (request :: rest) = .ok final) :
    ∃ next,
      accumulator.perform request = .ok next ∧
      next.performAll rest = .ok final :=
  bind_ok performed

end Accumulator

/-! ## What a run takes in -/

namespace Request

/--
The simultaneous samples that a request hands to a correlator of two sources.
-/
def sample? (sourceA sourceB : SourceId) : Request R → Option (Sample R)
  | add a => some ⟨a, a⟩
  | addPair a b => some ⟨a, b⟩
  | update readings => some ⟨readings sourceA, readings sourceB⟩
  | _ => none

/-- The arguments in force after a request. -/
def settle (arguments : Axes R) : Request R → Axes R
  | setArguments replacement => replacement
  | _ => arguments

end Request

/--
What the requests of a run hand to a correlator of two sources, each sample with
the terms under the arguments in force when it arrives.
-/
def arrivals
    [Exponential R]
    (operation : Operation)
    (sourceA sourceB : SourceId) :
    Axes R → List (Request R) → List (Arrival R)
  | _, [] => []
  | arguments, request :: rest =>
      ((request.sample? sourceA sourceB).map
        (⟨·, operation.terms arguments⟩)).toList ++
        arrivals operation sourceA sourceB (request.settle arguments) rest

/-- The arguments in force after the requests of a run. -/
def argumentsAfter
    (arguments : Axes R)
    (requests : List (Request R)) :
    Axes R :=
  requests.foldl Request.settle arguments

/-! ## What a request does to a correlator -/

namespace Correlator

/-- The correlator after it has taken in simultaneous samples. -/
def receive
    [Exponential R]
    (correlator : Correlator R)
    (sample : Sample R) :
    Correlator R :=
  { correlator with
    hierarchy := Hierarchy.ingest correlator.config.rules
      correlator.hierarchy sample
    count := correlator.count + 1
    sumA := Scalar.addEach correlator.sumA sample.a
    sumB := Scalar.addEach correlator.sumB sample.b }

/-- The correlator under other arguments of its operation. -/
def withArguments
    (correlator : Correlator R)
    (arguments : Axes R) :
    Correlator R :=
  { correlator with config := { correlator.config with arguments } }

/-- The lags that each level covers. -/
def lags (correlator : Correlator R) : List LagRange :=
  correlator.hierarchy.map (·.lags)

variable [Exponential R]

/--
An accepted pair has the lengths of the sources, and the run had not ended.
-/
theorem addPair_ok
    {correlator next : Correlator R}
    {a b : List R}
    (accepted : correlator.addPair a b = .ok next) :
    correlator.isFinalized = false ∧
    correlator.lengthA = a.length ∧
    correlator.lengthB = b.length ∧
    next = correlator.receive ⟨a, b⟩ := by
  rw [addPair] at accepted
  split at accepted
  next => cases accepted
  next running =>
    rcases bind_ok accepted with ⟨⟨⟩, fitsA, accepted⟩
    rcases bind_ok accepted with ⟨⟨⟩, fitsB, accepted⟩
    cases accepted
    exact ⟨by simpa using running, requireLength_ok fitsA,
      requireLength_ok fitsB, rfl⟩

theorem update_ok
    {correlator next : Correlator R}
    {readings : Readings R}
    (accepted : correlator.update readings = .ok next) :
    correlator.addPair (readings correlator.bindingA.source)
        (readings correlator.effectiveBindingB.source) =
      .ok next := by
  rw [update] at accepted
  split at accepted
  next => cases accepted
  next running =>
    rcases bind_ok accepted with ⟨a, deliveredA, accepted⟩
    rcases Binding.pull_ok deliveredA with ⟨rfl, _⟩
    cases second : correlator.bindingB with
    | none =>
        rw [second] at accepted
        rw [effectiveBindingB, second]
        exact accepted
    | some binding =>
        rw [second] at accepted
        rcases bind_ok accepted with ⟨b, deliveredB, accepted⟩
        rcases Binding.pull_ok deliveredB with ⟨rfl, _⟩
        rw [effectiveBindingB, second]
        exact accepted

omit [Exponential R] in
/--
Accepted arguments are sound for the operation and replace the former ones.
-/
theorem setArguments_ok
    {correlator next : Correlator R}
    {arguments : Axes R}
    (accepted : correlator.setArguments arguments = .ok next) :
    correlator.config.operation.checkArguments arguments = .ok () ∧
    next = correlator.withArguments arguments := by
  rw [setArguments] at accepted
  split at accepted
  next sound =>
    cases accepted
    exact ⟨sound, rfl⟩
  next => cases accepted

/-- Everything that a request which is carried out can do to a correlator. -/
inductive Step (correlator : Correlator R) :
    Request R → Correlator R → Prop where
  | receive {request : Request R} {sample : Sample R}
      (handed : request.sample? correlator.bindingA.source
        correlator.effectiveBindingB.source = some sample)
      (running : correlator.isFinalized = false)
      (fitsA : correlator.lengthA = sample.a.length)
      (fitsB : correlator.lengthB = sample.b.length) :
      Step correlator request (correlator.receive sample)
  | finalize : Step correlator .finalize correlator.finalize
  | setArguments {arguments : Axes R}
      (sound : correlator.config.operation.checkArguments arguments = .ok ()) :
      Step correlator (.setArguments arguments)
        (correlator.withArguments arguments)
  | reschedule {interval : Nat} :
      Step correlator (.reschedule interval) correlator

/-- A pair that is accepted makes a step of the correlator. -/
theorem step_of_addPair
    {correlator next : Correlator R}
    {request : Request R}
    {a b : List R}
    (handed :
      request.sample? correlator.bindingA.source
          correlator.effectiveBindingB.source =
        some ⟨a, b⟩)
    (accepted : correlator.addPair a b = .ok next) :
    Step correlator request next := by
  rcases addPair_ok accepted with ⟨running, fitsA, fitsB, rfl⟩
  exact .receive handed running fitsA fitsB

end Correlator

/-- A request that a correlator carries out is a step of the correlator. -/
theorem Accumulator.perform_correlator
    [Exponential R]
    {accumulator next : Accumulator R}
    {correlator : Correlator R}
    {request : Request R}
    (kind : accumulator.statistic = .correlator correlator)
    (performed : accumulator.perform request = .ok next) :
    ∃ after,
      next.statistic = .correlator after ∧ correlator.Step request after := by
  cases request with
  | add sample =>
      rcases map_ok (mapError_ok performed) with ⟨statistic, added, rfl⟩
      rw [kind] at added
      rcases map_ok added with ⟨after, accepted, rfl⟩
      exact ⟨after, rfl, Correlator.step_of_addPair rfl accepted⟩
  | addPair a b =>
      have known := Refusal.unlessKnown_ok performed
      simp only [Accumulator.addPair?, kind, Option.some.injEq] at known
      rcases map_ok known with ⟨after, accepted, rfl⟩
      exact ⟨after, rfl, Correlator.step_of_addPair rfl accepted⟩
  | update readings =>
      rcases map_ok (mapError_ok performed) with ⟨statistic, updated, rfl⟩
      rw [kind] at updated
      rcases map_ok updated with ⟨after, accepted, rfl⟩
      exact ⟨after, rfl,
        Correlator.step_of_addPair rfl (Correlator.update_ok accepted)⟩
  | finalize =>
      have known := Refusal.unlessKnown_ok performed
      simp only [Accumulator.finalize?, kind, Option.map_some,
        Option.some.injEq] at known
      cases known
      exact ⟨correlator.finalize, rfl, .finalize⟩
  | clear =>
      have known := Refusal.unlessKnown_ok performed
      simp only [Accumulator.clear?, kind] at known
      cases known
  | setArguments arguments =>
      have known := Refusal.unlessKnown_ok performed
      simp only [Accumulator.setArguments?, kind, Option.some.injEq] at known
      rcases map_ok known with ⟨after, accepted, rfl⟩
      rcases Correlator.setArguments_ok accepted with ⟨sound, rfl⟩
      exact ⟨_, rfl, .setArguments sound⟩
  | setInterval interval =>
      have changed := mapError_ok performed
      simp only [Accumulator.setInterval, kind] at changed
      cases changed
  | reschedule interval =>
      rcases map_ok (mapError_ok performed) with ⟨sampling, _, rfl⟩
      exact ⟨correlator, kind, .reschedule⟩

end RunningStatistics
