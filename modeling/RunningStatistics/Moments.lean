import RunningStatistics.Observable

/-!
# Running moments

The mean and the variance of every component of an observable, from a single
pass over the samples.  A new value moves the mean by its share of the
deviation, and the sum of squares grows by the product of the deviations from
the mean before and after the move.
-/

namespace RunningStatistics

/-- The running mean of one component and the squares around it. -/
structure Moment (R : Type) where
  mean : R
  /-- The sum of the squared deviations from the mean. -/
  squares : R
  deriving DecidableEq

namespace Moment

variable {R : Type} [Scalar R]

/-- No values yet. -/
def empty : Moment R :=
  ⟨Scalar.zero, Scalar.zero⟩

/-- The moment after one more value, which is the value of the given number. -/
def add (number : Nat) (moment : Moment R) (value : R) : Moment R :=
  let before := value - moment.mean
  let mean := moment.mean + before / Scalar.ofNat number
  let after := value - mean
  ⟨mean, moment.squares + before * after⟩

end Moment

/-- The running moments of all components of an observable. -/
structure Moments (R : Type) where
  binding : Binding
  count : Nat
  components : List (Moment R)
  deriving DecidableEq

namespace Moments

variable {R : Type} [Scalar R]

/-- No samples yet. -/
def start (binding : Binding) : Moments R :=
  ⟨binding, 0, List.replicate binding.length Moment.empty⟩

/-- Take in one sample. -/
def add
    (moments : Moments R)
    (sample : List R) :
    Except Rejection (Moments R) :=
  (requireLength moments.components.length sample.length).map fun _ =>
    let count := moments.count + 1
    { moments with
      count
      components := List.zipWith (Moment.add count) moments.components sample }

/-- The mean of every component; zero before the first sample. -/
def mean (moments : Moments R) : Tensor R :=
  ⟨moments.binding.shape, moments.components.map (·.mean)⟩

/--
The sample variances, which need two samples: the squares over one less than the
count.
-/
def variances (moments : Moments R) : Except Rejection (List R) :=
  if 2 ≤ moments.count then
    .ok (Scalar.divideEach (moments.components.map (·.squares))
        (moments.count - 1))
  else
    .error (.insufficientSamples 2 moments.count)

/-- The sample variance of every component. -/
def variance (moments : Moments R) : Except Rejection (Tensor R) :=
  moments.variances.map fun variances => ⟨moments.binding.shape, variances⟩

/-- The standard error of every mean, for samples that are not correlated. -/
def standardError
    [SquareRoot R]
    (moments : Moments R) :
    Except Rejection (Tensor R) :=
  moments.variances.map fun variances =>
    ⟨moments.binding.shape,
      (Scalar.divideEach variances moments.count).map SquareRoot.sqrt⟩

theorem length_components_start (binding : Binding) :
    (start binding : Moments R).components.length = binding.length := by
  simp [start]

/-- An accepted sample has a value for each component and is counted once. -/
theorem add_ok
    {moments next : Moments R}
    {sample : List R}
    (accepted : moments.add sample = .ok next) :
    sample.length = moments.components.length ∧
    next.binding = moments.binding ∧
    next.count = moments.count + 1 ∧
    next.components =
      List.zipWith (Moment.add (moments.count + 1))
        moments.components sample := by
  rw [add] at accepted
  by_cases equal : moments.components.length = sample.length
  · rw [← equal, requireLength_self] at accepted
    cases accepted
    exact ⟨equal.symm, rfl, rfl, rfl⟩
  · rw [requireLength_of_ne equal] at accepted
    cases accepted

theorem length_components_add
    {moments next : Moments R}
    {sample : List R}
    (accepted : moments.add sample = .ok next) :
    next.components.length = moments.components.length := by
  rcases add_ok accepted with ⟨same, _, _, components⟩
  rw [components, List.length_zipWith, same, Nat.min_self]

end Moments

end RunningStatistics
