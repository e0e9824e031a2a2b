import RunningStatistics.Observable

/-!
# Recorded series

A series keeps every sample of an observable, in the order of arrival, until
it is cleared.
-/

namespace RunningStatistics

/-- The recorded samples of an observable. -/
structure Series (R : Type) where
  binding : Binding
  /-- The samples since the start or the last clearing, oldest first. -/
  samples : Array (List R)
  deriving DecidableEq

namespace Series

variable {R : Type}

/-- Nothing recorded yet. -/
def start (binding : Binding) : Series R :=
  ⟨binding, #[]⟩

/-- Record one sample. -/
def add (series : Series R) (sample : List R) : Except Rejection (Series R) :=
  (requireLength series.binding.length sample.length).map fun _ =>
    { series with samples := series.samples.push sample }

/-- Forget all samples and keep the tie to the source. -/
def clear (series : Series R) : Series R :=
  { series with samples := #[] }

/-- The number of recorded samples. -/
def length (series : Series R) : Nat :=
  series.samples.size

/-- Whether nothing is recorded. -/
def isEmpty (series : Series R) : Bool :=
  series.samples.isEmpty

/-- The record as a table with one row for each sample. -/
def table (series : Series R) : Tensor R :=
  ⟨[series.length, series.binding.length], series.samples.toList.flatten⟩

/-- The shape of the record: the number of samples, then the shape of each. -/
def shape (series : Series R) : Shape :=
  series.length :: series.binding.shape

/-- An accepted sample fills the declared shape and comes last. -/
theorem add_ok
    {series next : Series R}
    {sample : List R}
    (accepted : series.add sample = .ok next) :
    sample.length = series.binding.length ∧
    next.binding = series.binding ∧
    next.samples = series.samples.push sample := by
  unfold add at accepted
  by_cases equal : series.binding.length = sample.length
  · rw [← equal, requireLength_self] at accepted
    cases accepted
    exact ⟨equal.symm, rfl, rfl⟩
  · rw [requireLength_of_ne equal] at accepted
    cases accepted

end Series

end RunningStatistics
