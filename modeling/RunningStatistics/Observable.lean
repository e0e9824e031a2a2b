import RunningStatistics.Rejection
import RunningStatistics.Scalar

/-!
# Observables

An observable delivers the current values of a quantity of the simulation.  A
cell stores them and accepts only as many values as its shape has places; a
computed observable declares a shape and delivers whatever its rule yields.

Accumulators do not hold observables but name them by a `SourceId`, so that
several accumulators may read the same one.
-/

namespace RunningStatistics

/-- A stored observable, whose values always fill its shape. -/
structure Cell (R : Type) where
  shape : Shape
  values : List R
  filled : values.length = shape.size
  deriving DecidableEq

namespace Cell

variable {R : Type}

/-- A cell of zeros. -/
def blank [Scalar R] (shape : Shape) : Cell R :=
  ⟨shape, Scalar.zeros shape.size, Scalar.length_zeros _⟩

/-- A cell that starts with given values. -/
def ofValues (shape : Shape) (values : List R) : Except Rejection (Cell R) :=
  if filled : values.length = shape.size then
    .ok ⟨shape, values, filled⟩
  else
    .error (.shapeMismatch shape.size values.length)

/-- Overwrite the values of a cell. -/
def set (cell : Cell R) (values : List R) : Except Rejection (Cell R) :=
  if same : values.length = cell.values.length then
    .ok ⟨cell.shape, values, same.trans cell.filled⟩
  else
    .error (.shapeMismatch cell.values.length values.length)

/-- Writing keeps the shape of a cell. -/
theorem set_ok
    {cell updated : Cell R}
    {values : List R}
    (accepted : cell.set values = .ok updated) :
    updated.shape = cell.shape ∧ updated.values = values := by
  rw [set] at accepted
  split at accepted
  · cases accepted
    exact ⟨rfl, rfl⟩
  · cases accepted

end Cell

/-- A source of values for accumulators. -/
inductive Observable (R : Type) where
  | stored (cell : Cell R)
  /--
  The values are computed; their number is not tied to the declared shape.
  -/
  | computed (shape : Shape) (values : List R)
  deriving DecidableEq

namespace Observable

variable {R : Type}

/-- The declared shape. -/
def shape : Observable R → Shape
  | stored cell => cell.shape
  | computed shape _ => shape

/-- The values delivered now. -/
def sample : Observable R → List R
  | stored cell => cell.values
  | computed _ values => values

/-- The number of values that the declared shape promises. -/
def declaredLength (observable : Observable R) : Nat :=
  observable.shape.size

/--
Overwrite a cell, or let a computed observable deliver other values from now on.
-/
def set
    (observable : Observable R)
    (values : List R) :
    Except Rejection (Observable R) :=
  match observable with
  | stored cell => (cell.set values).map stored
  | computed shape _ => .ok (computed shape values)

/--
A one-line description of a computed observable: its shape, and that there is
more to it.
-/
def describe (observable : Observable R) : String :=
  "ObservableFn \x7b shape: " ++ observable.shape.text ++ ", .. \x7d"

theorem length_sample_stored (cell : Cell R) :
    (stored cell).sample.length = (stored cell).declaredLength :=
  cell.filled

end Observable

/-- The name under which an observable is read. -/
structure SourceId where
  index : Nat
  deriving DecidableEq

/-- What every source delivers at one moment. -/
abbrev Readings (R : Type) :=
  SourceId → List R

/--
A source as seen by who wants to read it: its name and the shape it declares.
-/
structure Source where
  id : SourceId
  shape : Shape
  deriving DecidableEq

/-- The tie of an accumulator to a source that delivers at least one value. -/
structure Binding where
  source : SourceId
  shape : Shape
  nonempty : 0 < shape.size
  deriving DecidableEq

/-- Tie an accumulator to a source, which must deliver at least one value. -/
def Source.bind (source : Source) : Except Rejection Binding :=
  if nonempty : 0 < source.shape.size then
    .ok ⟨source.id, source.shape, nonempty⟩
  else
    .error (.configuration (.emptyObservable source.shape))

namespace Binding

/-- The number of values in a sample. -/
def length (binding : Binding) : Nat :=
  binding.shape.size

/-- The values that the source delivers now, if they are as many as declared. -/
def pull
    {R : Type}
    (binding : Binding)
    (readings : Readings R) :
    Except Rejection (List R) :=
  let values := readings binding.source
  (requireLength binding.length values.length).map fun _ => values

theorem length_pos (binding : Binding) : 0 < binding.length :=
  binding.nonempty

/-- What a source delivered has the declared length. -/
theorem pull_ok
    {R : Type}
    {binding : Binding}
    {readings : Readings R}
    {values : List R}
    (delivered : binding.pull readings = .ok values) :
    values = readings binding.source ∧ values.length = binding.length := by
  simp only [pull] at delivered
  by_cases equal : binding.length = (readings binding.source).length
  · rw [← equal, requireLength_self] at delivered
    cases delivered
    exact ⟨rfl, equal.symm⟩
  · rw [requireLength_of_ne equal] at delivered
    cases delivered

end Binding

end RunningStatistics
