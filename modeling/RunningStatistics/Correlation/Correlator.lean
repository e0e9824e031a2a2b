import RunningStatistics.Correlation.Hierarchy
import RunningStatistics.Correlation.Terms
import RunningStatistics.Observable

/-!
# Multiple-tau correlators

A correlator accumulates, for a grid of lags that spans many decades, how a
value of the observable A is related to a later value of the observable B.  Its
memory grows with the logarithm of the largest lag, because coarser levels see
the streams at a coarser resolution.

A correlator without a second observable correlates A with itself.  Once it is
finalized it takes no more samples.
-/

namespace RunningStatistics

/-- A correlator of two streams of samples. -/
structure Correlator (R : Type) where
  /-- The parameters, with the linear width resolved. -/
  config : Config R
  samplingTime : R
  bindingA : Binding
  /-- Where the samples of B come from, if not from A. -/
  bindingB : Option Binding
  valueShape : Shape
  hierarchy : Hierarchy R
  count : Nat
  sumA : List R
  sumB : List R
  isFinalized : Bool
  deriving DecidableEq

variable {R : Type} [Scalar R]

namespace Config

/-- How samples are combined and reduced under a configuration. -/
def rules [Exponential R] (config : Config R) : Rules R where
  terms := config.operation.terms config.arguments
  reduce older newer :=
    ⟨config.compressionA.combine older.a newer.a,
      config.effectiveCompressionB.combine older.b newer.b⟩

/-- The time between two samples that are the given number of steps apart. -/
def samplingTime (config : Config R) (interval : Nat) : R :=
  config.timeStep * Scalar.ofNat interval

/-- The largest lag counted in sampling intervals. -/
def span (config : Config R) (interval : Nat) : R :=
  config.largestLag / config.samplingTime interval

/--
The configuration with a linear width of one replaced by the width that it
stands for.
-/
def resolve (config : Config R) (interval : Nat) : Config R :=
  if config.linearWidth = 1 then
    { config with linearWidth := LagGrid.wholeWidth (config.span interval) }
  else
    config

/-- Deriving a width changes no time. -/
@[simp]
theorem samplingTime_resolve
    (config : Config R)
    (interval : Nat) :
    (config.resolve interval).samplingTime interval =
      config.samplingTime interval := by
  unfold resolve
  split <;> rfl

@[simp]
theorem span_resolve
    (config : Config R)
    (interval : Nat) :
    (config.resolve interval).span interval = config.span interval := by
  rw [resolve]
  split <;> rfl

theorem operation_resolve
    (config : Config R)
    (interval : Nat) :
    (config.resolve interval).operation = config.operation := by
  rw [resolve]
  split <;> rfl

theorem arguments_resolve
    (config : Config R)
    (interval : Nat) :
    (config.resolve interval).arguments = config.arguments := by
  rw [resolve]
  split <;> rfl

theorem rules_resolve
    [Exponential R]
    (config : Config R)
    (interval : Nat) :
    (config.resolve interval).rules = config.rules := by
  rw [resolve]
  split <;> rfl

end Config

namespace Correlator

/-! ## Construction -/

/--
A correlator with no samples for sound parameters and an operation that fits the
lengths.
-/
def create
    (config : Config R)
    (bindingA : Binding)
    (bindingB : Option Binding)
    (interval : Nat) :
    Except Rejection (Correlator R) :=
  let lengthA := bindingA.length
  let lengthB := (bindingB.getD bindingA).length
  (config.operation.valueShape lengthA lengthB).map fun valueShape =>
    let config := config.resolve interval
    let grid := LagGrid.build config.linearWidth (config.span interval)
    { config
      samplingTime := config.samplingTime interval
      bindingA
      bindingB
      valueShape
      hierarchy := Hierarchy.empty config.linearWidth valueShape.size grid
      count := 0
      sumA := Scalar.zeros lengthA
      sumB := Scalar.zeros lengthB
      isFinalized := false }

/-- The number of values in a sample of A. -/
def lengthA (correlator : Correlator R) : Nat :=
  correlator.bindingA.length

/--
The tie to the source of B, which is that of A unless another one was chosen.
-/
def effectiveBindingB (correlator : Correlator R) : Binding :=
  correlator.bindingB.getD correlator.bindingA

/-- The number of values in a sample of B. -/
def lengthB (correlator : Correlator R) : Nat :=
  correlator.effectiveBindingB.length

/-! ## Samples -/

/-- Take in simultaneous samples of A and B. -/
def addPair
    [Exponential R]
    (correlator : Correlator R)
    (a b : List R) :
    Except Rejection (Correlator R) :=
  if correlator.isFinalized then
    .error .finalized
  else do
    requireLength correlator.lengthA a.length
    requireLength correlator.lengthB b.length
    return { correlator with
      hierarchy := Hierarchy.ingest correlator.config.rules
        correlator.hierarchy ⟨a, b⟩
      count := correlator.count + 1
      sumA := Scalar.addEach correlator.sumA a
      sumB := Scalar.addEach correlator.sumB b }

/-- Take in a sample of A that is correlated with itself. -/
def add
    [Exponential R]
    (correlator : Correlator R)
    (a : List R) :
    Except Rejection (Correlator R) :=
  correlator.addPair a a

/-- Take in what the sources deliver now. -/
def update
    [Exponential R]
    (correlator : Correlator R)
    (readings : Readings R) :
    Except Rejection (Correlator R) :=
  if correlator.isFinalized then
    .error .finalized
  else do
    let a ← correlator.bindingA.pull readings
    let b ← match correlator.bindingB with
      | some binding => binding.pull readings
      | none => .ok a
    correlator.addPair a b

/--
End the run: flush what waits for a partner; a second time changes nothing.
-/
def finalize [Exponential R] (correlator : Correlator R) : Correlator R :=
  if correlator.isFinalized then
    correlator
  else
    { correlator with
      hierarchy := Hierarchy.flush correlator.config.rules none
        correlator.hierarchy
      isFinalized := true }

/-- Replace the arguments of the operation. -/
def setArguments
    (correlator : Correlator R)
    (arguments : Axes R) :
    Except Rejection (Correlator R) :=
  match correlator.config.operation.checkArguments arguments with
  | .ok () =>
      .ok { correlator with config := { correlator.config with arguments } }
  | .error fault => .error (.configuration (.arguments fault))

/-! ## Results -/

/-- The rows of all lags. -/
def rows (correlator : Correlator R) : List (Row R) :=
  Hierarchy.rows correlator.hierarchy

/-- The lag of every row, in sampling intervals. -/
def lagSteps (correlator : Correlator R) : List Nat :=
  Hierarchy.lagSteps correlator.hierarchy

/-- The lag of every row, in simulation time. -/
def lagTimes (correlator : Correlator R) : List R :=
  correlator.lagSteps.map fun steps =>
    Scalar.ofNat steps * correlator.samplingTime

/-- The number of lags. -/
def lagCount (correlator : Correlator R) : Nat :=
  correlator.lagSteps.length

/-- The number of pairs that contributed to every lag. -/
def sampleSizes (correlator : Correlator R) : List Nat :=
  correlator.rows.map (·.count)

/-- The shape of the result: the number of lags, then the shape of one value. -/
def shape (correlator : Correlator R) : Shape :=
  correlator.lagCount :: correlator.valueShape

/-- The mean of the terms at every lag, undefined where no pair contributed. -/
def result (correlator : Correlator R) : Tensor R :=
  ⟨correlator.shape, correlator.rows.flatMap Row.mean⟩

/-- The number of levels. -/
def depth (correlator : Correlator R) : Nat :=
  correlator.hierarchy.length

/-- The number of levels that have received a sample. -/
def activeLevels (correlator : Correlator R) : Nat :=
  Hierarchy.activeLevels correlator.hierarchy

/--
The mean of a stream from the sum of its samples; zero before the first one.
-/
def streamMean (correlator : Correlator R) (sums : List R) : List R :=
  if correlator.count = 0 then
    Scalar.zeros sums.length
  else
    Scalar.divideEach sums correlator.count

/-- The mean of the samples of A. -/
def meanA (correlator : Correlator R) : Tensor R :=
  ⟨correlator.bindingA.shape, correlator.streamMean correlator.sumA⟩

/-- The mean of the samples of B. -/
def meanB (correlator : Correlator R) : Tensor R :=
  ⟨correlator.effectiveBindingB.shape, correlator.streamMean correlator.sumB⟩

/-! ## What an operation leaves alone -/

theorem finalize_of_isFinalized
    [Exponential R]
    {correlator : Correlator R}
    (ended : correlator.isFinalized = true) :
    correlator.finalize = correlator := by
  simp [finalize, ended]

theorem isFinalized_finalize
    [Exponential R]
    (correlator : Correlator R) :
    correlator.finalize.isFinalized = true := by
  rw [finalize]
  split <;> simp_all

/-- Nothing is taken in after the end of a run. -/
theorem addPair_of_isFinalized
    [Exponential R]
    {correlator : Correlator R}
    (ended : correlator.isFinalized = true)
    (a b : List R) :
    correlator.addPair a b = .error .finalized := by
  simp [addPair, ended]

end Correlator

end RunningStatistics
