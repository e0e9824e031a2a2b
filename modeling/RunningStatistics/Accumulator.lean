import RunningStatistics.Correlation.Correlator
import RunningStatistics.Moments
import RunningStatistics.Sampling
import RunningStatistics.Series

/-!
# Accumulators

An accumulator is a statistic together with the interval at which it is
sampled and the number of samples it has accepted.  Only accepted samples are
counted; a rejected one changes nothing.
-/

namespace RunningStatistics

/-- What an accumulator computes. -/
inductive Statistic (R : Type) where
  | moments (moments : Moments R)
  | series (series : Series R)
  | correlator (correlator : Correlator R)
  deriving DecidableEq

/-- A statistic that is sampled at an interval. -/
structure Accumulator (R : Type) where
  sampling : Sampling
  statistic : Statistic R
  deriving DecidableEq

variable {R : Type} [Scalar R]

namespace Statistic

/-- Take in one sample. -/
def add
    [Exponential R]
    (statistic : Statistic R)
    (sample : List R) :
    Except Rejection (Statistic R) :=
  match statistic with
  | moments statistic => (statistic.add sample).map moments
  | series statistic => (statistic.add sample).map series
  | correlator statistic => (statistic.add sample).map correlator

/-- Take in what the sources deliver now. -/
def update
    [Exponential R]
    (statistic : Statistic R)
    (readings : Readings R) :
    Except Rejection (Statistic R) :=
  match statistic with
  | moments statistic => do
      let sample ← statistic.binding.pull readings
      (statistic.add sample).map moments
  | series statistic => do
      let sample ← statistic.binding.pull readings
      (statistic.add sample).map series
  | correlator statistic => (statistic.update readings).map correlator

/-- The shape of the result. -/
def shape (statistic : Statistic R) : Shape :=
  match statistic with
  | moments statistic => statistic.binding.shape
  | series statistic => statistic.shape
  | correlator statistic => statistic.shape

end Statistic

namespace Accumulator

/-! ## Construction -/

/-- A statistic of one source, which starts with the tie to it. -/
def ofSource
    (fresh : Binding → Statistic R)
    (source : Source)
    (interval : Nat) :
    Except Rejection (Accumulator R) := do
  let sampling ← Sampling.every interval
  let binding ← source.bind
  return ⟨sampling, fresh binding⟩

/-- Running moments of a source. -/
def moments
    (source : Source)
    (interval : Nat) :
    Except Rejection (Accumulator R) :=
  ofSource (fun binding => .moments (.start binding)) source interval

/-- The record of a source. -/
def series
    (source : Source)
    (interval : Nat) :
    Except Rejection (Accumulator R) :=
  ofSource (fun binding => .series (.start binding)) source interval

/-- The correlator of a source with another one, or with itself. -/
def correlator
    (sourceA : Source)
    (sourceB : Option Source)
    (config : Config R)
    (interval : Nat) :
    Except Rejection (Accumulator R) := do
  let sampling ← Sampling.every interval
  config.validate
  let bindingA ← sourceA.bind
  let bindingB ← match sourceB with
    | some source => source.bind.map some
    | none => .ok none
  let correlator ← Correlator.create config bindingA bindingB interval
  return ⟨sampling, .correlator correlator⟩

/-! ## Samples -/

/-- The accumulator after its statistic has accepted a sample. -/
def accept
    (accumulator : Accumulator R)
    (statistic : Statistic R) :
    Accumulator R :=
  ⟨accumulator.sampling.recordUpdate, statistic⟩

/-- Take in one sample. -/
def add
    [Exponential R]
    (accumulator : Accumulator R)
    (sample : List R) :
    Except Rejection (Accumulator R) :=
  (accumulator.statistic.add sample).map accumulator.accept

/--
Take in simultaneous samples of A and B; only a correlator has two streams.
-/
def addPair?
    [Exponential R]
    (accumulator : Accumulator R)
    (a b : List R) :
    Option (Except Rejection (Accumulator R)) :=
  match accumulator.statistic with
  | .correlator statistic =>
      some ((statistic.addPair a b).map fun next =>
          accumulator.accept (.correlator next))
  | _ => none

/-- Take in what the sources deliver now. -/
def update
    [Exponential R]
    (accumulator : Accumulator R)
    (readings : Readings R) :
    Except Rejection (Accumulator R) :=
  (accumulator.statistic.update readings).map accumulator.accept

/-! ## Settings -/

/-- End the run of a correlator. -/
def finalize?
    [Exponential R]
    (accumulator : Accumulator R) :
    Option (Accumulator R) :=
  match accumulator.statistic with
  | .correlator statistic =>
      some { accumulator with statistic := .correlator statistic.finalize }
  | _ => none

/-- Forget the samples of a series. -/
def clear? (accumulator : Accumulator R) : Option (Accumulator R) :=
  match accumulator.statistic with
  | .series statistic =>
      some { accumulator with statistic := .series statistic.clear }
  | _ => none

/-- Replace the arguments of a correlation operation. -/
def setArguments?
    (accumulator : Accumulator R)
    (arguments : Axes R) :
    Option (Except Rejection (Accumulator R)) :=
  match accumulator.statistic with
  | .correlator statistic =>
      some ((statistic.setArguments arguments).map fun next =>
        { accumulator with statistic := .correlator next })
  | _ => none

/-- Change when samples are due, and nothing else. -/
def reschedule
    (accumulator : Accumulator R)
    (interval : Nat) :
    Except Rejection (Accumulator R) :=
  (accumulator.sampling.setInterval interval).map fun sampling =>
    { accumulator with sampling }

/-- Change the interval, unless the lags of a correlator depend on it. -/
def setInterval
    (accumulator : Accumulator R)
    (interval : Nat) :
    Except Rejection (Accumulator R) :=
  match accumulator.statistic with
  | .correlator _ => .error (.configuration .fixedInterval)
  | _ => accumulator.reschedule interval

/-- The shape of the result. -/
def shape (accumulator : Accumulator R) : Shape :=
  accumulator.statistic.shape

/-- The number of samples accepted. -/
def updates (accumulator : Accumulator R) : Nat :=
  accumulator.sampling.updates

end Accumulator

end RunningStatistics
