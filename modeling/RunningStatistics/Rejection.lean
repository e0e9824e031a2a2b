import RunningStatistics.Correlation.Operation
import RunningStatistics.Shape

/-!
# Rejections

Every request that cannot be carried out is rejected for one of the causes
listed here.  A cause carries what its wording needs, and `Rejection.message`
is the only place where the wording is fixed.
-/

namespace RunningStatistics

/-- What is wrong with the arguments of a correlation operation. -/
inductive ArgumentFault where
  | notFinite
  | notPositive
  deriving DecidableEq

/-- What is wrong with the parameters of a correlator. -/
inductive ParameterFault where
  | largestLag
  | timeStep
  | linearWidth
  /-- The largest lag spans more sampling intervals than a grid may have. -/
  | lagSpan
  | arguments (fault : ArgumentFault)
  deriving DecidableEq

/-- What is wrong with a configuration. -/
inductive ConfigurationFault where
  | zeroInterval
  | emptyObservable (shape : Shape)
  | parameters (fault : ParameterFault)
  | arguments (fault : ArgumentFault)
  | unknownOperation (name : String)
  | unknownCompression (name : String)
  /-- The interval of a correlator cannot change. -/
  | fixedInterval
  deriving DecidableEq

/-- Why a request is rejected. -/
inductive Rejection where
  | configuration (fault : ConfigurationFault)
  | incompatibleObservables (operation : Operation) (lengthA lengthB : Nat)
  | shapeMismatch (expected found : Nat)
  | insufficientSamples (required available : Nat)
  | alreadyRegistered
  | notRegistered
  | finalized
  /-- The accumulator is held by someone else and cannot be updated. -/
  | inUse
  deriving DecidableEq

namespace ArgumentFault

/-- The wording of a fault in the arguments. -/
def message : ArgumentFault → String
  | notFinite => "args must be finite"
  | notPositive => "fcs_acf args (squared beam waists) must be positive"

end ArgumentFault

namespace ParameterFault

/-- The wording of a fault in the parameters. -/
def message : ParameterFault → String
  | largestLag => "tau_max must be a positive finite number"
  | timeStep => "time_step must be a positive finite number"
  | linearWidth =>
      "tau_lin must be an even number >= 2, or 1 to derive it from tau_max"
  | lagSpan => "tau_max spans too many sampling intervals"
  | arguments fault => fault.message

end ParameterFault

namespace ConfigurationFault

/--
The wording of a fault in a configuration.

A check of all parameters together reports its text between a heading and an
empty list of fields.
-/
def message : ConfigurationFault → String
  | zeroInterval => "delta_N must be a positive number of steps"
  | emptyObservable shape =>
      "observable shape " ++ shape.text ++ " produces no values"
  | parameters fault =>
      "__all__: Validation error: " ++ fault.message ++ " [\x7b\x7d]"
  | arguments fault => fault.message
  | unknownOperation name =>
      "unknown correlation operation '" ++ name ++
        "', expected 'scalar_product', " ++
        "'componentwise_product', 'square_distance_componentwise', " ++
        "'tensor_product', or 'fcs_acf'"
  | unknownCompression name =>
      "unknown compression '" ++ name ++
        "', expected 'discard2', 'discard1', or 'linear'"
  | fixedInterval =>
      "the sampling interval of a correlator is fixed at construction"

end ConfigurationFault

namespace Rejection

/-- The wording of a rejection. -/
def message : Rejection → String
  | configuration fault => "invalid configuration: " ++ fault.message
  | incompatibleObservables operation lengthA lengthB =>
      "operation '" ++ operation.name ++
        "' cannot combine observables of length " ++ lengthA.repr ++ " and " ++
        lengthB.repr
  | shapeMismatch expected found =>
      "shape mismatch: expected " ++ expected.repr ++ " values, found " ++
        found.repr
  | insufficientSamples required available =>
      "insufficient samples: need at least " ++ required.repr ++ ", have " ++
        available.repr
  | alreadyRegistered => "accumulator is already registered"
  | notRegistered => "accumulator is not registered"
  | finalized => "no data can be added after finalize() was called"
  | inUse => "accumulator is borrowed elsewhere"

end Rejection

/-- Accept a list of the expected length only. -/
def requireLength (expected found : Nat) : Except Rejection Unit :=
  if expected = found then .ok () else .error (.shapeMismatch expected found)

@[simp]
theorem requireLength_self (length : Nat) :
    requireLength length length = .ok () := by
  simp [requireLength]

theorem requireLength_of_ne
    {expected found : Nat}
    (different : expected ≠ found) :
    requireLength expected found = .error (.shapeMismatch expected found) := by
  rw [requireLength, if_neg different]

/-- Lengths are accepted only if they agree. -/
theorem requireLength_ok
    {expected found : Nat}
    (accepted : requireLength expected found = .ok ()) :
    expected = found := by
  by_cases equal : expected = found
  · exact equal
  · rw [requireLength_of_ne equal] at accepted
    cases accepted

end RunningStatistics
