import RunningStatistics.Correlation.Compression
import RunningStatistics.Rejection
import RunningStatistics.Scalar

/-!
# Parameters of a correlator

A configuration says how far the lags reach, how finely they are resolved, how
two values are combined and how the streams are compressed.  It is checked
once, before a correlator is built; the causes are tested in a fixed order and
the first one found is reported.

A linear width of one asks for a width derived from the largest lag, wide
enough for all lags to be resolved without compression.
-/

namespace RunningStatistics

/-- One value for each of three axes. -/
structure Axes (R : Type) where
  x : R
  y : R
  z : R
  deriving DecidableEq

namespace Axes

variable {R : Type}

/-- The three values in order. -/
def toList (axes : Axes R) : List R :=
  [axes.x, axes.y, axes.z]

end Axes

/-- The parameters of a correlator. -/
structure Config (R : Type) where
  /-- The largest lag, in simulation time. -/
  largestLag : R
  timeStep : R
  /--
  The number of lags that the finest level resolves: even, or one to derive it.
  -/
  linearWidth : Nat
  operation : Operation
  compressionA : Compression
  /-- How the stream B is compressed, if not in the same way as A. -/
  compressionB : Option Compression
  /-- The arguments of the operation: squared beam waists. -/
  arguments : Axes R
  deriving DecidableEq

/-- The rule by which the stream B is compressed. -/
def Config.effectiveCompressionB {R : Type} (config : Config R) : Compression :=
  config.compressionB.getD config.compressionA

/-- The largest number of sampling intervals that a grid of lags may span. -/
def spanLimit : Nat :=
  1 <<< 52

variable {R : Type} [Scalar R]

namespace Scalar

/-- Whether a scalar is a positive number. -/
def isPositive (x : R) : Bool :=
  isFinite x && decide (zero < x)

end Scalar

namespace Operation

/--
Find fault with the arguments of an operation: all must be finite, beam waists
positive.
-/
def checkArguments
    (operation : Operation)
    (arguments : Axes R) :
    Except ArgumentFault Unit :=
  if arguments.toList.any fun argument => !Scalar.isFinite argument then
    .error .notFinite
  else if operation = .fluorescence ∧
      arguments.toList.any
        (fun argument => decide (argument ≤ Scalar.zero)) then
    .error .notPositive
  else
    .ok ()

end Operation

namespace Config

/-- The parameters that hold unless others are chosen. -/
def standard (largestLag timeStep : R) : Config R where
  largestLag
  timeStep
  linearWidth := 16
  operation := .scalarProduct
  compressionA := .standard
  compressionB := none
  arguments := ⟨Scalar.zero, Scalar.zero, Scalar.zero⟩

/-- Whether a linear width is one or a positive even number. -/
def isWidth (width : Nat) : Bool :=
  width == 1 || (2 ≤ width && width % 2 == 0)

/-- Find the first fault of the parameters. -/
def check (config : Config R) : Except ParameterFault Unit :=
  if !Scalar.isPositive config.largestLag then
    .error .largestLag
  else if !Scalar.isPositive config.timeStep then
    .error .timeStep
  else if !isWidth config.linearWidth then
    .error .linearWidth
  else if Scalar.ofNat spanLimit < config.largestLag / config.timeStep then
    .error .lagSpan
  else
    (config.operation.checkArguments config.arguments).mapError .arguments

/-- Accept sound parameters only. -/
def validate (config : Config R) : Except Rejection Unit :=
  config.check.mapError fun fault => .configuration (.parameters fault)

end Config

/--
Parameters as a script states them: some left out, operation and rules by name.
-/
structure ConfigRequest (R : Type) where
  largestLag : R
  timeStep : R
  linearWidth : Option Nat
  operation : Option String
  compressionA : Option String
  compressionB : Option String
  arguments : Option (Axes R)

namespace Operation

/-- The operation of a name. -/
def parse (name : String) : Except Rejection Operation :=
  match ofName? name with
  | some operation => .ok operation
  | none => .error (.configuration (.unknownOperation name))

end Operation

namespace Compression

/-- The rule of a name. -/
def parse (name : String) : Except Rejection Compression :=
  match ofName? name with
  | some rule => .ok rule
  | none => .error (.configuration (.unknownCompression name))

end Compression

namespace ConfigRequest

/--
The configuration that a request describes.

Names are looked up in the order operation, rule for A, rule for B; the values
are not checked here.
-/
def build (request : ConfigRequest R) : Except Rejection (Config R) := do
  let standard := Config.standard request.largestLag request.timeStep
  let operation ← match request.operation with
    | some name => Operation.parse name
    | none => .ok standard.operation
  let compressionA ← match request.compressionA with
    | some name => Compression.parse name
    | none => .ok standard.compressionA
  let compressionB ← match request.compressionB with
    | some name => (Compression.parse name).map some
    | none => .ok standard.compressionB
  return { standard with
    linearWidth := request.linearWidth.getD standard.linearWidth
    operation
    compressionA
    compressionB
    arguments := request.arguments.getD standard.arguments }

end ConfigRequest

end RunningStatistics
