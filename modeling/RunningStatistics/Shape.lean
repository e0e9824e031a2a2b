/-!
# Shapes and tensors

Observables and results are arrays of any number of dimensions.  A shape lists
the sizes of the dimensions; the values lie in one list, the last dimension
varying fastest.
-/

namespace RunningStatistics

/-- The sizes of the dimensions of an array, outermost first. -/
abbrev Shape :=
  List Nat

namespace Shape

/-- The number of values in an array of a shape; one for the empty shape. -/
def size : Shape → Nat
  | [] => 1
  | dimension :: rest => dimension * size rest

/-- A scalar has one entry. -/
@[simp]
theorem size_nil : size [] = 1 :=
  rfl

@[simp]
theorem size_cons
    (dimension : Nat)
    (rest : Shape) :
    size (dimension :: rest) = dimension * size rest :=
  rfl

/-- Decimal sizes in square brackets, a comma and a blank between two. -/
def text (shape : Shape) : String :=
  "[" ++ ", ".intercalate (shape.map Nat.repr) ++ "]"

end Shape

/-- An array of scalars: a shape and the values in row-major order. -/
structure Tensor (R : Type) where
  shape : Shape
  /-- The values, the last dimension varying fastest. -/
  values : List R
  deriving DecidableEq

namespace Tensor

variable {R : Type}

/-- A tensor holds as many values as its shape has places. -/
def Filled (tensor : Tensor R) : Prop :=
  tensor.values.length = tensor.shape.size

/-- The values of one entry of the outermost dimension. -/
def row (tensor : Tensor R) (index : Nat) : List R :=
  let width := Shape.size tensor.shape.tail
  (tensor.values.drop (index * width)).take width

end Tensor

end RunningStatistics
