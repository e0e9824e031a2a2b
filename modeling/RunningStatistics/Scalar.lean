/-!
# Scalar arithmetic

Every statistic of this library is written over a type of scalars of which
only the operations are known, not their laws.  The same definitions then run
in binary64 and can be read over exact rational numbers, and a statement that
uses no law holds for rounded arithmetic too.

`Scalar` holds the field operations, the order and the passage between scalars
and natural numbers.  `Exponential` and `SquareRoot` are kept apart, because a
rational number need not have either.
-/

namespace RunningStatistics

/-- The arithmetic in which samples, sums and lag times are computed. -/
class Scalar (R : Type) extends
    Add R, Sub R, Mul R, Div R, Neg R, LT R, LE R where
  /-- The scalar nearest to a natural number. -/
  ofNat : Nat → R
  /-- Whether a scalar denotes a number, neither infinite nor undefined. -/
  isFinite : R → Bool
  /-- The least natural number that is not below a scalar. -/
  ceilNat : R → Nat
  /-- What is reported where no value exists, such as a mean of no values. -/
  undefined : R
  decideLT : ∀ left right : R, Decidable (left < right)
  decideLE : ∀ left right : R, Decidable (left ≤ right)

instance Scalar.instDecidableLT
    {R : Type}
    [Scalar R]
    (left right : R) :
    Decidable (left < right) :=
  Scalar.decideLT left right

instance Scalar.instDecidableLE
    {R : Type}
    [Scalar R]
    (left right : R) :
    Decidable (left ≤ right) :=
  Scalar.decideLE left right

/-- Scalars that have an exponential function. -/
class Exponential (R : Type) where
  exp : R → R

/-- Scalars that have a square root. -/
class SquareRoot (R : Type) where
  sqrt : R → R

namespace Scalar

variable {R : Type} [Scalar R]

/-- The scalar zero. -/
def zero : R :=
  ofNat 0

/-- One half; the quotient is exact in binary64. -/
def half : R :=
  ofNat 1 / ofNat 2

/-- One part in 10^9. -/
def billionth : R :=
  ofNat 1 / ofNat 1000000000

/-- The sum of a list, added up from the left and starting from zero. -/
def sum (values : List R) : R :=
  values.foldl (· + ·) zero

/-- The list of a given number of zeros. -/
def zeros (count : Nat) : List R :=
  List.replicate count zero

/-- Component-by-component sum of two lists. -/
def addEach (left right : List R) : List R :=
  List.zipWith (· + ·) left right

/-- Every component divided by a count. -/
def divideEach (values : List R) (count : Nat) : List R :=
  values.map (· / ofNat count)

@[simp]
theorem length_zeros (count : Nat) : (zeros count : List R).length = count := by
  simp [zeros]

/-- Adding entry by entry ends with the shorter list. -/
@[simp]
theorem length_addEach (left right : List R) :
    (addEach left right).length = min left.length right.length := by
  simp [addEach]

@[simp]
theorem length_divideEach
    (values : List R)
    (count : Nat) :
    (divideEach values count).length = values.length := by
  simp [divideEach]

end Scalar

end RunningStatistics
