/-!
# Correlation operations

An operation combines a value of the stream A with a later value of the
stream B.  This module holds their names, which scripts use to choose one.
-/

namespace RunningStatistics

/-- How two values are combined into one correlation value. -/
inductive Operation where
  /-- The sum over the components of `aᵢ * bᵢ`. -/
  | scalarProduct
  /-- The products `aᵢ * bᵢ`. -/
  | componentwiseProduct
  /-- The squared distances `(aᵢ - bᵢ)²`. -/
  | squareDistance
  /-- The products `aᵢ * bⱼ` of every pair of components. -/
  | tensorProduct
  /-- The fluorescence autocorrelation of particles with three coordinates. -/
  | fluorescence
  deriving DecidableEq

namespace Operation

/-- The name by which an operation is chosen. -/
def name : Operation → String
  | scalarProduct => "scalar_product"
  | componentwiseProduct => "componentwise_product"
  | squareDistance => "square_distance_componentwise"
  | tensorProduct => "tensor_product"
  | fluorescence => "fcs_acf"

/-- All operations. -/
def all : List Operation :=
  [scalarProduct, componentwiseProduct, squareDistance, tensorProduct,
    fluorescence]

/-- The operation of a name, which has to be spelled exactly. -/
def ofName? (name : String) : Option Operation :=
  all.find? (·.name == name)

theorem mem_all (operation : Operation) : operation ∈ all := by
  cases operation <;> simp [all]

theorem name_injective
    {left right : Operation}
    (equal : left.name = right.name) :
    left = right := by
  revert equal
  cases left <;> cases right <;> decide

@[simp]
theorem ofName?_name (operation : Operation) :
    ofName? operation.name = some operation := by
  cases operation <;> decide

/--
A name chooses the operation that bears it, and no other name chooses one.
-/
theorem ofName?_eq_some_iff
    {name : String}
    {operation : Operation} :
    ofName? name = some operation ↔ operation.name = name := by
  constructor
  · intro found
    rw [ofName?] at found
    simpa using List.find?_some found
  · rintro rfl
    exact ofName?_name operation

end Operation

end RunningStatistics
