import RunningStatistics.Correlation.Config

/-!
# Correlation terms

What one pair of values contributes to a correlation, and how two neighbouring
values of a stream are compressed.  The terms of a pair form a list of the
length that `Operation.valueShape` announces; they are added to the sums of a
lag component by component.
-/

namespace RunningStatistics

variable {R : Type}

/-- The particles whose coordinates stand one after another in a list. -/
def particles : List R → List (Axes R)
  | x :: y :: z :: rest => ⟨x, y, z⟩ :: particles rest
  | _ => []

theorem length_particles (values : List R) :
    (particles values).length = values.length / 3 := by
  fun_induction particles values with
  | case1 x y z rest hypothesis =>
      simp only [List.length_cons, hypothesis]
      omega
  | case2 values short =>
      rcases values with _ | ⟨x, _ | ⟨y, _ | ⟨z, rest⟩⟩⟩
      · simp
      · simp
      · simp
      · exact absurd rfl (short x y z rest)

variable [Scalar R]

namespace Operation

/-- The shape of one correlation value for observables of the given lengths. -/
def valueShape
    (operation : Operation)
    (lengthA lengthB : Nat) :
    Except Rejection Shape :=
  let incompatible :=
    Except.error (.incompatibleObservables operation lengthA lengthB)
  match operation with
  | scalarProduct => if lengthA = lengthB then .ok [] else incompatible
  | componentwiseProduct =>
      if lengthA = lengthB then .ok [lengthA] else incompatible
  | squareDistance => if lengthA = lengthB then .ok [lengthA] else incompatible
  | tensorProduct => .ok [lengthA * lengthB]
  | fluorescence =>
      if lengthA = lengthB ∧ lengthA % 3 = 0 then
        .ok [lengthA / 3]
      else
        incompatible

end Operation

/-- The squared distance of two numbers. -/
def squaredDistance (left right : R) : R :=
  let distance := left - right
  distance * distance

/--
The squared distance of two particles, each axis in units of its squared beam
waist.
-/
def beamDistance (waists left right : Axes R) : R :=
  Scalar.sum
    [squaredDistance left.x right.x / waists.x,
      squaredDistance left.y right.y / waists.y,
      squaredDistance left.z right.z / waists.z]

/-- The sum of the products of corresponding components. -/
def innerProduct (a b : List R) : R :=
  Scalar.sum (List.zipWith (· * ·) a b)

/--
The products of every component of the first list with every component of the
second.
-/
def outerProduct (a b : List R) : List R :=
  a.flatMap fun x => b.map (x * ·)

theorem length_outerProduct (a b : List R) :
    (outerProduct a b).length = a.length * b.length := by
  rw [outerProduct, List.length_flatMap,
    List.map_congr_left fun x _ => List.length_map (x * ·), List.map_const',
    List.sum_replicate_nat]

namespace Operation

/--
What a value of the stream A and a later value of the stream B contribute.
-/
def terms
    [Exponential R]
    (operation : Operation)
    (arguments : Axes R)
    (a b : List R) :
    List R :=
  match operation with
  | scalarProduct => [innerProduct a b]
  | componentwiseProduct => List.zipWith (· * ·) a b
  | squareDistance => List.zipWith squaredDistance a b
  | tensorProduct => outerProduct a b
  | fluorescence =>
      List.zipWith
        (fun left right =>
          Exponential.exp (-(beamDistance arguments left right)))
        (particles a) (particles b)

/-- There are as many terms as the shape of one correlation value has places. -/
theorem length_terms
    [Exponential R]
    {operation : Operation}
    {lengthA lengthB : Nat}
    {shape : Shape}
    (fitting : operation.valueShape lengthA lengthB = .ok shape)
    (arguments : Axes R)
    {a b : List R}
    (fitsA : a.length = lengthA)
    (fitsB : b.length = lengthB) :
    (operation.terms arguments a b).length = shape.size := by
  subst fitsA fitsB
  cases operation with
  | scalarProduct =>
      simp only [valueShape] at fitting
      split at fitting <;> cases fitting
      rfl
  | componentwiseProduct =>
      simp only [valueShape] at fitting
      split at fitting <;> cases fitting
      next same => simp [terms, same]
  | squareDistance =>
      simp only [valueShape] at fitting
      split at fitting <;> cases fitting
      next same => simp [terms, same]
  | tensorProduct =>
      cases fitting
      simp [terms, length_outerProduct]
  | fluorescence =>
      simp only [valueShape] at fitting
      split at fitting <;> cases fitting
      next same => simp [terms, length_particles, same.1]

end Operation

namespace Compression

/-- The one value to which an older and a newer value are reduced. -/
def combine (rule : Compression) (older newer : List R) : List R :=
  match rule with
  | keepOlder => older
  | keepNewer => newer
  | average => List.zipWith (fun x y => Scalar.half * (x + y)) older newer

theorem length_combine
    {older newer : List R}
    (rule : Compression)
    (same : older.length = newer.length) :
    (rule.combine older newer).length = older.length := by
  cases rule <;> simp [combine, same]

end Compression

end RunningStatistics
