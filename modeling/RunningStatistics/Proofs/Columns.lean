import RunningStatistics.Proofs.Projections

/-!
# Columns of a table of sums

A column of the table of a correlator depends on a few components of the
samples only: one of each stream, or the three coordinates of a particle.  It
is the table of a correlator that sees nothing but these, in any arithmetic,
because the columns are never added up.

The components are slices of the samples, and a column is a slice of the sums.
Whatever is done to samples and sums commutes with taking slices.
-/

namespace RunningStatistics

/-! ## Slices of lists -/

/-- The values of a list from a place on, as many as given. -/
def slice {α : Type} (first width : Nat) (values : List α) : List α :=
  (values.drop first).take width

section Slices

variable {α β γ : Type}

theorem length_slice
    {first width : Nat}
    {values : List α}
    (within : first + width ≤ values.length) :
    (slice first width values).length = width := by
  rw [slice, List.length_take, List.length_drop]
  omega

theorem slice_map
    (first width : Nat)
    (change : α → β)
    (values : List α) :
    slice first width (values.map change) =
      (slice first width values).map change := by
  rw [slice, slice, List.map_take, List.map_drop]

theorem slice_zipWith
    (first width : Nat)
    (combine : α → β → γ)
    (left : List α)
    (right : List β) :
    slice first width (List.zipWith combine left right) =
      List.zipWith combine (slice first width left)
        (slice first width right) := by
  rw [slice, slice, slice, List.drop_zipWith, List.take_zipWith]

theorem slice_replicate
    {first width count : Nat}
    (within : first + width ≤ count)
    (value : α) :
    slice first width (List.replicate count value) =
      List.replicate width value := by
  rw [slice, List.drop_replicate, List.take_replicate,
    Nat.min_eq_left (by omega)]

theorem slice_one
    {index : Nat}
    {values : List α}
    (within : index < values.length) :
    slice index 1 values = [values[index]] := by
  rw [slice, List.drop_eq_getElem_cons within]
  rfl

/-- A slice is made up of two slices, one after the other. -/
theorem slice_add
    (first width more : Nat)
    (values : List α) :
    slice first (width + more) values =
      slice first width values ++ slice (first + width) more values := by
  rw [slice, slice, slice, List.take_add, List.drop_drop]

/-- A slice within a slice. -/
theorem slice_slice
    {first width index : Nat}
    (within : index < width)
    (values : List α) :
    slice index 1 (slice first width values) =
      slice (first + index) 1 values := by
  rw [slice, slice, slice, List.drop_take, List.take_take, List.drop_drop,
    Nat.min_eq_left (by omega)]

end Slices

variable {R : Type}

theorem particles_drop
    (count : Nat)
    (values : List R) :
    particles (values.drop (3 * count)) = (particles values).drop count := by
  induction count generalizing values with
  | zero => rfl
  | succ count hypothesis =>
      rcases values with _ | ⟨x, _ | ⟨y, _ | ⟨z, rest⟩⟩⟩
      · simp [particles]
      · simp [particles, Nat.mul_succ]
      · simp [particles, Nat.mul_succ]
      · rw [particles, List.drop_succ_cons, ← hypothesis]
        rfl

/--
Three successive values that begin at a multiple of three are those of one
particle.
-/
theorem particles_slice
    (count : Nat)
    (values : List R) :
    particles (slice (3 * count) 3 values) =
      slice count 1 (particles values) := by
  rw [slice, slice, ← particles_drop]
  rcases values.drop (3 * count) with _ | ⟨x, _ | ⟨y, _ | ⟨z, rest⟩⟩⟩ <;> rfl

variable [Scalar R]

/-- An entry of the outer product is the product of two components. -/
theorem slice_outerProduct
    {a b : List R}
    {index other : Nat}
    (withinA : index < a.length)
    (withinB : other < b.length) :
    slice (index * b.length + other) 1 (outerProduct a b) =
      List.zipWith (· * ·) (slice index 1 a) (slice other 1 b) := by
  have row :
      slice (index * b.length) b.length (outerProduct a b) =
        b.map (a[index] * ·) :=
    take_drop_flatMap (fun x _ => List.length_map (x * ·))
      (List.getElem?_eq_getElem withinA)
  rw [← slice_slice withinB, row, slice_map, slice_one withinA,
    slice_one withinB]
  rfl

/-- Compression acts on each component apart. -/
theorem slice_combine
    (first width : Nat)
    (rule : Compression)
    (older newer : List R) :
    slice first width (rule.combine older newer) =
      rule.combine (slice first width older) (slice first width newer) := by
  cases rule with
  | keepOlder => rfl
  | keepNewer => rfl
  | average => exact slice_zipWith first width _ older newer

/-- The mean of a row is taken entry by entry. -/
theorem slice_mean
    (first width : Nat)
    (row : Row R) :
    slice first width row.mean = (row.withSums (slice first width)).mean := by
  rw [Row.mean, Row.mean, Row.withSums]
  by_cases none : row.count = 0
  · rw [if_pos none, if_pos none, slice_map]
  · rw [if_neg none, if_neg none]
    exact slice_map first width _ row.sums

/-! ## Columns -/

/--
A column of a table of sums, with the components of the samples on which it
depends.
-/
structure Column where
  index : Nat
  /-- The operation that combines these components alone. -/
  operation : Operation
  firstA : Nat
  firstB : Nat
  /-- The number of components of each sample. -/
  width : Nat

/-- The columns of an operation on samples of given lengths. -/
inductive Operation.HasColumn (lengthA lengthB : Nat) :
    Operation → Column → Prop where
  | componentwiseProduct {index : Nat} (within : index < lengthA) :
      HasColumn lengthA lengthB .componentwiseProduct
        ⟨index, .componentwiseProduct, index, index, 1⟩
  | squareDistance {index : Nat} (within : index < lengthA) :
      HasColumn lengthA lengthB .squareDistance
        ⟨index, .squareDistance, index, index, 1⟩
  | tensorProduct {index other : Nat} (withinA : index < lengthA)
      (withinB : other < lengthB) :
      HasColumn lengthA lengthB .tensorProduct
        ⟨index * lengthB + other, .componentwiseProduct, index, other, 1⟩
  | fluorescence {particle : Nat} (within : 3 * particle < lengthA) :
      HasColumn lengthA lengthB .fluorescence
        ⟨particle, .fluorescence, 3 * particle, 3 * particle, 3⟩

theorem Operation.checkArguments_of_ne
    {operation other : Operation}
    (unlike : operation ≠ .fluorescence)
    (unlike' : other ≠ .fluorescence)
    (arguments : Axes R) :
    operation.checkArguments arguments = other.checkArguments arguments := by
  simp only [checkArguments, unlike, unlike', false_and, if_false]

namespace Operation.HasColumn

variable
    {operation : Operation}
    {lengthA lengthB : Nat}
    {shape : Shape}
    {column : Column}

theorem width_pos (has : operation.HasColumn lengthA lengthB column) :
    0 < column.width := by
  cases has <;> exact Nat.succ_pos _

/-- The components stand within the samples, and the column within the table. -/
theorem within
    (has : operation.HasColumn lengthA lengthB column)
    (fits : operation.valueShape lengthA lengthB = .ok shape) :
    column.firstA + column.width ≤ lengthA ∧
    column.firstB + column.width ≤ lengthB ∧
    column.index < shape.size := by
  cases has with
  | componentwiseProduct within =>
      simp only [valueShape] at fits
      split at fits <;> cases fits
      next same => exact ⟨within, same ▸ within, by simpa using within⟩
  | squareDistance within =>
      simp only [valueShape] at fits
      split at fits <;> cases fits
      next same => exact ⟨within, same ▸ within, by simpa using within⟩
  | @tensorProduct index other withinA withinB =>
      cases fits
      refine ⟨withinA, withinB, ?_⟩
      have rows : index * lengthB + lengthB ≤ lengthA * lengthB := by
        rw [← Nat.succ_mul]
        exact Nat.mul_le_mul_right lengthB withinA
      simp only [Shape.size_cons, Shape.size_nil, Nat.mul_one]
      omega
  | fluorescence within =>
      simp only [valueShape] at fits
      split at fits <;> cases fits
      next same =>
        simp only [Shape.size_cons, Shape.size_nil, Nat.mul_one]
        omega

/--
Every column of the table is one of these, unless the components are added up.
-/
theorem exists_of_lt
    (fits : operation.valueShape lengthA lengthB = .ok shape)
    (apart : operation ≠ .scalarProduct)
    {index : Nat}
    (below : index < shape.size) :
    ∃ column,
      operation.HasColumn lengthA lengthB column ∧ column.index = index := by
  cases operation with
  | scalarProduct => exact absurd rfl apart
  | componentwiseProduct =>
      simp only [valueShape] at fits
      split at fits <;> cases fits
      exact ⟨_, .componentwiseProduct (by simpa using below), rfl⟩
  | squareDistance =>
      simp only [valueShape] at fits
      split at fits <;> cases fits
      exact ⟨_, .squareDistance (by simpa using below), rfl⟩
  | tensorProduct =>
      cases fits
      rw [Shape.size_cons, Shape.size_nil, Nat.mul_one] at below
      have some : 0 < lengthB := Nat.pos_of_lt_mul_left below
      refine ⟨_,
        .tensorProduct ((Nat.div_lt_iff_lt_mul some).mpr below)
          (Nat.mod_lt index some), ?_⟩
      rw [Nat.mul_comm]
      exact Nat.div_add_mod index lengthB
  | fluorescence =>
      simp only [valueShape] at fits
      split at fits <;> cases fits
      rw [Shape.size_cons, Shape.size_nil, Nat.mul_one] at below
      exact ⟨_, .fluorescence (by omega), rfl⟩

/-- The components that a column depends on, combined on their own. -/
def signature (has : operation.HasColumn lengthA lengthB column) :
    Signature where
  operation := column.operation
  lengthA := column.width
  lengthB := column.width
  shape := [1]
  fits := by cases has <;> simp [valueShape]

/-- Arguments that are sound for an operation are sound for its columns. -/
theorem checkArguments
    (has : operation.HasColumn lengthA lengthB column)
    {arguments : Axes R}
    (sound : operation.checkArguments arguments = .ok ()) :
    column.operation.checkArguments arguments = .ok () := by
  cases has with
  | tensorProduct withinA withinB =>
      rw [← sound]
      apply checkArguments_of_ne <;> exact nofun
  | componentwiseProduct within => exact sound
  | squareDistance within => exact sound
  | fluorescence within => exact sound

/-- The terms of a column are those of its components. -/
theorem terms
    [Exponential R]
    (has : operation.HasColumn lengthA lengthB column)
    (arguments : Axes R)
    {a b : List R}
    (fitsA : a.length = lengthA)
    (fitsB : b.length = lengthB) :
    column.operation.terms arguments (slice column.firstA column.width a)
        (slice column.firstB column.width b) =
      slice column.index 1 (operation.terms arguments a b) := by
  subst fitsA fitsB
  cases has with
  | componentwiseProduct within => exact (slice_zipWith _ _ _ a b).symm
  | squareDistance within => exact (slice_zipWith _ _ _ a b).symm
  | tensorProduct withinA withinB =>
      exact (slice_outerProduct withinA withinB).symm
  | fluorescence within =>
      simp only [Operation.terms, particles_slice]
      exact (slice_zipWith _ _ _ (particles a) (particles b)).symm

/-- A column is read off the sums, and its components off the samples. -/
def projection
    [Exponential R]
    {wide : Signature}
    (has : wide.operation.HasColumn wide.lengthA wide.lengthB column) :
    Projection R wide has.signature where
  ofA := slice column.firstA column.width
  ofB := slice column.firstB column.width
  ofSums := slice column.index 1
  length_ofA fits := length_slice (fits ▸ (has.within wide.fits).1)
  length_ofB fits := length_slice (fits ▸ (has.within wide.fits).2.1)
  combine_ofA := slice_combine _ _
  combine_ofB := slice_combine _ _
  terms arguments _ _ fitsA fitsB := has.terms arguments fitsA fitsB
  zeros := slice_replicate (has.within wide.fits).2.2 _
  addEach _ _ := slice_zipWith _ _ _ _ _
  mean _ := slice_mean _ _ _
  checkArguments := has.checkArguments

end Operation.HasColumn

end RunningStatistics
