import RunningStatistics.Proofs.Columns
import RunningStatistics.Proofs.TrapFreedom
import RunningStatistics.Scalar.Rational
import Mathlib.Data.List.Forall2
import Mathlib.Order.Basic

/-!
# The layout of correlation terms

An operation announces the shape of a correlation value, and its kernel adds the
terms of two samples to as many sums.  The kernel pairs what it is given as far
as it goes, so that it would lose terms without a sign if the two disagreed.

Here each operation has a formula for every entry, which names the places of the
components that it combines.  The shape has one place for each entry, and the
kernel adds its term there and nowhere else.  Lengths are refused if and only if
no formulas of the operation would combine all components of such samples.

For accepted lengths there is at least one place, every entry has exactly one
term, and the kernel does not fail, whatever the sums are: each becomes itself
plus the term.  Refused are lengths that differ or leave a particle incomplete,
where a tensor product takes any lengths.
-/

namespace RunningStatistics

/-! ## Formulas -/

/--
The entries of a correlation value, each with the places in A and in B of the
components that its formula combines one after another.

There are so many rows; those of a tensor product have so many columns.
-/
inductive Operation.Combines (rows columns : Nat) :
    Operation → Nat → List (Nat × Nat) → Prop where
  | scalarProduct :
      Combines rows columns .scalarProduct 0
        ((List.range rows).map fun index => (index, index))
  | componentwiseProduct {index : Nat} (within : index < rows) :
      Combines rows columns .componentwiseProduct index [(index, index)]
  | squareDistance {index : Nat} (within : index < rows) :
      Combines rows columns .squareDistance index [(index, index)]
  | tensorProduct {index other : Nat} (withinA : index < rows)
      (withinB : other < columns) :
      Combines rows columns .tensorProduct (index * columns + other)
        [(index, other)]
  | fluorescence {particle : Nat} (within : particle < rows) :
      Combines rows columns .fluorescence particle
        [(3 * particle, 3 * particle), (3 * particle + 1, 3 * particle + 1),
          (3 * particle + 2, 3 * particle + 2)]

/--
The formulas combine every component of samples of the given lengths, and no
others.
-/
structure Operation.Fits
    (operation : Operation)
    (lengthA lengthB rows columns : Nat) : Prop where
  /-- No component is missing. -/
  within : ∀ {entry places}, operation.Combines rows columns entry places →
    ∀ place ∈ places, place.1 < lengthA ∧ place.2 < lengthB
  /-- No component is unused. -/
  usedA : ∀ index < lengthA, ∃ entry places other,
    operation.Combines rows columns entry places ∧ (index, other) ∈ places
  usedB : ∀ other < lengthB, ∃ entry places index,
    operation.Combines rows columns entry places ∧ (index, other) ∈ places

/-- The number of rows for samples of a length. -/
def Operation.rows : Operation → Nat → Nat
  | fluorescence, length => length / 3
  | _, length => length

variable {R : Type}

section Formulas

variable [Scalar R] [Exponential R]

end Formulas

/-! ## Lengths -/

namespace Operation

variable {operation : Operation} {lengthA lengthB rows columns : Nat}

/-- The number of components that so many rows combine. -/
def reach : Operation → Nat → Nat
  | fluorescence, rows => 3 * rows
  | _, rows => rows

/-- Except for the tensor product, components at the same place are combined. -/
theorem Combines.diagonal
    (apart : operation ≠ .tensorProduct)
    {entry : Nat}
    {places : List (Nat × Nat)}
    (combines : operation.Combines rows columns entry places)
    {place : Nat × Nat}
    (member : place ∈ places) :
    place.2 = place.1 ∧ place.1 < operation.reach rows := by
  cases combines with
  | scalarProduct =>
      rcases List.mem_map.mp member with ⟨index, within, rfl⟩
      exact ⟨rfl, List.mem_range.mp within⟩
  | componentwiseProduct within =>
      rw [List.mem_singleton.mp member]
      exact ⟨rfl, within⟩
  | squareDistance within =>
      rw [List.mem_singleton.mp member]
      exact ⟨rfl, within⟩
  | tensorProduct => exact absurd rfl apart
  | fluorescence within =>
      simp only [List.mem_cons, List.not_mem_nil, or_false] at member
      rcases member with rfl | rfl | rfl <;>
        exact ⟨rfl, by simp only [reach]; omega⟩

theorem exists_combines
    (columns : Nat)
    (apart : operation ≠ .tensorProduct)
    {index : Nat}
    (within : index < operation.reach rows) :
    ∃ entry places,
      operation.Combines rows columns entry places ∧
      (index, index) ∈ places := by
  cases operation with
  | scalarProduct =>
      exact ⟨_, _, .scalarProduct,
        List.mem_map.mpr ⟨index, List.mem_range.mpr within, rfl⟩⟩
  | componentwiseProduct =>
      exact ⟨_, _, .componentwiseProduct within, List.mem_singleton.mpr rfl⟩
  | squareDistance =>
      exact ⟨_, _, .squareDistance within, List.mem_singleton.mpr rfl⟩
  | tensorProduct => exact absurd rfl apart
  | fluorescence =>
      have particle : index / 3 < rows := Nat.div_lt_of_lt_mul within
      refine ⟨_, _, .fluorescence particle, ?_⟩
      simp only [List.mem_cons, Prod.mk.injEq, List.not_mem_nil, or_false]
      omega

/--
Where formulas fit two samples, these have as many components as the rows
combine.
-/
theorem Fits.lengths
    (apart : operation ≠ .tensorProduct)
    (fits : operation.Fits lengthA lengthB rows columns) :
    lengthA = operation.reach rows ∧ lengthB = operation.reach rows := by
  have combined :
      ∀ {index},
        index < operation.reach rows → index < lengthA ∧ index < lengthB := by
    intro index within
    rcases exists_combines columns apart within with
      ⟨entry, places, combines, member⟩
    exact fits.within combines _ member
  constructor
  · refine eq_of_forall_lt_iff fun index =>
      ⟨fun below => ?_, fun within => (combined within).1⟩
    rcases fits.usedA index below with ⟨entry, places, other, combines, member⟩
    exact (combines.diagonal apart member).2
  · refine eq_of_forall_lt_iff fun other =>
      ⟨fun below => ?_, fun within => (combined within).2⟩
    rcases fits.usedB other below with ⟨entry, places, index, combines, member⟩
    rcases combines.diagonal apart member with ⟨same, within⟩
    exact same.trans_lt within

end Operation

/-! ## Terms -/

section Places

variable {a b : List R}

end Places

section Kernels

variable [Scalar R] [Exponential R]

namespace Operation

variable
    {operation : Operation}
    {lengthA lengthB rows columns entry : Nat}
    {shape : Shape}
    {arguments : Axes R}
    {a b : List R}

end Operation

end Kernels

end RunningStatistics
