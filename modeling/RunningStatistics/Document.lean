import RunningStatistics.Scalar

/-!
# Documents

A document is a tree of values in which configurations are stored: lists,
fields with names, and at the leaves texts, flags, whole numbers and scalars.
Whole numbers are kept apart from scalars, because a count must be written as
a whole number, whereas a scalar may be written as either.
-/

namespace RunningStatistics

/-- A tree of values. -/
inductive Document (R : Type) where
  | null
  | flag (value : Bool)
  /-- A natural number written without fraction and exponent. -/
  | whole (value : Nat)
  | number (value : R)
  | text (value : String)
  | list (items : List (Document R))
  | fields (entries : List (String × Document R))
  deriving Inhabited

namespace Document

variable {R : Type}

/-- Read a scalar, which may be written as a whole number. -/
def scalar? [Scalar R] : Document R → Option R
  | whole value => some (Scalar.ofNat value)
  | number value => some value
  | _ => none

/-- Read a natural number, which must be written as a whole number. -/
def whole? : Document R → Option Nat
  | whole value => some value
  | _ => none

/--
Read the name of a choice: a text, or the one field of a record whose value is
null.
-/
def choice? : Document R → Option String
  | text name => some name
  | fields [(name, null)] => some name
  | _ => none

/--
Write a scalar; one that is not a number cannot be written and leaves a null.
-/
def ofScalar [Scalar R] (value : R) : Document R :=
  if Scalar.isFinite value then number value else null

/-- The value under a name. -/
def field? (name : String) : Document R → Option (Document R)
  | fields entries => entries.lookup name
  | _ => none

/-- A scalar is read back if it is a number. -/
theorem scalar?_ofScalar_eq_some_iff
    [Scalar R]
    {value found : R} :
    (ofScalar value).scalar? = some found ↔
      Scalar.isFinite value = true ∧ value = found := by
  rw [ofScalar]
  split
  next finite => simp [scalar?, finite]
  next infinite => simp [scalar?, infinite]

theorem scalar?_ofScalar
    [Scalar R]
    {value : R}
    (finite : Scalar.isFinite value = true) :
    (ofScalar value).scalar? = some value :=
  scalar?_ofScalar_eq_some_iff.mpr ⟨finite, rfl⟩

end Document

end RunningStatistics
