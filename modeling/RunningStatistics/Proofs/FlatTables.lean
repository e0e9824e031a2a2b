import RunningStatistics.Proofs.DirectCorrelation
import RunningStatistics.Proofs.FlatCorrelators

/-!
# Tables in flat memory

Where all rows are equally wide, the slice of a row in the joined list of sums
is found from its number, and what is added to it in place is added to that row
and to no other.

A table is seen here in three parts: the rows before a level, those of the
level, and those after it.
-/

namespace RunningStatistics

/-! ## Slices -/

section Slices

variable {α : Type}

/-- A slice between two parts of a list is changed alone. -/
theorem changeSlice_of_parts
    {change : List α → Except Trap (List α)}
    {piece changed : List α}
    (success : change piece = .ok changed)
    (before after : List α) :
    changeSlice before.length (before.length + piece.length) change
        (before ++ piece ++ after) =
      .ok (before ++ changed ++ after) := by
  have within : before.length ≤ before.length + piece.length ∧
      before.length + piece.length ≤ (before ++ piece ++ after).length := by
    rw [List.length_append, List.length_append]
    exact ⟨Nat.le_add_right _ _, Nat.le_add_right _ _⟩
  have own : ((before ++ piece ++ after).drop before.length).take
      (before.length + piece.length - before.length) = piece := by
    rw [List.append_assoc, List.drop_left, Nat.add_sub_cancel_left,
      List.take_left]
  have earlier : (before ++ piece ++ after).take before.length = before := by
    rw [List.append_assoc, List.take_left]
  have later :
      (before ++ piece ++ after).drop
        (before.length + piece.length) = after := by
    rw [← List.length_append, List.drop_left]
  rw [changeSlice, if_pos within, own, success, earlier, later]
  rfl

theorem readAt_of_parts
    (before : List α)
    (item : α)
    (after : List α) :
    readAt (before ++ item :: after) before.length = .ok item := by
  rw [readAt, List.getElem?_append_right (Nat.le_refl _), Nat.sub_self]
  rfl

theorem set_of_parts
    (before : List α)
    (item replacement : α)
    (after : List α) :
    (before ++ item :: after).set before.length replacement =
      before ++ replacement :: after := by
  rw [List.set_append_right _ _ (Nat.le_refl _), Nat.sub_self]
  rfl

theorem length_flatMap_uniform
    {β : Type}
    {cells : α → List β}
    {width : Nat}
    {items : List α}
    (uniform : ∀ item ∈ items, (cells item).length = width) :
    (items.flatMap cells).length = items.length * width := by
  rw [List.length_flatMap, List.map_congr_left uniform, List.map_const',
    List.sum_replicate_nat]

theorem countUp_ok
    {count : Nat}
    (few : count + 1 < 2 ^ 64) :
    countUp count = .ok (count + 1) :=
  if_pos few

theorem reshape_ok
    {shape : Shape}
    {values : List α}
    (fits : values.length = shape.size) :
    reshape shape values = .ok ⟨shape, values⟩ :=
  if_pos fits

end Slices

variable {R : Type} [Scalar R]

/-! ## Kernels -/

theorem addOnto_eq
    {sums terms : List R}
    (same : sums.length = terms.length) :
    addOnto sums terms = Scalar.addEach sums terms := by
  rw [addOnto, List.drop_of_length_le (Nat.le_of_eq same), List.append_nil]
  rfl

theorem addOuterOnto_eq
    {b a sums : List R}
    (fits : sums.length = a.length * b.length) :
    addOuterOnto b a sums = Scalar.addEach sums (outerProduct a b) := by
  induction a generalizing sums with
  | nil =>
      rw [List.length_nil, Nat.zero_mul, List.length_eq_zero_iff] at fits
      rw [fits]
      rfl
  | cons x rest hypothesis =>
      rw [List.length_cons, Nat.succ_mul] at fits
      have enough : b.length ≤ sums.length := by omega
      have first : (sums.take b.length).length = (b.map (x * ·)).length := by
        rw [List.length_take, List.length_map, Nat.min_eq_left enough]
      have later : (sums.drop b.length).length = rest.length * b.length := by
        rw [List.length_drop]
        omega
      have apart : Scalar.addEach sums (outerProduct (x :: rest) b) =
          Scalar.addEach (sums.take b.length ++ sums.drop b.length)
            (b.map (x * ·) ++ outerProduct rest b) := by
        rw [List.take_append_drop]
        rfl
      rw [addOuterOnto, if_pos enough, addOnto_eq first,
        hypothesis later, apart]
      exact (List.zipWith_append first).symm

/--
For samples of fitting lengths, a kernel that gets as many sums as one
correlation value has components adds the terms to them.
-/
theorem Operation.accumulate_ok
    [Exponential R]
    {operation : Operation}
    {lengthA lengthB : Nat}
    {shape : Shape}
    (fitting : operation.valueShape lengthA lengthB = .ok shape)
    (nonempty : 0 < lengthB)
    (arguments : Axes R)
    {a b sums : List R}
    (fitsA : a.length = lengthA)
    (fitsB : b.length = lengthB)
    (room : sums.length = shape.size) :
    operation.accumulate arguments a b sums =
      .ok (Scalar.addEach sums (operation.terms arguments a b)) := by
  have onto :=
    addOnto_eq (room.trans (length_terms fitting arguments fitsA fitsB).symm)
  cases operation with
  | scalarProduct =>
      rw [valueShape] at fitting
      split at fitting
      next =>
        cases fitting
        rcases List.length_eq_one_iff.mp room with ⟨first, rfl⟩
        rfl
      next => cases fitting
  | tensorProduct =>
      cases fitting
      rw [Shape.size_cons, Shape.size_nil, Nat.mul_one, ← fitsA, ← fitsB]
        at room
      have some : b.length ≠ 0 := by omega
      rw [accumulate.eq_3, if_neg some, addOuterOnto_eq room]
      rfl
  | componentwiseProduct => exact congrArg Except.ok onto
  | squareDistance => exact congrArg Except.ok onto
  | fluorescence => exact congrArg Except.ok onto

/-! ## Rows -/

namespace FlatTable

variable {width : Nat} {before rows after : List (Row R)} {row : Row R}

omit [Scalar R] in
/-- One more pair is added to the row of a number. -/
theorem addAt_ofRows
    (uniform : ∀ row ∈ before, row.sums.length = width)
    (own : row.sums.length = width)
    (few : row.count + 1 < 2 ^ 64)
    {kernel : List R → Except Trap (List R)}
    {sums : List R}
    (added : kernel row.sums = .ok sums)
    (after : List (Row R)) :
    (ofRows (before ++ row :: after)).addAt width before.length kernel =
      .ok (ofRows (before ++ ⟨sums, row.count + 1⟩ :: after)) := by
  have first := length_flatMap_uniform uniform
  have parts : ∀ row : Row R, ofRows (before ++ row :: after) =
      ⟨before.flatMap (·.sums) ++ row.sums ++ after.flatMap (·.sums),
        before.map (·.count) ++ row.count :: after.map (·.count)⟩ := by
    intro row
    rw [ofRows, List.flatMap_append, List.flatMap_cons, List.append_assoc,
      List.map_append, List.map_cons]
  have slice :=
    changeSlice_of_parts added (before.flatMap (·.sums))
      (after.flatMap (·.sums))
  have counted :=
    readAt_of_parts (before.map (·.count)) row.count (after.map (·.count))
  have replaced := set_of_parts (before.map (·.count)) row.count (row.count + 1)
    (after.map (·.count))
  rw [first, own, ← Nat.succ_mul] at slice
  rw [List.length_map] at counted replaced
  rw [addAt, parts, parts, slice]
  show (readAt _ _ >>= _) = _
  rw [counted]
  show (countUp _ >>= _) = _
  rw [countUp_ok few, ← replaced]
  rfl

/-- The means are those of the rows. -/
theorem means_ofRows (uniform : ∀ row ∈ rows, row.sums.length = width) :
    means width (ofRows rows).counts (ofRows rows).sums =
      rows.flatMap Row.mean := by
  induction rows with
  | nil => rfl
  | cons row rest hypothesis =>
      rw [List.forall_mem_cons] at uniform
      have enough : width ≤ (row.sums ++ rest.flatMap (·.sums)).length := by
        rw [List.length_append, uniform.1]
        exact Nat.le_add_right _ _
      have joined :
          means width (ofRows (row :: rest)).counts
              (ofRows (row :: rest)).sums =
            means width (row.count :: rest.map (·.count))
              (row.sums ++ rest.flatMap (·.sums)) :=
        rfl
      rw [joined, means, if_pos enough, List.take_left' uniform.1,
        List.drop_left' uniform.1, List.flatMap_cons, ← hypothesis uniform.2]
      rfl

variable
    [Exponential R]
    {config : Config R}
    {lengthA lengthB : Nat}
    {shape : Shape}
    {history : History R}
    {newest : Sample R}
    {range : LagRange}

/--
Adding the pairs of a sample in place changes the rows of its level, and those
as the level itself would.
-/
theorem correlate_ofRows
    (fitting : config.operation.valueShape lengthA lengthB = .ok shape)
    (nonempty : 0 < lengthB)
    (fitsA : ∀ older ∈ history.recent, older.a.length = lengthA)
    (fitsB : newest.b.length = lengthB)
    (uniform : ∀ row ∈ before, row.sums.length = shape.size)
    (own : ∀ row ∈ rows, row.sums.length = shape.size ∧ row.count + 1 < 2 ^ 64)
    {lag : Nat}
    (place : range.offset + lag = range.first + before.length)
    (after : List (Row R)) :
    correlate config shape.size range history newest rows.length lag
        (ofRows (before ++ (rows ++ after))) =
      .ok (ofRows (before ++
            (Level.correlate config.rules rows
              (history.recent.drop lag) newest ++ after))) := by
  induction rows generalizing before lag with
  | nil =>
      rw [List.length_nil, correlate, Level.correlate]
      simp
  | cons row rest hypothesis =>
      rw [List.forall_mem_cons] at own
      rw [List.length_cons, correlate, History.lagged]
      cases found : history.recent[lag]? with
      | none =>
          have beyond : history.recent.drop lag = [] :=
            List.drop_eq_nil_of_le (List.getElem?_eq_none_iff.mp found)
          rw [beyond, Level.correlate, List.zipWith_nil_right, List.length_nil,
            List.drop_zero, List.nil_append]
      | some older =>
          rcases List.getElem?_eq_some_iff.mp found with ⟨within, at_lag⟩
          have number : range.rowAt lag = .ok before.length := by
            rw [LagRange.rowAt, if_pos (by omega), LagRange.row]
            congr 1
            omega
          have kernel :=
            Operation.accumulate_ok fitting nonempty config.arguments
              (fitsA older (List.mem_of_getElem? found)) fitsB own.1.1
          have added :=
            addAt_ofRows uniform own.1.1 own.1.2 kernel (rest ++ after)
          have widened :
              ∀ earlier ∈ before ++
                  [row.add (config.rules.terms older.a newest.b)],
                earlier.sums.length = shape.size := by
            rw [List.forall_mem_append, List.forall_mem_singleton]
            refine ⟨uniform, ?_⟩
            have terms := Operation.length_terms fitting config.arguments
              (fitsA older (List.mem_of_getElem? found)) fitsB
            rw [Row.add, Scalar.length_addEach, own.1.1]
            exact Nat.min_eq_left (Nat.le_of_eq terms.symm)
          have further :
              range.offset + (lag + 1) =
                range.first +
                  (before ++
                    [row.add
                      (config.rules.terms older.a newest.b)]).length := by
            rw [List.length_append, List.length_singleton]
            omega
          have next := hypothesis widened own.2 further
          rw [List.append_assoc, List.append_assoc] at next
          rw [List.drop_eq_getElem_cons within, at_lag]
          show (range.rowAt lag >>= _) = _
          rw [number]
          show (addAt _ _ _ _ >>= _) = _
          rw [List.cons_append, added]
          exact next

end FlatTable

end RunningStatistics
