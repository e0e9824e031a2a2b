import RunningStatistics.Proofs.LagTable
import RunningStatistics.Scalar.Rational
import Mathlib

/-!
# The grid of lags over rational numbers

In exact arithmetic the grid is the documented one.  It has as many levels as
are needed for the coarsest one to reach the largest lag, up to the tolerance;
the finest level has all lags below the linear width, a coarser one the upper
half of them in its own unit, and nothing beyond the largest lag is kept.

The two tolerances point in different directions: a level is only added if the
span exceeds the one below it by more than the tolerance, a lag is kept if it
exceeds the span by no more than the tolerance.  Together they leave no level
empty.

The lags increase strictly from zero.  The rows of the levels cover the table
one after another, the lag of a row is the one at which it stands, every level
has a lag, and every level but the coarsest has all of its lags.
-/

namespace RunningStatistics

namespace LagGrid

/-! ## Comparisons -/

theorem billionth_eq : (Scalar.billionth : Rat) = 1 / 10 ^ 9 := by
  change ((1 : Nat) : Rat) / ((1000000000 : Nat) : Rat) = 1 / 10 ^ 9
  norm_num

theorem fallsShort_iff
    {width level : Nat}
    {span : Rat} :
    fallsShort width span (stride level) = true ↔
      (width : Rat) * 2 ^ level < span - 1 / 10 ^ 9 := by
  rw [fallsShort, decide_eq_true_iff, billionth_eq, stride_eq]
  change ((width * 2 ^ level : Nat) : Rat) < span - 1 / 10 ^ 9 ↔ _
  rw [Nat.cast_mul, Nat.cast_pow, Nat.cast_ofNat]

theorem reaches_iff
    {lag level : Nat}
    {span : Rat} :
    reaches span (lag * stride level) = true ↔
      (lag : Rat) * 2 ^ level ≤ span + 1 / 10 ^ 9 := by
  rw [reaches, decide_eq_true_iff, billionth_eq, stride_eq]
  change ((lag * 2 ^ level : Nat) : Rat) ≤ span + 1 / 10 ^ 9 ↔ _
  rw [Nat.cast_mul, Nat.cast_pow, Nat.cast_ofNat]

theorem reaches_zero_of_nonneg
    {span : Rat}
    (nonneg : 0 ≤ span) :
    reaches span 0 = true := by
  rw [← Nat.zero_mul (stride 0), reaches_iff, Nat.cast_zero, zero_mul]
  linarith

variable {width level place : Nat} {span : Rat}

/-! ## Levels -/

/-- The coarsest level is the first one that does not fall short of the span. -/
theorem isLeast_coarsest
    (wide : 2 ≤ width)
    (bounded : span ≤ 2 ^ 52) :
    IsLeast {level : Nat | span - 1 / 10 ^ 9 ≤ width * 2 ^ level}
      (coarsest width span) := by
  constructor
  · have enough : fallsShort width span (stride 51) = false := by
      rw [Bool.eq_false_iff, ne_eq, fallsShort_iff, not_lt]
      have two : (2 : Rat) ≤ width := Nat.ofNat_le_cast.mpr wide
      calc span - 1 / 10 ^ 9 ≤ span := by norm_num
        _ ≤ 2 * 2 ^ 51 := bounded.trans (by norm_num)
        _ ≤ width * 2 ^ 51 := by gcongr
    have reached := fallsShort_coarsest (by decide) enough
    rw [Bool.eq_false_iff, ne_eq, fallsShort_iff, not_lt] at reached
    exact reached
  · intro level reached
    by_contra finer
    have short :=
      fallsShort_iff.mp (fallsShort_of_lt_coarsest (not_le.mp finer))
    exact absurd reached (not_le.mpr short)

/-- The lags of a level are those within its width and the span. -/
theorem lt_stop_iff
    {lag : Nat}
    (least : firstLag width level ≤ lag) :
    lag < (range width span level place).stop ↔
      lag < width ∧ (lag : Rat) * 2 ^ level ≤ span + 1 / 10 ^ 9 := by
  have closed :
      ∀ {lag later : Nat},
        lag ≤ later →
        reaches span (later * stride level) = true →
        reaches span (lag * stride level) = true := by
    intro lag later before reached
    rw [reaches_iff] at reached ⊢
    have less : (lag : Rat) ≤ later := Nat.cast_le.mpr before
    exact le_trans (by gcongr) reached
  rw [range, lt_lagEnd_iff closed least, reaches_iff,
    Nat.add_sub_cancel' (firstLag_le width level)]

theorem lt_of_lt_coarsest (finer : level < coarsest width span) :
    (width : Rat) * 2 ^ level ≤ span + 1 / 10 ^ 9 := by
  have short := fallsShort_iff.mp (fallsShort_of_lt_coarsest finer)
  linarith

/-- A level that another one lies above has all of its lags. -/
theorem stop_eq_width (finer : level < coarsest width span) :
    (range width span level place).stop = width := by
  apply Nat.le_antisymm (stop_range_le width span level place)
  by_contra early
  have least : firstLag width level ≤ (range width span level place).stop :=
    le_lagEnd _ _ _ _
  have less : ((range width span level place).stop : Rat) ≤ width :=
    Nat.cast_le.mpr (stop_range_le width span level place)
  have reached :
      ((range width span level place).stop : Rat) * 2 ^ level ≤
        span + 1 / 10 ^ 9 :=
    le_trans (by gcongr) (lt_of_lt_coarsest finer)
  exact Nat.lt_irrefl _ ((lt_stop_iff least).mpr ⟨not_le.mp early, reached⟩)

/--
The first lag of a coarser level is as long as the width of the level below.
-/
theorem firstLag_mul
    (even : width % 2 = 0)
    (level : Nat) :
    firstLag width (level + 1) * 2 ^ (level + 1) = width * 2 ^ level := by
  rw [firstLag, if_neg (Nat.succ_ne_zero level), Nat.pow_succ', ← Nat.mul_assoc,
    Nat.div_mul_cancel (Nat.dvd_of_mod_eq_zero even)]

/-- No level is empty. -/
theorem first_lt_stop
    (wide : 2 ≤ width)
    (even : width % 2 = 0)
    (nonneg : 0 ≤ span)
    (present : level ≤ coarsest width span) :
    (range width span level place).first <
      (range width span level place).stop := by
  apply (lt_stop_iff (Nat.le_refl _)).mpr
  cases level with
  | zero =>
      constructor
      · exact Nat.lt_of_lt_of_le Nat.two_pos wide
      · rw [firstLag, if_pos rfl, Nat.cast_zero, zero_mul]
        linarith
  | succ level =>
      constructor
      · rw [firstLag, if_neg (Nat.succ_ne_zero level)]
        omega
      · have same :
            (firstLag width (level + 1) : Rat) * 2 ^ (level + 1) =
              width * 2 ^ level := by
          exact_mod_cast firstLag_mul even level
        rw [same]
        exact lt_of_lt_coarsest present

/-! ## Lags -/

/-- The lags of a level in sampling intervals. -/
theorem mem_steps_range {steps : Nat} :
    steps ∈ (range width span level place).steps ↔
      ∃ lag,
        firstLag width level ≤ lag ∧
        lag < (range width span level place).stop ∧
        steps = lag * 2 ^ level := by
  rw [LagRange.steps, List.mem_map]
  constructor
  · rintro ⟨lag, member, rfl⟩
    rw [List.mem_range'_1, LagRange.count] at member
    refine ⟨lag, member.1, ?_, ?_⟩
    · have bounds := member.2
      have start := member.1
      omega
    · rw [range, stride_eq]
  · rintro ⟨lag, least, below, rfl⟩
    refine ⟨lag, ?_, ?_⟩
    · rw [List.mem_range'_1, LagRange.count]
      exact ⟨least, by omega⟩
    · rw [range, stride_eq]

theorem steps_lt
    {steps : Nat}
    (member : steps ∈ (range width span level place).steps) :
    steps < width * 2 ^ level := by
  rcases mem_steps_range.mp member with ⟨lag, _, below, rfl⟩
  exact Nat.mul_lt_mul_of_pos_right
    (below.trans_le (stop_range_le width span level place))
    (Nat.two_pow_pos level)

theorem le_steps
    (even : width % 2 = 0)
    {higher steps : Nat}
    (finer : level < higher)
    (member : steps ∈ (range width span higher place).steps) :
    width * 2 ^ level ≤ steps := by
  rcases mem_steps_range.mp member with ⟨lag, least, _, rfl⟩
  rcases Nat.exists_eq_add_of_lt finer with ⟨between, rfl⟩
  calc width * 2 ^ level ≤ width * 2 ^ (level + between) := by gcongr <;> omega
    _ = firstLag width (level + between + 1) * 2 ^ (level + between + 1) :=
      (firstLag_mul even _).symm
    _ ≤ lag * 2 ^ (level + between + 1) := by gcongr

/-- The lags of all levels, one level after another, increase strictly. -/
theorem pairwise_steps
    (width : Nat)
    (span : Rat)
    (even : width % 2 = 0) :
    ((build width span).flatMap LagRange.steps).Pairwise (· < ·) := by
  apply List.pairwise_flatMap.mpr
  constructor
  · intro lags member
    rcases List.mem_iff_getElem?.mp member with ⟨level, present⟩
    rcases getElem?_build present with ⟨_, place, rfl⟩
    apply List.pairwise_map.mpr
    apply List.Pairwise.imp _ List.pairwise_lt_range'
    intro lag later before
    rw [range, stride_eq]
    exact Nat.mul_lt_mul_of_pos_right before (Nat.two_pow_pos level)
  · apply List.pairwise_iff_getElem.mpr
    intro lower higher within inside finer steps member later among
    rcases getElem?_build (List.getElem?_eq_getElem within) with
      ⟨_, _, lagsLower⟩
    rcases getElem?_build (List.getElem?_eq_getElem inside) with
      ⟨_, _, lagsHigher⟩
    rw [lagsLower] at member
    rw [lagsHigher] at among
    exact (steps_lt member).trans_le (le_steps even finer among)

/-- The lags of all levels in sampling intervals. -/
theorem mem_flatMap_steps {steps : Nat} :
    steps ∈ (build width span).flatMap LagRange.steps ↔
      ∃ level lag,
        level ≤ coarsest width span ∧
        firstLag width level ≤ lag ∧
        lag < width ∧
        steps = lag * 2 ^ level ∧
        (lag : Rat) * 2 ^ level ≤ span + 1 / 10 ^ 9 := by
  rw [List.mem_flatMap]
  constructor
  · rintro ⟨lags, member, among⟩
    rcases List.mem_iff_getElem?.mp member with ⟨level, present⟩
    rcases getElem?_build present with ⟨below, place, rfl⟩
    rcases mem_steps_range.mp among with ⟨lag, least, covered, rfl⟩
    rcases (lt_stop_iff least).mp covered with ⟨within, reached⟩
    exact ⟨level, lag, below, least, within, rfl, reached⟩
  · rintro ⟨level, lag, below, least, within, rfl, reached⟩
    have inside : level < (build width span).length := by
      rw [length_build]
      exact Nat.lt_succ_of_le below
    have present := List.getElem?_eq_getElem inside
    rcases getElem?_build present with ⟨_, place, same⟩
    refine ⟨_, List.getElem_mem inside, ?_⟩
    rw [same]
    exact mem_steps_range.mpr
      ⟨lag, least, (lt_stop_iff least).mpr ⟨within, reached⟩, rfl⟩

/--
The grid of lags is the documented one: the least number of levels that reaches
the span, with exactly the lags below the width at the finest level and those of
the upper half at coarser ones.
-/
theorem build_documented
    {width : Nat}
    {span : Rat}
    (wide : 2 ≤ width)
    (even : width % 2 = 0)
    (nonneg : 0 ≤ span)
    (bounded : span ≤ 2 ^ 52) :
    ∃ top,
      IsLeast {level : Nat | span - 1 / 10 ^ 9 ≤ width * 2 ^ level} top ∧
      let grid := build width span
      let lagSteps := grid.flatMap LagRange.steps
      grid.length = top + 1 ∧
      lagSteps.Pairwise (· < ·) ∧
      lagSteps.head? = some 0 ∧
      (∀ steps,
        steps ∈ lagSteps ↔
          (steps < width ∧ (steps : Rat) ≤ span + 1 / 10 ^ 9) ∨
          ∃ level lag,
            1 ≤ level ∧
            level ≤ top ∧
            width / 2 ≤ lag ∧
            lag < width ∧
            steps = lag * 2 ^ level ∧
            (lag : Rat) * 2 ^ level ≤ span + 1 / 10 ^ 9) ∧
      (grid.flatMap fun range =>
        (List.range' range.first range.count).map range.row) =
        List.range lagSteps.length ∧
      ∀ level range,
        grid[level]? = some range →
        (∀ lag,
          range.first ≤ lag →
          lag < range.stop →
          lagSteps[range.row lag]? = some (lag * 2 ^ level)) ∧
        (∀ next,
          grid[level + 1]? = some next →
          next.offset = range.offset + range.count) ∧
        range.first = (if level = 0 then 0 else width / 2) ∧
        range.first < range.stop ∧
        (level < top → range.stop = width) := by
  have laid := laidOut_build width span
  refine ⟨coarsest width span, isLeast_coarsest wide bounded,
    length_build width span, pairwise_steps width span even, ?_, ?_, ?_, ?_⟩
  · have positive : 0 < width := Nat.lt_of_lt_of_le Nat.two_pos wide
    rcases exists_first_range positive (reaches_zero_of_nonneg nonneg) with
      ⟨range, first, least, covered, row⟩
    have stands := laid.getElem?_steps first least covered
    rw [row, Nat.zero_mul] at stands
    rw [List.head?_eq_getElem?]
    exact stands
  · intro steps
    rw [mem_flatMap_steps]
    constructor
    · rintro ⟨level, lag, below, least, within, rfl, reached⟩
      cases level with
      | zero =>
          left
          rw [pow_zero, mul_one] at reached ⊢
          exact ⟨within, reached⟩
      | succ level =>
          right
          exact ⟨level + 1, lag, Nat.succ_pos level, below, least, within, rfl,
            reached⟩
    · rintro
        (⟨within, reached⟩ |
          ⟨level, lag, coarser, below, half, within, rfl, reached⟩)
      · refine ⟨0, steps, Nat.zero_le _, Nat.zero_le _, within,
          (mul_one steps).symm, ?_⟩
        rw [pow_zero, mul_one]
        exact reached
      · refine ⟨level, lag, below, ?_, within, rfl, reached⟩
        rw [firstLag, if_neg (Nat.ne_of_gt coarser)]
        exact half
  · rw [laid.flatMap_rows, List.length_flatMap, List.range_eq_range']
    simp only [LagRange.length_steps]
  · intro level range present
    rcases getElem?_build present with ⟨below, place, rfl⟩
    refine ⟨?_, fun next above => laid.offset_succ present above, rfl,
      first_lt_stop wide even nonneg below, stop_eq_width⟩
    intro lag least covered
    rw [laid.getElem?_steps present least covered, LagGrid.range, stride_eq]

/--
A span beyond the reach of the second level, but by less than the tolerance.
-/
theorem build_documented_four :
    2 ≤ 4 ∧
    4 % 2 = 0 ∧
    (0 : Rat) ≤ 8 + 1 / 10 ^ 10 ∧
    (8 + 1 / 10 ^ 10 : Rat) ≤ 2 ^ 52 ∧
    let grid := build 4 (8 + 1 / 10 ^ 10 : Rat)
    let lagSteps := grid.flatMap LagRange.steps
    ∃ top,
      IsLeast
        {level : Nat |
          (8 + 1 / 10 ^ 10 : Rat) - 1 / 10 ^ 9 ≤ (4 : Nat) * 2 ^ level} top ∧
      grid.length = top + 1 ∧
      lagSteps.Pairwise (· < ·) ∧
      lagSteps.head? = some 0 ∧
      ∀ steps,
        steps ∈ lagSteps ↔
          (steps < 4 ∧ (steps : Rat) ≤ 8 + 1 / 10 ^ 10 + 1 / 10 ^ 9) ∨
          ∃ level lag,
            1 ≤ level ∧
            level ≤ top ∧
            4 / 2 ≤ lag ∧
            lag < 4 ∧
            steps = lag * 2 ^ level ∧
            (lag : Rat) * 2 ^ level ≤ 8 + 1 / 10 ^ 10 + 1 / 10 ^ 9 := by
  have nonneg : (0 : Rat) ≤ 8 + 1 / 10 ^ 10 := by norm_num
  have bounded : (8 + 1 / 10 ^ 10 : Rat) ≤ 2 ^ 52 := by norm_num
  rcases build_documented (Nat.le_add_left 2 2) rfl nonneg bounded with
    ⟨top, least, length, increasing, start, lags, _⟩
  exact ⟨Nat.le_add_left 2 2, rfl, nonneg, bounded, top, least, length,
    increasing, start, lags⟩

end LagGrid

end RunningStatistics
