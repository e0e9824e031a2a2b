import RunningStatistics.Correlation.LagGrid
import Mathlib.Algebra.Ring.Nat

/-!
# The table of lags

The rows of all levels stand in one table, one level after another.  Here the
numbering of the rows is tied to that table: the row of a local lag of a level
is the place at which whatever belongs to this lag stands in the joined list.

The statements about the grid that hold in any arithmetic are here too: which
level a range belongs to, where its lags begin, and that none reaches the
linear width.
-/

namespace RunningStatistics

namespace LagRange

/-- The rows of the ranges follow one another, beginning at an offset. -/
def LaidOut : (offset : Nat) → List LagRange → Prop
  | _, [] => True
  | offset, range :: rest =>
      range.offset = offset ∧ LaidOut (offset + range.count) rest

/-- The rows of one range are consecutive. -/
theorem map_row (range : LagRange) :
    (List.range' range.first range.count).map range.row =
      List.range' range.offset range.count := by
  apply List.ext_getElem?
  intro index
  rw [List.getElem?_map]
  by_cases within : index < range.count
  · rw [List.getElem?_range' within, List.getElem?_range' within,
      Option.map_some, row]
    congr 1
    omega
  · rw [List.getElem?_eq_none (by simpa using within),
      List.getElem?_eq_none (by simpa using within)]
    rfl

/-- The rows of all ranges together are consecutive. -/
theorem LaidOut.flatMap_rows
    {offset : Nat}
    {ranges : List LagRange}
    (laid : LaidOut offset ranges) :
    (ranges.flatMap fun range =>
      (List.range' range.first range.count).map range.row) =
      List.range' offset (ranges.map count).sum := by
  induction ranges generalizing offset with
  | nil => rfl
  | cons range rest hypothesis =>
      rcases laid with ⟨here, above⟩
      rw [List.flatMap_cons, hypothesis above, map_row, here, List.map_cons,
        List.sum_cons, List.range'_append_1]

theorem LaidOut.offset_le
    {offset : Nat}
    {ranges : List LagRange}
    (laid : LaidOut offset ranges)
    {range : LagRange}
    (member : range ∈ ranges) :
    offset ≤ range.offset := by
  induction ranges generalizing offset with
  | nil => cases member
  | cons first rest hypothesis =>
      rcases laid with ⟨here, above⟩
      rcases List.mem_cons.mp member with rfl | later
      · exact Nat.le_of_eq here.symm
      · exact Nat.le_trans (Nat.le_add_right _ _) (hypothesis above later)

theorem LaidOut.offset_succ
    {offset : Nat}
    {ranges : List LagRange}
    (laid : LaidOut offset ranges)
    {level : Nat}
    {range next : LagRange}
    (present : ranges[level]? = some range)
    (above : ranges[level + 1]? = some next) :
    next.offset = range.offset + range.count := by
  induction ranges generalizing offset level with
  | nil => cases present
  | cons first rest hypothesis =>
      rcases laid with ⟨here, later⟩
      cases level with
      | zero =>
          cases present
          cases rest with
          | nil => cases above
          | cons second higher =>
              cases above
              rw [later.1, here]
      | succ level => exact hypothesis later present above

/-- The rows of a level end where those of the coarser ones begin. -/
theorem LaidOut.offset_add_count_le
    {offset : Nat}
    {ranges : List LagRange}
    (laid : LaidOut offset ranges)
    {level later : Nat}
    {range other : LagRange}
    (present : ranges[level]? = some range)
    (coarser : ranges[later]? = some other)
    (before : level < later) :
    range.offset + range.count ≤ other.offset := by
  induction ranges generalizing offset level later with
  | nil => cases present
  | cons first rest hypothesis =>
      rcases laid with ⟨here, above⟩
      cases later with
      | zero => cases before
      | succ later =>
          cases level with
          | zero =>
              cases present
              rw [here]
              exact above.offset_le (List.mem_of_getElem? coarser)
          | succ level =>
              exact hypothesis above present coarser
                (Nat.lt_of_succ_lt_succ before)

/-- No two lags have one row. -/
theorem LaidOut.row_injective
    {offset : Nat}
    {ranges : List LagRange}
    (laid : LaidOut offset ranges)
    {level later : Nat}
    {range other : LagRange}
    (present : ranges[level]? = some range)
    (coarser : ranges[later]? = some other)
    {lag further : Nat}
    (least : range.first ≤ lag)
    (below : lag < range.stop)
    (least' : other.first ≤ further)
    (below' : further < other.stop)
    (same : range.row lag = other.row further) :
    level = later ∧ lag = further := by
  rw [row, row] at same
  rcases Nat.lt_trichotomy level later with before | equal | after
  · have apart := laid.offset_add_count_le present coarser before
    rw [count] at apart
    omega
  · subst equal
    cases present.symm.trans coarser
    exact ⟨rfl, by omega⟩
  · have apart := laid.offset_add_count_le coarser present after
    rw [count] at apart
    omega

/--
Where something belongs to every lag of every item, what belongs to a lag stands
in the joined list at the row of the lag.
-/
theorem LaidOut.getElem?_flatMap
    {α β : Type}
    {lags : α → LagRange}
    {cells : α → List β}
    {offset : Nat}
    {items : List α}
    (laid : LaidOut offset (items.map lags))
    (sizes : ∀ item ∈ items, (cells item).length = (lags item).count)
    {level : Nat}
    {item : α}
    (present : items[level]? = some item)
    {lag : Nat}
    (least : (lags item).first ≤ lag)
    (below : lag < (lags item).stop) :
    (items.flatMap cells)[(lags item).row lag - offset]? =
      (cells item)[lag - (lags item).first]? := by
  induction items generalizing offset level with
  | nil => cases present
  | cons lowest rest hypothesis =>
      rcases laid with ⟨here, above⟩
      rw [List.forall_mem_cons] at sizes
      rw [List.flatMap_cons]
      cases level with
      | zero =>
          cases present
          have place :
              (lags item).row lag - offset = lag - (lags item).first := by
            simp only [row]
            omega
          rw [place, List.getElem?_append_left]
          rw [sizes.1, count]
          omega
      | succ level =>
          have member : lags item ∈ rest.map lags :=
            List.mem_map_of_mem (List.mem_of_getElem? present)
          have beyond := above.offset_le member
          have place :
              (lags item).row lag - offset =
                (cells lowest).length +
                  ((lags item).row lag - (offset + (lags lowest).count)) := by
            rw [sizes.1]
            simp only [row]
            omega
          rw [place, List.getElem?_append_right (Nat.le_add_right _ _),
            Nat.add_sub_cancel_left]
          exact hypothesis above sizes.2 present

/-- A lag in sampling intervals stands at its row. -/
theorem LaidOut.getElem?_steps
    {ranges : List LagRange}
    (laid : LaidOut 0 ranges)
    {level : Nat}
    {range : LagRange}
    (present : ranges[level]? = some range)
    {lag : Nat}
    (least : range.first ≤ lag)
    (below : lag < range.stop) :
    (ranges.flatMap steps)[range.row lag]? = some (lag * range.stride) := by
  have within : lag - range.first < range.count := by
    rw [count]
    omega
  rw [← List.map_id ranges] at laid
  have found :
      (ranges.flatMap steps)[range.row lag - 0]? =
        range.steps[lag - range.first]? :=
    laid.getElem?_flatMap (fun range _ => range.length_steps) present
      least below
  rw [Nat.sub_zero] at found
  rw [found, steps, List.getElem?_map, List.getElem?_range' within, Nat.one_mul,
    Nat.add_sub_cancel' least]
  rfl

end LagRange

namespace LagGrid

open LagRange (LaidOut)

variable {R : Type} [Scalar R]

theorem laidOut_ranges
    (width : Nat)
    (span : R)
    (count level offset : Nat) :
    LaidOut offset (ranges width span count level offset) := by
  induction count generalizing level offset with
  | zero => trivial
  | succ count hypothesis => exact ⟨rfl, hypothesis (level + 1) _⟩

theorem laidOut_build (width : Nat) (span : R) : LaidOut 0 (build width span) :=
  laidOut_ranges width span _ 0 0

/-- Every range of the grid is the one of its level, at some offset. -/
theorem getElem?_ranges
    {width : Nat}
    {span : R}
    {count level offset index : Nat}
    {range : LagRange}
    (present : (ranges width span count level offset)[index]? = some range) :
    index < count ∧
    ∃ place, range = LagGrid.range width span (level + index) place := by
  induction count generalizing level offset index with
  | zero => cases present
  | succ count hypothesis =>
      cases index with
      | zero =>
          cases present
          exact ⟨Nat.succ_pos count, offset, rfl⟩
      | succ index =>
          have above :
              (ranges width span count (level + 1)
                (offset +
                  (LagGrid.range width span level offset).count))[index]? =
                some range :=
            present
          rcases hypothesis above with ⟨below, place, same⟩
          refine ⟨Nat.succ_lt_succ below, place, ?_⟩
          rw [same, Nat.add_assoc, Nat.add_comm 1 index]

theorem getElem?_build
    {width : Nat}
    {span : R}
    {level : Nat}
    {range : LagRange}
    (present : (build width span)[level]? = some range) :
    level ≤ coarsest width span ∧
    ∃ place, range = LagGrid.range width span level place := by
  rcases getElem?_ranges present with ⟨below, place, same⟩
  exact ⟨Nat.lt_succ_iff.mp below, place, by rw [same, Nat.zero_add]⟩

theorem stride_eq (level : Nat) : stride level = 2 ^ level := by
  rw [stride, Nat.one_shiftLeft]

/-! ### The coarsest level -/

theorem coarsest_eq_findIdx
    (width : Nat)
    (span : R) :
    coarsest width span =
      (List.range 52).findIdx fun level =>
        !fallsShort width span (stride level) := by
  rw [coarsest, List.takeWhile_eq_take_findIdx_not, List.length_take,
    Nat.min_eq_left List.findIdx_le_length]

theorem fallsShort_of_lt_coarsest
    {width : Nat}
    {span : R}
    {level : Nat}
    (finer : level < coarsest width span) :
    fallsShort width span (stride level) = true := by
  rw [coarsest_eq_findIdx] at finer
  have short := List.not_of_lt_findIdx finer
  simpa using short

theorem fallsShort_coarsest
    {width : Nat}
    {span : R}
    {level : Nat}
    (tried : level < 52)
    (wide : fallsShort width span (stride level) = false) :
    fallsShort width span (stride (coarsest width span)) = false := by
  have found :
      (List.range 52).findIdx
          (fun level => !fallsShort width span (stride level)) <
        (List.range 52).length := by
    apply List.findIdx_lt_length_of_exists
    exact ⟨level, List.mem_range.mpr tried, by rw [wide]; rfl⟩
  have reached := List.findIdx_getElem (w := found)
  rw [List.getElem_range, ← coarsest_eq_findIdx] at reached
  simpa using reached

/-! ### The end of a level -/

/--
Where lags are within the span up to some point, a level ends at that point or
at its width.
-/
theorem lt_lagEnd_iff
    {span : R}
    {stride : Nat}
    (closed :
      ∀ {lag later},
        lag ≤ later →
        reaches span (later * stride) = true →
        reaches span (lag * stride) = true)
    {room first lag : Nat}
    (least : first ≤ lag) :
    lag < lagEnd span stride room first ↔
      lag < first + room ∧ reaches span (lag * stride) = true := by
  induction room generalizing first with
  | zero =>
      rw [lagEnd]
      omega
  | succ room hypothesis =>
      rw [lagEnd]
      by_cases within : reaches span (first * stride) = true
      · rw [if_pos within]
        rcases Nat.eq_or_lt_of_le least with rfl | later
        · have beyond := le_lagEnd span stride room (first + 1)
          constructor
          · intro _
            exact ⟨by omega, within⟩
          · intro _
            omega
        · rw [hypothesis (Nat.succ_le_of_lt later), Nat.succ_add_eq_add_succ]
      · rw [if_neg within]
        constructor
        · intro before
          omega
        · rintro ⟨_, reached⟩
          exact absurd (closed least reached) within

theorem firstLag_le (width level : Nat) : firstLag width level ≤ width := by
  rw [firstLag]
  split
  · exact Nat.zero_le width
  · exact Nat.div_le_self width 2

/-- No level covers a lag from the linear width on. -/
theorem stop_range_le
    (width : Nat)
    (span : R)
    (level offset : Nat) :
    (range width span level offset).stop ≤ width := by
  have bound :=
    lagEnd_le span (stride level) (width - firstLag width level)
      (firstLag width level)
  have start := firstLag_le width level
  simp only [range]
  omega

theorem stop_le_of_mem_build
    {width : Nat}
    {span : R}
    {range : LagRange}
    (member : range ∈ build width span) :
    range.stop ≤ width := by
  rcases List.mem_iff_getElem?.mp member with ⟨level, present⟩
  rcases getElem?_build present with ⟨_, place, rfl⟩
  exact stop_range_le width span level place

/-- If a span reaches the lag zero, this lag has the first row of the table. -/
theorem exists_first_range
    {width : Nat}
    {span : R}
    (positive : 0 < width)
    (reached : reaches span 0 = true) :
    ∃ range,
      (build width span)[0]? = some range ∧
      range.first ≤ 0 ∧
      0 < range.stop ∧
      range.row 0 = 0 := by
  refine ⟨_, rfl, Nat.le_refl 0, ?_, rfl⟩
  rcases Nat.exists_eq_succ_of_ne_zero (Nat.ne_of_gt positive) with ⟨room, rfl⟩
  have beyond := le_lagEnd span (stride 0) room 1
  rw [range, firstLag, if_pos rfl, Nat.sub_zero, lagEnd, Nat.zero_mul,
    if_pos reached]
  exact beyond

end LagGrid

end RunningStatistics
