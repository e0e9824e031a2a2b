import RunningStatistics.Proofs.LagTable

/-!
# Grids of a longer span

A span that reaches farther may need more levels.  The levels that were there
before keep their lags, except that the coarsest one, which was cut off at the
shorter span, may go on.  So the table of lags is only continued.
-/

namespace RunningStatistics

/-! ## Ranges that continue others -/

namespace LagRange

/-- The same lags from the first on, up to a later end. -/
structure Continues (range longer : LagRange) : Prop where
  first : longer.first = range.first
  stride : longer.stride = range.stride
  stop : range.stop ≤ longer.stop

/--
The same ranges, of which only the last one may go on, followed by others.
-/
def Begins : List LagRange → List LagRange → Prop
  | [], _ => True
  | _ :: _, [] => False
  | [range], longer :: _ => range.Continues longer
  | range :: above, longer :: higher =>
      range.Continues longer ∧ range.stop = longer.stop ∧ Begins above higher

/--
Whatever belongs to the lags of a range begins the same for one that continues
it.
-/
theorem Continues.map_prefix
    {range longer : LagRange}
    (continues : range.Continues longer)
    {α : Type}
    (cell : Nat → α) :
    (List.range' range.first range.count).map cell <+:
      (List.range' longer.first longer.count).map cell := by
  have more : range.count ≤ longer.count := by
    have := continues.stop
    rw [count, count, continues.first]
    omega
  rw [continues.first, ← Nat.add_sub_cancel' more, ← List.range'_append_1,
    List.map_append]
  exact List.prefix_append _ _

theorem Continues.steps_prefix
    {range longer : LagRange}
    (continues : range.Continues longer) :
    range.steps <+: longer.steps := by
  rw [steps, steps, continues.stride]
  exact continues.map_prefix _

theorem Continues.count_eq
    {range longer : LagRange}
    (continues : range.Continues longer)
    (same : range.stop = longer.stop) :
    longer.count = range.count := by
  rw [count, count, continues.first, same]

theorem Begins.steps_prefix
    {short long : List LagRange}
    (begins : Begins short long) :
    short.flatMap steps <+: long.flatMap steps := by
  induction short generalizing long with
  | nil => exact List.nil_prefix
  | cons range above hypothesis =>
      cases long with
      | nil => exact begins.elim
      | cons longer higher =>
          rw [List.flatMap_cons, List.flatMap_cons]
          cases above with
          | nil =>
              rw [List.flatMap_nil, List.append_nil]
              exact List.IsPrefix.trans (Continues.steps_prefix begins)
                (List.prefix_append _ _)
          | cons second rest =>
              rcases begins with ⟨continues, same, begins⟩
              have equal : range.steps = longer.steps := by
                rw [steps, steps, continues.stride, continues.first,
                  continues.count_eq same]
              rw [equal]
              exact (List.prefix_append_right_inj _).mpr (hypothesis begins)

end LagRange

/-! ## Spans that reach farther -/

namespace LagGrid

variable {R : Type} [Scalar R]

/--
A span, for which the lags below the width lie within it where a level falls
short of it.
-/
structure Farther (width : Nat) (span longer : R) : Prop where
  fallsShort : ∀ {stride}, fallsShort width span stride = true →
    LagGrid.fallsShort width longer stride = true
  reaches :
    ∀ {steps}, reaches span steps = true → LagGrid.reaches longer steps = true
  complete :
    ∀ {stride lag},
      LagGrid.fallsShort width span stride = true →
      lag ≤ width →
      LagGrid.reaches span (lag * stride) = true

theorem length_takeWhile_le
    {α : Type}
    {weak strong : α → Bool}
    (items : List α)
    (implies : ∀ item, strong item = true → weak item = true) :
    (items.takeWhile strong).length ≤ (items.takeWhile weak).length := by
  induction items with
  | nil => exact Nat.le_refl 0
  | cons item rest hypothesis =>
      cases holds : strong item with
      | false =>
          rw [List.takeWhile_cons_of_neg (by simp [holds])]
          exact Nat.zero_le _
      | true =>
          rw [List.takeWhile_cons_of_pos holds,
            List.takeWhile_cons_of_pos (implies item holds)]
          exact Nat.succ_le_succ hypothesis

/-- A longer span never needs fewer levels. -/
theorem Farther.coarsest_le
    {width : Nat}
    {span longer : R}
    (farther : Farther width span longer) :
    coarsest width span ≤ coarsest width longer :=
  length_takeWhile_le _ fun _ => farther.fallsShort

/-- More room and a longer span do not make a level end earlier. -/
theorem lagEnd_mono
    {span longer : R}
    (farther :
      ∀ {steps}, reaches span steps = true → reaches longer steps = true)
    (stride : Nat)
    {room more : Nat}
    (roomy : room ≤ more)
    (lag : Nat) :
    lagEnd span stride room lag ≤ lagEnd longer stride more lag := by
  induction room generalizing more lag with
  | zero => exact le_lagEnd longer stride more lag
  | succ room hypothesis =>
      rcases Nat.exists_eq_add_of_le'
          (Nat.le_trans (Nat.le_add_left 1 room) roomy) with ⟨more, rfl⟩
      rw [lagEnd]
      split
      next reached =>
        rw [lagEnd, if_pos (farther reached)]
        exact hypothesis (Nat.le_of_succ_le_succ roomy) (lag + 1)
      next => exact le_lagEnd longer stride _ lag

theorem lagEnd_of_reaches
    {span : R}
    {stride room lag : Nat}
    (within :
      ∀ other, other < lag + room → reaches span (other * stride) = true) :
    lagEnd span stride room lag = lag + room := by
  induction room generalizing lag with
  | zero => rfl
  | succ room hypothesis =>
      rw [lagEnd, if_pos (within lag (by omega)), hypothesis fun other below =>
        within other (by omega)]
      omega

theorem Farther.range_continues
    {width : Nat}
    {span longer : R}
    (farther : Farther width span longer)
    (level offset offset' : Nat) :
    (range width span level offset).Continues
      (range width longer level offset') :=
  ⟨rfl, rfl, lagEnd_mono farther.reaches _ (Nat.le_refl _) _⟩

/--
A level that falls short of the shorter span covers all its lags for both spans.
-/
theorem Farther.stop_eq
    {width : Nat}
    {span longer : R}
    (farther : Farther width span longer)
    {level : Nat}
    (short : LagGrid.fallsShort width span (stride level) = true)
    (offset offset' : Nat) :
    (range width span level offset).stop =
      (range width longer level offset').stop := by
  have room : firstLag width level + (width - firstLag width level) = width :=
    Nat.add_sub_cancel' (firstLag_le width level)
  have within :
      ∀ other,
        other < firstLag width level + (width - firstLag width level) →
        LagGrid.reaches span (other * stride level) = true :=
    fun other below => farther.complete short (by omega)
  rw [range, range, lagEnd_of_reaches within,
    lagEnd_of_reaches fun other below => farther.reaches (within other below)]

/--
A longer grid repeats the levels that fall short of the shorter span, and the
one that does not may go on.
-/
theorem Farther.begins_ranges
    {width : Nat}
    {span longer : R}
    (farther : Farther width span longer)
    {count more : Nat}
    (fewer : count ≤ more)
    {level : Nat}
    (offset offset' : Nat)
    (short :
      ∀ finer,
        level ≤ finer →
        finer < level + count →
        LagGrid.fallsShort width span (stride finer) = true) :
    LagRange.Begins (ranges width span (count + 1) level offset)
      (ranges width longer (more + 1) level offset') := by
  induction count generalizing more level offset offset' with
  | zero => exact farther.range_continues level offset offset'
  | succ count hypothesis =>
      rcases Nat.exists_eq_add_of_le'
          (Nat.le_trans (Nat.le_add_left 1 count) fewer) with ⟨more, rfl⟩
      refine ⟨farther.range_continues level offset offset',
        farther.stop_eq (short level (Nat.le_refl _) (by omega)) offset offset',
        ?_⟩
      exact hypothesis (Nat.le_of_succ_le_succ fewer) _ _
        fun finer lower upper => short finer (by omega) (by omega)

/-- A longer span only continues the table of lags. -/
theorem Farther.begins_build
    {width : Nat}
    {span longer : R}
    (farther : Farther width span longer) :
    LagRange.Begins (build width span) (build width longer) :=
  farther.begins_ranges farther.coarsest_le 0 0 fun finer _ below =>
    fallsShort_of_lt_coarsest (by omega)

/-! ### Derived widths -/

/-- A width that does not fall short of the span needs no second level. -/
theorem build_of_wide
    {width : Nat}
    {span : R}
    (wide : fallsShort width span 1 = false) :
    build width span = [range width span 0 0] := by
  have single : coarsest width span = 0 := by
    rw [coarsest, List.range_succ_eq_map, List.takeWhile_cons_of_neg]
    · rfl
    · rw [stride_eq, pow_zero, wide]
      exact Bool.false_ne_true
  rw [build, single]
  rfl

theorem begins_build_of_wide
    {width wider : Nat}
    {span longer : R}
    (ordered : width ≤ wider)
    (wide : fallsShort width span 1 = false)
    (wide' : fallsShort wider longer 1 = false)
    (farther :
      ∀ {steps}, reaches span steps = true → reaches longer steps = true) :
    LagRange.Begins (build width span) (build wider longer) := by
  rw [build_of_wide wide, build_of_wide wide']
  exact ⟨rfl, rfl, lagEnd_mono farther _ (Nat.sub_le_sub_right ordered 0) 0⟩

end LagGrid

end RunningStatistics
