import RunningStatistics.Correlation.Config

/-!
# The grid of lags

Level `p` of a hierarchy resolves lags in units of `2 ^ p` sampling intervals.
The finest level covers the local lags below the linear width; a coarser level
only covers the upper half of them, because the lower half is resolved more
finely below.  The number of levels is the least for which the coarsest one
reaches the largest lag, and lags beyond the largest one are left out.

The lags of all levels, one level after another, are the rows of the table of
results.  Comparisons with the largest lag allow for a small tolerance.
-/

namespace RunningStatistics

/-- The lags that one level covers. -/
structure LagRange where
  first : Nat
  /-- The local lag after the last one. -/
  stop : Nat
  /-- The number of sampling intervals in a local lag of one. -/
  stride : Nat
  /-- The row of the first local lag in the table of all lags. -/
  offset : Nat
  deriving DecidableEq

namespace LagRange

/-- The number of lags. -/
def count (range : LagRange) : Nat :=
  range.stop - range.first

/-- The row of a local lag in the table of all lags. -/
def row (range : LagRange) (lag : Nat) : Nat :=
  range.offset + lag - range.first

/-- The lags in sampling intervals. -/
def steps (range : LagRange) : List Nat :=
  (List.range' range.first range.count).map (· * range.stride)

@[simp]
theorem length_steps (range : LagRange) : range.steps.length = range.count := by
  simp [steps]

end LagRange

namespace LagGrid

variable {R : Type} [Scalar R]

/-- The number of sampling intervals in a local lag of one at a level. -/
def stride (level : Nat) : Nat :=
  1 <<< level

/--
Whether a level of the given stride falls short of a span, counted in sampling
intervals.
-/
def fallsShort (width : Nat) (span : R) (stride : Nat) : Bool :=
  decide (Scalar.ofNat (width * stride) < span - Scalar.billionth)

/-- Whether a lag, counted in sampling intervals, lies within a span. -/
def reaches (span : R) (steps : Nat) : Bool :=
  decide (Scalar.ofNat steps ≤ span + Scalar.billionth)

/--
The index of the coarsest level: the first one that does not fall short.

A span of at most `spanLimit` intervals is covered after 52 doublings,
so no more levels have to be tried.
-/
def coarsest (width : Nat) (span : R) : Nat :=
  ((List.range 52).takeWhile fun level =>
    fallsShort width span (stride level)).length

/--
The end of the local lags from `lag` on that lie within the span, at most `room`
of them.
-/
def lagEnd (span : R) (stride : Nat) : (room lag : Nat) → Nat
  | 0, lag => lag
  | room + 1, lag =>
      if reaches span (lag * stride) then
        lagEnd span stride room (lag + 1)
      else
        lag

/-- The first local lag of a level. -/
def firstLag (width level : Nat) : Nat :=
  if level = 0 then 0 else width / 2

/-- The lags of one level, whose rows begin at an offset. -/
def range (width : Nat) (span : R) (level offset : Nat) : LagRange :=
  let first := firstLag width level
  ⟨first, lagEnd span (stride level) (width - first) first,
    stride level, offset⟩

/--
The lags of `count` levels, the rows of each beginning after those of the one
before.
-/
def ranges (width : Nat) (span : R) : (count level offset : Nat) → List LagRange
  | 0, _, _ => []
  | count + 1, level, offset =>
      let here := range width span level offset
      here :: ranges width span count (level + 1) (offset + here.count)

/--
The lags of all levels for a linear width and a span in sampling intervals.
-/
def build (width : Nat) (span : R) : List LagRange :=
  ranges width span (coarsest width span + 1) 0 0

/-- The least even width that resolves a whole span without compression. -/
def wholeWidth (span : R) : Nat :=
  let width := max 2 (Scalar.ceilNat (span - Scalar.billionth))
  width + width % 2

@[simp]
theorem length_ranges
    (width : Nat)
    (span : R)
    (count level offset : Nat) :
    (ranges width span count level offset).length = count := by
  induction count generalizing level offset with
  | zero => rfl
  | succ count hypothesis => simp [ranges, hypothesis]

/-- The grid has a level for each power of two up to the coarsest one. -/
@[simp]
theorem length_build
    (width : Nat)
    (span : R) :
    (build width span).length = coarsest width span + 1 := by
  simp [build]

theorem le_lagEnd
    (span : R)
    (stride room lag : Nat) :
    lag ≤ lagEnd span stride room lag := by
  induction room generalizing lag with
  | zero => exact Nat.le_refl _
  | succ room hypothesis =>
      rw [lagEnd]
      split
      · exact Nat.le_trans (Nat.le_succ lag) (hypothesis (lag + 1))
      · exact Nat.le_refl _

/-- The lags of a level do not exceed its room. -/
theorem lagEnd_le
    (span : R)
    (stride room lag : Nat) :
    lagEnd span stride room lag ≤ lag + room := by
  induction room generalizing lag with
  | zero => exact Nat.le_refl _
  | succ room hypothesis =>
      rw [lagEnd]
      split
      · have step := hypothesis (lag + 1)
        omega
      · omega

end LagGrid

end RunningStatistics
