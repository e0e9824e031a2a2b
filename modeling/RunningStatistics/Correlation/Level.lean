import RunningStatistics.Correlation.History
import RunningStatistics.Correlation.LagGrid
import RunningStatistics.Scalar

/-!
# One level of a hierarchy

A level owns the lags that it covers and one row of sums for each of them.
When it receives a sample, the value of B just received is combined with the
values of A received earlier, each at the lag by which it is older.
-/

namespace RunningStatistics

/-- What was accumulated for one lag. -/
structure Row (R : Type) where
  sums : List R
  count : Nat
  deriving DecidableEq

namespace Row

variable {R : Type} [Scalar R]

/-- A row of zeros to which no pair has contributed. -/
def empty (width : Nat) : Row R :=
  ⟨Scalar.zeros width, 0⟩

/-- The row with the terms of one more pair. -/
def add (row : Row R) (terms : List R) : Row R :=
  ⟨Scalar.addEach row.sums terms, row.count + 1⟩

/-- The mean of the terms, undefined where no pair contributed. -/
def mean (row : Row R) : List R :=
  if row.count = 0 then
    row.sums.map fun _ => Scalar.undefined
  else
    Scalar.divideEach row.sums row.count

@[simp]
theorem length_mean (row : Row R) : row.mean.length = row.sums.length := by
  rw [mean]
  split <;> simp

theorem mean_eq (row : Row R) :
    row.mean =
      if row.count = 0 then
        List.replicate row.sums.length Scalar.undefined
      else
        Scalar.divideEach row.sums row.count := by
  rw [mean, List.map_const']

end Row

/-- How samples are combined into terms and reduced to coarser ones. -/
structure Rules (R : Type) where
  /-- What an earlier value of A and the newest value of B contribute. -/
  terms : List R → List R → List R
  /-- The sample to which an older and a newer one are reduced. -/
  reduce : Sample R → Sample R → Sample R

/-- One level of a hierarchy. -/
structure Level (R : Type) where
  lags : LagRange
  history : History R
  /-- One row for each of its lags. -/
  rows : List (Row R)
  deriving DecidableEq

namespace Level

variable {R : Type} [Scalar R]

/-- A level that has received nothing. -/
def empty
    (capacity : Nat)
    (promotes : Bool)
    (width : Nat)
    (lags : LagRange) :
    Level R :=
  ⟨lags, History.empty capacity promotes,
    List.replicate lags.count (Row.empty width)⟩

/--
Add the pairs of the newest sample to the rows.

The earlier samples are given newest first, beginning with the one at the lag of
the first row; rows beyond the earliest sample stay as they are.
-/
def correlate
    (rules : Rules R)
    (rows : List (Row R))
    (earlier : List (Sample R))
    (newest : Sample R) :
    List (Row R) :=
  List.zipWith (fun row older => row.add (rules.terms older.a newest.b))
    rows earlier ++ rows.drop earlier.length

/--
Receive a sample; every second one comes back with the one before it, older
first.
-/
def receive
    (rules : Rules R)
    (level : Level R)
    (sample : Sample R) :
    Level R × Option (Sample R × Sample R) :=
  let (history, pair) := level.history.push sample
  let earlier := history.recent.drop level.lags.first
  ({ level with history, rows := correlate rules level.rows earlier sample },
    pair)

@[simp]
theorem length_correlate
    (rules : Rules R)
    (rows : List (Row R))
    (earlier : List (Sample R))
    (newest : Sample R) :
    (correlate rules rows earlier newest).length = rows.length := by
  simp only [correlate, List.length_append, List.length_zipWith,
    List.length_drop]
  omega

/-- Each row gains the product at its own lag, if there is a sample that old. -/
theorem getElem?_correlate
    (rules : Rules R)
    (rows : List (Row R))
    (earlier : List (Sample R))
    (newest : Sample R)
    (index : Nat) :
    (correlate rules rows earlier newest)[index]? = match earlier[index]? with
      | some older => rows[index]?.map (·.add (rules.terms older.a newest.b))
      | none => rows[index]? := by
  rw [correlate, List.getElem?_append, List.length_zipWith,
    List.getElem?_zipWith, List.getElem?_drop]
  by_cases within : index < earlier.length
  · rw [List.getElem?_eq_getElem within]
    by_cases present : index < rows.length
    · rw [if_pos (by omega), List.getElem?_eq_getElem present]
      rfl
    · rw [if_neg (by omega), List.getElem?_eq_none (by omega),
        List.getElem?_eq_none (by omega)]
      rfl
  · rw [if_neg (by omega), List.getElem?_eq_none (l := earlier) (by omega)]
    by_cases present : index < rows.length
    · congr 1
      omega
    · rw [List.getElem?_eq_none (by omega), List.getElem?_eq_none (by omega)]

@[simp]
theorem receive_lags
    (rules : Rules R)
    (level : Level R)
    (sample : Sample R) :
    (level.receive rules sample).1.lags = level.lags :=
  rfl

@[simp]
theorem length_rows_receive
    (rules : Rules R)
    (level : Level R)
    (sample : Sample R) :
    (level.receive rules sample).1.rows.length = level.rows.length := by
  simp [receive]

theorem receive_history
    (rules : Rules R)
    (level : Level R)
    (sample : Sample R) :
    (level.receive rules sample).1.history = (level.history.push sample).1 :=
  rfl

/-- A level passes on what its history passes on. -/
theorem receive_pair
    (rules : Rules R)
    (level : Level R)
    (sample : Sample R) :
    (level.receive rules sample).2 = (level.history.push sample).2 :=
  rfl

end Level

end RunningStatistics
