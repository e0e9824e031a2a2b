/-!
# The history of a level

A level keeps the values it received last, newest first, and forgets the
oldest one when it is full.  A level with another one above it also pairs the
values it receives: the first of two waits, the second leaves together with it.
-/

namespace RunningStatistics

/-- Simultaneous values of the streams A and B. -/
structure Sample (R : Type) where
  a : List R
  b : List R
  deriving DecidableEq

/-- What a level remembers of the samples it received. -/
structure History (R : Type) where
  capacity : Nat
  /-- Whether samples are paired for a level above. -/
  promotes : Bool
  /-- The samples kept, newest first. -/
  recent : List (Sample R)
  /-- The first sample of a pair that is not complete. -/
  unpaired : Option (Sample R)
  deriving DecidableEq

namespace History

variable {R : Type}

/-- Nothing received yet. -/
def empty (capacity : Nat) (promotes : Bool) : History R :=
  ⟨capacity, promotes, [], none⟩

/--
Receive a sample; every second one comes back with the one before it, older
first.
-/
def push
    (history : History R)
    (sample : Sample R) :
    History R × Option (Sample R × Sample R) :=
  let recent := (sample :: history.recent).take history.capacity
  if history.promotes then
    match history.unpaired with
    | some older =>
        ({ history with recent, unpaired := none }, some (older, sample))
    | none => ({ history with recent, unpaired := some sample }, none)
  else
    ({ history with recent }, none)

/-- The sample received a number of pushes ago, zero for the newest one. -/
def lagged (history : History R) (lag : Nat) : Option (Sample R) :=
  history.recent[lag]?

/--
Whether a sample was ever received, provided that the capacity is positive.
-/
def isActive (history : History R) : Bool :=
  !history.recent.isEmpty

/-- Give up the sample that waits for a partner. -/
def dropUnpaired (history : History R) : History R :=
  { history with unpaired := none }

/-- The latest samples are kept, as many as there is room for. -/
@[simp]
theorem push_recent
    (history : History R)
    (sample : Sample R) :
    (history.push sample).1.recent =
      (sample :: history.recent).take history.capacity := by
  rw [push]
  split
  · split <;> rfl
  · rfl

@[simp]
theorem push_capacity
    (history : History R)
    (sample : Sample R) :
    (history.push sample).1.capacity = history.capacity := by
  rw [push]
  split
  · split <;> rfl
  · rfl

@[simp]
theorem push_promotes
    (history : History R)
    (sample : Sample R) :
    (history.push sample).1.promotes = history.promotes := by
  rw [push]
  split
  · split <;> rfl
  · rfl

/-- A sample is passed on with the one that waited for it. -/
theorem push_pair
    (history : History R)
    (sample : Sample R) :
    (history.push sample).2 =
      if history.promotes then history.unpaired.map (·, sample) else none := by
  rw [push]
  split
  next =>
    cases history.unpaired with
    | none => rfl
    | some older => rfl
  next => rfl

theorem push_unpaired
    (history : History R)
    (sample : Sample R) :
    (history.push sample).1.unpaired =
      if history.promotes then
        if history.unpaired.isSome then none else some sample
      else
        history.unpaired := by
  rw [push]
  split
  next =>
    cases history.unpaired with
    | none => rfl
    | some older => rfl
  next => rfl

end History

end RunningStatistics
