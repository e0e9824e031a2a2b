import RunningStatistics.Correlation.Level

/-!
# Hierarchies of levels

The levels stand in a list, finest first.  A sample enters at the finest level;
whenever a level completes a pair, the pair is reduced to one sample for the
level above.  The coarsest level pairs nothing, so no sample leaves the top.

At the end of a run the samples that still wait for a partner are flushed: each
is reduced together with itself and handed to the level above.
-/

namespace RunningStatistics

/-- The levels of a correlator, finest first. -/
abbrev Hierarchy (R : Type) :=
  List (Level R)

namespace Hierarchy

variable {R : Type} [Scalar R]

/--
Levels for the given lags that have received nothing; all but the last one
promote.
-/
def empty (capacity width : Nat) : List LagRange → Hierarchy R
  | [] => []
  | lags :: above =>
      Level.empty capacity (!above.isEmpty) width lags ::
        empty capacity width above

/--
Let a sample enter at the finest level and rise as far as pairs are completed.
-/
def ingest (rules : Rules R) : Hierarchy R → Sample R → Hierarchy R
  | [], _ => []
  | level :: above, sample =>
      match level.receive rules sample with
      | (level, none) => level :: above
      | (level, some (older, newer)) =>
          level :: ingest rules above (rules.reduce older newer)

/--
Hand the samples that wait for a partner upwards, from the finest level on.

`carried` is what the level below hands over.  A pair that it completes rises;
a sample that waits then is reduced together with itself and rises.
-/
def flush (rules : Rules R) :
    (carried : Option (Sample R)) → Hierarchy R → Hierarchy R
  | _, [] => []
  | carried, level :: above =>
      let (level, pair) := match carried with
        | some sample => level.receive rules sample
        | none => (level, none)
      match pair with
      | some (older, newer) =>
          level :: flush rules (some (rules.reduce older newer)) above
      | none =>
          match level.history.unpaired with
          | some waiting =>
              { level with history := level.history.dropUnpaired } ::
                flush rules (some (rules.reduce waiting waiting)) above
          | none => level :: flush rules none above

/-- The rows of all levels, one level after another. -/
def rows (hierarchy : Hierarchy R) : List (Row R) :=
  hierarchy.flatMap (·.rows)

/-- The lag of every row, in sampling intervals. -/
def lagSteps (hierarchy : Hierarchy R) : List Nat :=
  hierarchy.flatMap (·.lags.steps)

/-- The number of levels that have received a sample. -/
def activeLevels (hierarchy : Hierarchy R) : Nat :=
  hierarchy.countP (·.history.isActive)

/--
A level receives the sample, and the ones above it receive what it reduces.
-/
theorem ingest_cons
    (rules : Rules R)
    (level : Level R)
    (above : Hierarchy R)
    (sample : Sample R) :
    ingest rules (level :: above) sample =
      (level.receive rules sample).1 ::
        match (level.receive rules sample).2 with
        | none => above
        | some (older, newer) =>
            ingest rules above (rules.reduce older newer) := by
  rw [ingest]
  cases level.receive rules sample with
  | mk received pair =>
      cases pair with
      | none => rfl
      | some pair => rfl

theorem flush_cons_none
    (rules : Rules R)
    (level : Level R)
    (above : Hierarchy R) :
    flush rules none (level :: above) = match level.history.unpaired with
      | some waiting =>
          { level with history := level.history.dropUnpaired } ::
            flush rules (some (rules.reduce waiting waiting)) above
      | none => level :: flush rules none above :=
  rfl

theorem flush_cons_some
    (rules : Rules R)
    (level : Level R)
    (above : Hierarchy R)
    (sample : Sample R) :
    flush rules (some sample) (level :: above) =
      match (level.receive rules sample).2 with
      | some (older, newer) =>
          (level.receive rules sample).1 ::
            flush rules (some (rules.reduce older newer)) above
      | none => flush rules none ((level.receive rules sample).1 :: above) := by
  rw [flush]
  cases level.receive rules sample with
  | mk received pair =>
      cases pair with
      | none => rfl
      | some pair => rfl

theorem map_lags_empty
    (capacity width : Nat)
    (grid : List LagRange) :
    (empty capacity width grid : Hierarchy R).map (·.lags) = grid := by
  induction grid with
  | nil => rfl
  | cons lags above hypothesis => simp [empty, Level.empty, hypothesis]

/-- Samples change no lags. -/
theorem map_lags_ingest
    (rules : Rules R)
    (hierarchy : Hierarchy R)
    (sample : Sample R) :
    (ingest rules hierarchy sample).map (·.lags) = hierarchy.map (·.lags) := by
  induction hierarchy generalizing sample with
  | nil => rfl
  | cons level above hypothesis =>
      rw [ingest]
      split
      next received equal =>
        have kept := Level.receive_lags rules level sample
        rw [equal] at kept
        simp [← kept]
      next received older newer equal =>
        have kept := Level.receive_lags rules level sample
        rw [equal] at kept
        simp [← kept, hypothesis]

@[simp]
theorem length_ingest
    (rules : Rules R)
    (hierarchy : Hierarchy R)
    (sample : Sample R) :
    (ingest rules hierarchy sample).length = hierarchy.length := by
  have same := congrArg List.length (map_lags_ingest rules hierarchy sample)
  simpa using same

/-- The end of a run changes no lags. -/
theorem map_lags_flush
    (rules : Rules R)
    (carried : Option (Sample R))
    (hierarchy : Hierarchy R) :
    (flush rules carried hierarchy).map (·.lags) = hierarchy.map (·.lags) := by
  induction hierarchy generalizing carried with
  | nil => cases carried <;> rfl
  | cons level above hypothesis =>
      cases carried with
      | none =>
          simp only [flush]
          split <;> simp [hypothesis]
      | some sample =>
          simp only [flush]
          split
          · simp [hypothesis]
          · split <;> simp [hypothesis]

end Hierarchy

end RunningStatistics
