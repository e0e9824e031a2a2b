import RunningStatistics.Proofs.Binary64Signs
import RunningStatistics.Proofs.Finalization

/-!
# Sample sizes

How many pairs contribute to a lag depends on nothing but the number of samples
taken in.  A level receives half as many samples as the one below, rounded down
while the run goes on and rounded up once it was ended, and a lag misses as many
pairs as it is long.

Because a coarser level only covers the upper half of its lags, the sample sizes
never increase along the table, not even from one level to the next.
-/

namespace RunningStatistics

variable {R : Type} [Scalar R]

/-! ## Along the table -/

namespace Hierarchy

variable
    {width : Nat}
    {next : List (Arrival R) → List (Arrival R)}
    {hierarchy : Hierarchy R}
    {stream : List (Arrival R)}

omit [Scalar R] in
theorem length_iterate_le
    (shrinks : ∀ stream, (next stream).length ≤ (stream.length + 1) / 2)
    (stream : List (Arrival R))
    (level : Nat) :
    (next^[level] stream).length ≤ stream.length := by
  induction level generalizing stream with
  | zero => exact Nat.le_refl _
  | succ level hypothesis =>
      have rest := hypothesis (next stream)
      have first := shrinks stream
      rw [Function.iterate_succ_apply]
      omega

omit [Scalar R] in
/--
A coarser level receives at most half as many samples as a finer one, rounded
up.
-/
theorem length_iterate_lt
    (shrinks : ∀ stream, (next stream).length ≤ (stream.length + 1) / 2)
    (stream : List (Arrival R))
    {lower higher : Nat}
    (finer : lower < higher) :
    (next^[higher] stream).length ≤ ((next^[lower] stream).length + 1) / 2 := by
  rcases Nat.exists_eq_add_of_lt finer with ⟨between, rfl⟩
  have split :
      next^[lower + between + 1] stream =
        next^[between] (next (next^[lower] stream)) := by
    rw [Nat.add_right_comm, Nat.add_comm, Function.iterate_add_apply,
      Function.iterate_succ_apply']
  rw [split]
  exact Nat.le_trans (length_iterate_le shrinks _ between) (shrinks _)

/-- A level is active once its stream has a value. -/
theorem Carries.activeLevels (carries : Carries width next hierarchy stream) :
    activeLevels hierarchy =
      (List.range hierarchy.length).countP fun level =>
        0 < (next^[level] stream).length := by
  induction hierarchy generalizing stream with
  | nil => rfl
  | cons level above hypothesis =>
      rcases carries with ⟨holds, rest⟩
      have others := hypothesis rest
      rw [Hierarchy.activeLevels] at others ⊢
      rw [List.countP_cons, others, holds.isActive, List.length_cons,
        List.range_succ_eq_map, List.countP_cons, List.countP_map]
      rfl

/--
The sizes of a level are what is left of its stream behind each of its lags.
-/
theorem Carries.size_of_mem
    (carries : Carries width next hierarchy stream)
    {index : Nat}
    {level : Level R}
    (present : hierarchy[index]? = some level)
    {size : Nat}
    (member : size ∈ level.rows.map (·.count)) :
    ∃ lag,
      level.lags.first ≤ lag ∧
      lag < level.lags.stop ∧
      size = (next^[index] stream).length - lag := by
  rw [(carries.holds present).rows, List.map_map] at member
  rcases List.mem_map.mp member with ⟨lag, covered, rfl⟩
  rw [List.mem_range'_1, LagRange.count] at covered
  exact ⟨lag, covered.1, by omega, count_directRow width _ lag⟩

theorem exists_lags_eq
    {gridWidth : Nat}
    {span : R}
    (grid : hierarchy.map (·.lags) = LagGrid.build gridWidth span)
    {index : Nat}
    {level : Level R}
    (present : hierarchy[index]? = some level) :
    ∃ place, level.lags = LagGrid.range gridWidth span index place := by
  have stands : (LagGrid.build gridWidth span)[index]? = some level.lags := by
    rw [← grid, List.getElem?_map, present]
    rfl
  exact (LagGrid.getElem?_build stands).2

/-- Sample sizes never increase along the table. -/
theorem Carries.pairwise_sizes
    {gridWidth : Nat}
    {span : R}
    (carries : Carries width next hierarchy stream)
    (grid : hierarchy.map (·.lags) = LagGrid.build gridWidth span)
    (even : gridWidth % 2 = 0)
    (shrinks : ∀ stream, (next stream).length ≤ (stream.length + 1) / 2) :
    ((rows hierarchy).map (·.count)).Pairwise (· ≥ ·) := by
  rw [rows, List.map_flatMap]
  apply List.pairwise_flatMap.mpr
  constructor
  · intro level member
    rcases List.mem_iff_getElem?.mp member with ⟨index, present⟩
    rw [(carries.holds present).rows, List.map_map]
    apply List.pairwise_map.mpr
    apply List.Pairwise.imp _ List.pairwise_lt_range'
    intro lag later before
    simp only [Function.comp_apply, count_directRow]
    omega
  · apply List.pairwise_iff_getElem.mpr
    intro lower higher within inside finer size member later among
    have presentLower := List.getElem?_eq_getElem within
    have presentHigher := List.getElem?_eq_getElem inside
    rcases carries.size_of_mem presentLower member with ⟨lag, _, below, rfl⟩
    rcases carries.size_of_mem presentHigher among with ⟨other, least, _, rfl⟩
    rcases exists_lags_eq grid presentLower with ⟨_, lagsLower⟩
    rcases exists_lags_eq grid presentHigher with ⟨_, lagsHigher⟩
    have short := LagGrid.stop_range_le gridWidth span lower
    have upperHalf : gridWidth / 2 ≤ other := by
      rw [lagsHigher] at least
      simpa only [LagGrid.range, LagGrid.firstLag,
        if_neg (Nat.ne_zero_of_lt finer)] using
        least
    have halved := length_iterate_lt shrinks stream finer
    have lagBound : lag < gridWidth := by
      rw [lagsLower] at below
      exact Nat.lt_of_lt_of_le below (short _)
    -- Only here does it matter that the width is even: its half rounds neither
    -- up nor down.
    omega

end Hierarchy

/-! ## The lag zero -/

namespace LagGrid

/-- The span of every accepted correlator reaches the lag zero. -/
theorem reaches_zero
    {config : Config Float}
    (sound : config.check = .ok ())
    (interval : Nat) :
    reaches (config.span interval) 0 = true := by
  rcases Config.check_ok sound with ⟨largestLag, timeStep, _, _, _⟩
  have samplingTime : Double.IsUnsigned (config.samplingTime interval) :=
    (Double.isPositive_of_check timeStep).mul (Double.isUnsigned_ofNat interval)
  have span : Double.IsUnsigned (config.span interval) :=
    (Double.isPositive_of_check largestLag).div samplingTime
  rw [reaches, decide_eq_true_eq]
  exact (span.add Double.isUnsigned_billionth).zero_le

end LagGrid

/-! ## Sample sizes of a correlator -/

namespace Correlator

omit [Scalar R] in
theorem getElem?_sampleSizes
    {correlator : Correlator R}
    {index : Nat}
    {row : Row R}
    (present : correlator.rows[index]? = some row) :
    correlator.sampleSizes[index]? = some row.count := by
  rw [sampleSizes, List.getElem?_map, present]
  rfl

variable [Exponential R] {correlator : Correlator R} {raw : List (Arrival R)}

/-- While the run goes on, each halving rounds down. -/
theorem Records.sampleSize
    (records : correlator.Records raw)
    (fitting :
      correlator.config.operation.valueShape correlator.lengthA
          correlator.lengthB =
        .ok correlator.valueShape)
    (laid : LagRange.LaidOut 0 correlator.lags)
    {level : Nat}
    {range : LagRange}
    (present : correlator.lags[level]? = some range)
    {lag : Nat}
    (least : range.first ≤ lag)
    (below : lag < range.stop) :
    correlator.sampleSizes[range.row lag]? =
      some (raw.length / 2 ^ level - lag) := by
  have stands := (records.row fitting laid present least below).1
  rw [getElem?_sampleSizes stands, count_directRow, length_levelStream]

/-- After the end of the run, each halving has rounded up. -/
theorem Records.sampleSize_finalize
    (records : correlator.Records raw)
    (fitting :
      correlator.finalize.config.operation.valueShape
          correlator.finalize.lengthA correlator.finalize.lengthB =
        .ok correlator.finalize.valueShape)
    (laid : LagRange.LaidOut 0 correlator.finalize.lags)
    {level : Nat}
    {range : LagRange}
    (present : correlator.finalize.lags[level]? = some range)
    {lag : Nat}
    (least : range.first ≤ lag)
    (below : lag < range.stop) :
    correlator.finalize.sampleSizes[range.row lag]? =
      some ((raw.length + 2 ^ level - 1) / 2 ^ level - lag) := by
  have stands := (records.row_finalize fitting laid present least below).1
  rw [getElem?_sampleSizes stands, count_directRow, length_finalStream]

theorem Records.activeLevels (records : correlator.Records raw) :
    correlator.activeLevels =
      (List.range correlator.depth).countP (1 ≤ raw.length / 2 ^ ·) := by
  have active := records.follows.carries.activeLevels
  simp only [← levelStream_eq_iterate, length_levelStream] at active
  exact active

theorem Records.activeLevels_finalize (records : correlator.Records raw) :
    correlator.finalize.activeLevels =
      if 1 ≤ raw.length then correlator.finalize.depth else 0 := by
  have active := records.settled.1.activeLevels
  simp only [← finalStream_eq_iterate, length_finalStream] at active
  rw [Correlator.activeLevels, active]
  by_cases some : 1 ≤ raw.length
  · have all : ∀ level ∈ List.range correlator.finalize.hierarchy.length,
        decide (0 < (raw.length + 2 ^ level - 1) / 2 ^ level) = true := by
      intro level _
      exact decide_eq_true (Nat.div_pos (by omega) (Nat.two_pow_pos level))
    rw [if_pos some, List.countP_eq_length.mpr all, List.length_range, depth]
  · have none : ∀ level ∈ List.range correlator.finalize.hierarchy.length,
        ¬decide (0 < (raw.length + 2 ^ level - 1) / 2 ^ level) = true := by
      intro level _
      have positive := Nat.two_pow_pos level
      rw [decide_eq_true_eq, Nat.div_eq_of_lt (by omega)]
      exact Nat.lt_irrefl 0
    rw [if_neg some, List.countP_eq_zero.mpr none]

theorem Records.pairwise_sampleSizes
    (records : correlator.Records raw)
    {width : Nat}
    {span : R}
    (grid : correlator.lags = LagGrid.build width span)
    (even : width % 2 = 0) :
    correlator.sampleSizes.Pairwise (· ≥ ·) := by
  apply records.follows.carries.pairwise_sizes grid even
  intro stream
  rw [length_halve]
  omega

theorem Records.pairwise_sampleSizes_finalize
    (records : correlator.Records raw)
    {width : Nat}
    {span : R}
    (grid : correlator.finalize.lags = LagGrid.build width span)
    (even : width % 2 = 0) :
    correlator.finalize.sampleSizes.Pairwise (· ≥ ·) := by
  apply records.settled.1.pairwise_sizes grid even
  intro stream
  rw [length_halveAll]

end Correlator

/--
The sample size at a lag is what `n / 2 ^ level` leaves behind the lag, rounded
down while a run of `n` samples goes on and up once it was ended; the sizes
never increase and begin with `n`.
-/
theorem sampleSizes_closed_form
    {sourceA : Source}
    {sourceB : Option Source}
    {config : Config Float}
    {interval : Nat}
    {start final : Accumulator Float}
    {requests : List (Request Float)}
    (created :
      Accumulator.correlator sourceA sourceB config interval = .ok start)
    (performed : start.performAll requests = .ok final)
    (goesOn : Request.finalize ∉ requests) :
    ∃ running,
      final.statistic = .correlator running ∧
      let n :=
        (arrivals config.operation sourceA.id (sourceB.getD sourceA).id
          config.arguments requests).length
      let ended := running.finalize
      (∀ level < running.depth,
        ∃ range,
          running.lags[level]? = some range ∧
          ∀ lag,
            range.first ≤ lag →
            lag < range.stop →
            running.sampleSizes[range.row lag]? = some (n / 2 ^ level - lag)) ∧
      (∀ level < ended.depth,
        ∃ range,
          ended.lags[level]? = some range ∧
          ∀ lag,
            range.first ≤ lag →
            lag < range.stop →
            ended.sampleSizes[range.row lag]? =
              some ((n + 2 ^ level - 1) / 2 ^ level - lag)) ∧
      running.activeLevels = (List.range running.depth).countP (1 ≤ n / 2 ^ ·) ∧
      ended.activeLevels = (if 1 ≤ n then ended.depth else 0) ∧
      running.sampleSizes.Pairwise (· ≥ ·) ∧
      ended.sampleSizes.Pairwise (· ≥ ·) ∧
      running.sampleSizes.head? = some n ∧
      ended.sampleSizes.head? = some n ∧
      running.count = n := by
  rcases Accumulator.correlator_ok created with ⟨initial, kind, made⟩
  rcases made.records.performAll kind performed goesOn with
    ⟨running, reached, same, _, records⟩
  rw [made.arrivalsOf_eq, List.nil_append] at records
  have sameEnded := same.trans (Correlator.sameSetup_finalize running)
  have grid := same.lags.trans made.lags
  have gridEnded := sameEnded.lags.trans made.lags
  have width := Config.width_resolve made.sound interval
  rw [← made.resolved] at width
  have wide : 0 < initial.config.linearWidth :=
    Nat.lt_of_lt_of_le Nat.two_pos width.1
  rcases LagGrid.exists_first_range wide
      (LagGrid.reaches_zero made.sound interval) with
    ⟨range, first, least, covered, row⟩
  refine ⟨running, reached, ?_, ?_, records.activeLevels,
    records.activeLevels_finalize, records.pairwise_sampleSizes grid width.2,
    records.pairwise_sampleSizes_finalize gridEnded width.2, ?_, ?_,
    records.count⟩
  · intro level below
    rcases Correlator.exists_range below with ⟨range, present⟩
    exact ⟨range, present,
      fun lag =>
        records.sampleSize (made.fits same) (made.laidOut same) present⟩
  · intro level below
    rcases Correlator.exists_range below with ⟨range, present⟩
    exact ⟨range, present,
      fun lag =>
        records.sampleSize_finalize (made.fits sameEnded)
          (made.laidOut sameEnded) present⟩
  · rw [← grid] at first
    have size :=
      records.sampleSize (made.fits same) (made.laidOut same) first
        least covered
    rw [row, Nat.pow_zero, Nat.div_one, Nat.sub_zero] at size
    rw [List.head?_eq_getElem?, size]
  · rw [← gridEnded] at first
    have size :=
      records.sampleSize_finalize (made.fits sameEnded) (made.laidOut sameEnded)
        first least covered
    rw [row, Nat.pow_zero, Nat.div_one, Nat.sub_zero, Nat.add_sub_cancel]
      at size
    rw [List.head?_eq_getElem?, size]

theorem sampleSizes_closed_form_trial :
    ∃ (start final : Accumulator Float) (running : Correlator Float),
      Accumulator.correlator (trialSource 0) (some (trialSource 1))
          trialConfig 2 =
        .ok start ∧
      start.performAll trialRequests = .ok final ∧
      Request.finalize ∉ trialRequests ∧
      final.statistic = .correlator running ∧
      (∀ level < running.depth,
        ∃ range,
          running.lags[level]? = some range ∧
          ∀ lag,
            range.first ≤ lag →
            lag < range.stop →
            running.sampleSizes[range.row lag]? = some (5 / 2 ^ level - lag)) ∧
      (∀ level < running.finalize.depth,
        ∃ range,
          running.finalize.lags[level]? = some range ∧
          ∀ lag,
            range.first ≤ lag →
            lag < range.stop →
            running.finalize.sampleSizes[range.row lag]? =
              some ((5 + 2 ^ level - 1) / 2 ^ level - lag)) ∧
      running.activeLevels = (List.range running.depth).countP (1 ≤ 5 / 2 ^ ·) ∧
      running.finalize.activeLevels = running.finalize.depth ∧
      running.sampleSizes.Pairwise (· ≥ ·) ∧
      running.finalize.sampleSizes.Pairwise (· ≥ ·) ∧
      running.sampleSizes.head? = some 5 ∧
      running.finalize.sampleSizes.head? = some 5 ∧
      running.count = 5 := by
  rcases trial_accepted with ⟨start, final, created, performed⟩
  rcases sampleSizes_closed_form created performed
      finalize_notMem_trialRequests with
    ⟨running, kind, closedForm⟩
  exact ⟨start, final, running, created, performed,
    finalize_notMem_trialRequests, kind, closedForm⟩

end RunningStatistics
