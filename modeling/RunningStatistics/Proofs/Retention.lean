import RunningStatistics.Proofs.ExactGrid
import RunningStatistics.Proofs.ExactLags
import RunningStatistics.Proofs.LevelHistories
import RunningStatistics.Proofs.ResolvedConfigs
import RunningStatistics.Proofs.TrapFreedom

/-!
# What a correlator retains

However many samples a correlator takes in, each of its levels retains no more
of them than the linear width, and one more that waits for a partner.  Requests
that are refused add nothing, and the end of a run only moves samples from one
level to the next.  In flat memory the levels that no sample has reached are not
even there.

The number of levels grows with the logarithm of the largest lag: all levels but
the coarsest one fall short of it, so that the coarsest one reaches less than
twice as far as it has to.

Samples that enter a level one after another are answered by pairs of them, and
the history of the level holds the latest ones.  A sample is found at the lag by
which it is older than the newest one, and nothing is found beyond the room or
the number of samples.  A level with a buffer that makes room only when it is
full keeps, waits with and answers the same, and counts all samples.  The last
theorem says all this of a level, and the bounds of a correlator in the middle
of a run or after its end.
-/

namespace RunningStatistics

/-! ## Counting samples -/

section Counting

variable {R : Type} {width : Nat}

/--
The number of samples in a history, with the one that waits for a partner.
-/
def History.retained (history : History R) : Nat :=
  history.recent.length + history.unpaired.toList.length

/-- The number of samples in several histories. -/
def retainedIn (histories : List (History R)) : Nat :=
  (histories.map History.retained).sum

/-- The number of samples in the histories of all levels. -/
def Correlator.retained (correlator : Correlator R) : Nat :=
  retainedIn (correlator.hierarchy.map (·.history))

/--
The number of samples in the histories of the levels that samples have reached.
-/
def FlatCorrelator.retained (flat : FlatCorrelator R) : Nat :=
  retainedIn (flat.levels.map (·.history))

/-- A history has room for so many samples and holds no more than that. -/
structure History.Fits (width : Nat) (history : History R) : Prop where
  capacity : history.capacity = width
  within : history.recent.length ≤ width

/--
The histories of all levels have room for so many samples and hold no more.
-/
def Hierarchy.Fits (width : Nat) (hierarchy : Hierarchy R) : Prop :=
  ∀ level ∈ hierarchy, level.history.Fits width

namespace History

variable {history : History R}

theorem Fits.push
    (fits : history.Fits width)
    (sample : Sample R) :
    (history.push sample).1.Fits width where
  capacity := (push_capacity history sample).trans fits.capacity
  within := by
    rw [push_recent, fits.capacity]
    exact List.length_take_le _ _

theorem Fits.dropUnpaired (fits : history.Fits width) :
    history.dropUnpaired.Fits width :=
  ⟨fits.capacity, fits.within⟩

theorem Fits.retained_le (fits : history.Fits width) :
    history.retained ≤ width + 1 :=
  Nat.add_le_add fits.within Option.length_toList_le

end History

theorem retainedIn_le
    {histories : List (History R)}
    (fits : ∀ history ∈ histories, history.Fits width) :
    retainedIn histories ≤ histories.length * (width + 1) := by
  have bound : ∀ count ∈ histories.map History.retained, count ≤ width + 1 := by
    rw [List.forall_mem_map]
    exact fun history member => (fits history member).retained_le
  have total := List.sum_le_card_nsmul _ _ bound
  rwa [List.length_map, smul_eq_mul] at total

theorem retainedIn_mono
    {some all : List (History R)}
    (part : some.Sublist all) :
    retainedIn some ≤ retainedIn all :=
  (part.map History.retained).sum_le_sum fun count _ => Nat.zero_le count

theorem Correlator.retained_le
    {correlator : Correlator R}
    (fits : correlator.hierarchy.Fits width) :
    correlator.retained ≤ correlator.depth * (width + 1) := by
  have bound := retainedIn_le (List.forall_mem_map.mpr fits)
  rwa [List.length_map] at bound

/-- The levels that samples have reached are the finest ones. -/
theorem Hierarchy.histories_reached_prefix
    (next : List (Arrival R) → List (Arrival R))
    (hierarchy : Hierarchy R)
    (stream : List (Arrival R)) :
    (hierarchy.reached next stream).map (·.history) <+:
      hierarchy.map (·.history) := by
  induction hierarchy generalizing stream with
  | nil => exact List.prefix_rfl
  | cons level above hypothesis =>
      rw [reached]
      split
      · exact List.nil_prefix
      · exact (List.prefix_cons_inj level.history).mpr (hypothesis _)

end Counting

variable {R : Type} [Scalar R]

/-! ## Samples that rise -/

namespace Hierarchy

variable {width : Nat} {hierarchy : Hierarchy R}

theorem fits_empty
    (width size : Nat)
    (grid : List LagRange) :
    Fits width (empty width size grid : Hierarchy R) := by
  induction grid with
  | nil => exact List.forall_mem_nil _
  | cons lags above hypothesis =>
      exact List.forall_mem_cons.mpr ⟨⟨rfl, Nat.zero_le width⟩, hypothesis⟩

/-- Each level that a sample reaches gives up its oldest one, if it has to. -/
theorem Fits.ingest
    (fits : Fits width hierarchy)
    (rules : Rules R)
    (sample : Sample R) :
    Fits width (ingest rules hierarchy sample) := by
  induction hierarchy generalizing sample with
  | nil => exact List.forall_mem_nil _
  | cons level above hypothesis =>
      rcases List.forall_mem_cons.mp fits with ⟨own, rest⟩
      rw [ingest_cons]
      refine List.forall_mem_cons.mpr ⟨own.push sample, ?_⟩
      cases (level.receive rules sample).2 with
      | none => exact rest
      | some both => exact hypothesis rest _

/--
At the end of a run a level takes in what is carried upwards, or gives up what
waits.
-/
theorem Fits.flush
    (fits : Fits width hierarchy)
    (rules : Rules R)
    (carried : Option (Sample R)) :
    Fits width (flush rules carried hierarchy) := by
  induction hierarchy generalizing carried with
  | nil => cases carried <;> exact List.forall_mem_nil _
  | cons level above hypothesis =>
      rcases List.forall_mem_cons.mp fits with ⟨own, rest⟩
      -- What a level does when nothing is carried is also what it does after it
      -- has taken that in.
      have idle : ∀ level : Level R, level.history.Fits width →
          Fits width (Hierarchy.flush rules none (level :: above)) := by
        intro level own
        rw [flush_cons_none]
        cases level.history.unpaired with
        | none => exact List.forall_mem_cons.mpr ⟨own, hypothesis rest none⟩
        | some waiting =>
            exact List.forall_mem_cons.mpr ⟨own.dropUnpaired, hypothesis rest _⟩
      cases carried with
      | none => exact idle level own
      | some sample =>
          rw [flush_cons_some]
          cases (level.receive rules sample).2 with
          | none => exact idle _ (own.push sample)
          | some both =>
              exact List.forall_mem_cons.mpr
                ⟨own.push sample, hypothesis rest _⟩

end Hierarchy

/-! ## Requests -/

section Requests

variable [Exponential R] {correlator after : Correlator R}

/--
What a request does to a correlator leaves no level with more samples than the
linear width.
-/
theorem Correlator.Step.fits
    {request : Request R}
    (step : correlator.Step request after)
    (fits : correlator.hierarchy.Fits correlator.config.linearWidth) :
    after.hierarchy.Fits after.config.linearWidth := by
  rw [step.sameSetup.linearWidth]
  cases step with
  | receive handed running fitsA fitsB => exact fits.ingest _ _
  | finalize =>
      rw [Correlator.finalize]
      split
      · exact fits
      · exact fits.flush _ none
  | setArguments accepted => exact fits
  | reschedule => exact fits

/-- After any requests a correlator retains a bounded number of samples. -/
theorem Accumulator.exists_retained
    {sourceA : Source}
    {sourceB : Option Source}
    {config : Config R}
    {interval : Nat}
    {start : Accumulator R}
    (created :
      Accumulator.correlator sourceA sourceB config interval = .ok start)
    (requests : List (Request R)) :
    ∃ correlator,
      (start.afterAll requests).statistic = .correlator correlator ∧
      correlator.retained ≤
        correlator.depth * (correlator.config.linearWidth + 1) := by
  rcases Accumulator.blank_ok created with ⟨initial, kind, _, empty⟩
  have begun : initial.hierarchy.Fits initial.config.linearWidth := by
    rw [empty]
    exact Hierarchy.fits_empty _ _ _
  rcases Accumulator.afterAll_of_step Correlator.Step.fits kind
      begun requests with
    ⟨correlator, reached, _, fits⟩
  exact ⟨correlator, reached, Correlator.retained_le fits⟩

/--
In flat memory only some of the samples are there that a correlator retains.
-/
theorem FlatCorrelator.Shows.retained_le
    {flat : FlatCorrelator R}
    {accumulator : Accumulator R}
    {course : Course R}
    (shows : flat.Shows accumulator correlator course) :
    flat.levels.length ≤ correlator.depth ∧
    flat.retained ≤ correlator.retained := by
  rw [shows.held]
  exact ⟨Hierarchy.length_reached_le _ _,
    retainedIn_mono (Hierarchy.histories_reached_prefix _ _ _).sublist⟩

theorem Correlator.Created.depth
    {initial : Correlator R}
    {sourceA : Source}
    {sourceB : Option Source}
    {config : Config R}
    {interval : Nat}
    (made : initial.Created sourceA sourceB config interval)
    (same : initial.SameSetup correlator) :
    correlator.depth =
      LagGrid.coarsest correlator.config.linearWidth
        (correlator.config.largestLag / correlator.samplingTime) + 1 := by
  have span :
      correlator.config.largestLag / correlator.samplingTime =
        config.span interval := by
    rw [← made.span same, Config.span, Config.samplingTime,
      made.samplingTime_eq same, made.timeStep_eq same]
  rw [Correlator.depth_eq, same.lags, made.lags, LagGrid.length_build, span,
    same.linearWidth]

end Requests

/-! ## The number of levels -/

/--
The coarsest level reaches less than twice as far as the span, unless it is the
only one.
-/
theorem LagGrid.reach_coarsest_lt
    {width : Nat}
    (positive : 0 < width)
    (span : Rat) :
    (width : Rat) * 2 ^ coarsest width span < 2 * max span width := by
  cases top : coarsest width span with
  | zero =>
      have width_pos : (0 : Rat) < width := Nat.cast_pos.mpr positive
      have covered := le_max_right span (width : Rat)
      rw [pow_zero, mul_one]
      linarith
  | succ below =>
      have short : (width : Rat) * 2 ^ below < span - 1 / 10 ^ 9 := by
        rw [← fallsShort_iff]
        exact fallsShort_of_lt_coarsest (by omega)
      have covered := le_max_left span (width : Rat)
      calc (width : Rat) * 2 ^ (below + 1) = 2 * (width * 2 ^ below) := by ring
        _ < 2 * span := by linarith
        _ ≤ 2 * max span width := by linarith

/--
A level remembers the latest samples in the order in which they came, and after
any requests a correlator retains no more than the linear width and one sample
for each of its levels, of which there are few.
-/
theorem levels_retain_latest_samples :
    (∀ {R : Type} {capacity : Nat},
      0 < capacity →
      ∀ (promotes : Bool) (samples : List (Sample R)),
        let run :=
          answerAll History.push (History.empty capacity promotes) samples
        let stored :=
          answerAll LevelBuffer.push
            (LevelBuffer.start capacity promotes) samples
        run.1.capacity = capacity ∧
        run.1.promotes = promotes ∧
        run.1.Remembers samples run.2 ∧
        run.1.recent.length = min samples.length capacity ∧
        (∀ lag < min samples.length capacity,
          run.1.lagged lag = samples[samples.length - 1 - lag]?) ∧
        (∀ lag, min samples.length capacity ≤ lag → run.1.lagged lag = none) ∧
        stored.1.kept = run.1.recent ∧
        stored.1.pending = run.1.unpaired ∧
        stored.2 = run.2 ∧
        stored.1.received = samples.length) ∧
    (∀ {R : Type} [Scalar R] [Exponential R] {sourceA : Source}
        {sourceB : Option Source} {config : Config R} {interval : Nat}
        {start : Accumulator R},
      Accumulator.correlator sourceA sourceB config interval = .ok start →
      ∀ requests,
        ∃ correlator,
          (start.afterAll requests).statistic = .correlator correlator ∧
          correlator.retained ≤
            correlator.depth * (correlator.config.linearWidth + 1) ∧
          ((start.afterAll requests).updates < 2 ^ 64 →
           ∃ flat last,
             FlatCorrelator.create sourceA sourceB config interval = .ok flat ∧
             flat.afterAll (flat.lags.length - ·) requests = .ok last ∧
             last.levels.length ≤ correlator.depth ∧
             last.retained ≤ correlator.retained)) ∧
    (∀ [Exponential Rat] {sourceA : Source} {sourceB : Option Source}
        {config : Config Rat} {interval : Nat} {start : Accumulator Rat},
      Accumulator.correlator sourceA sourceB config interval = .ok start →
      ∀ requests,
        ∃ correlator,
          (start.afterAll requests).statistic = .correlator correlator ∧
          0 < correlator.depth ∧
          (correlator.config.linearWidth : Rat) * 2 ^ (correlator.depth - 1) <
            2 *
              max (correlator.config.largestLag / correlator.samplingTime)
                correlator.config.linearWidth) := by
  refine ⟨?_, ?_, ?_⟩
  · intro R capacity capacious promotes samples run stored
    rcases History.remembers_answerAll capacity promotes samples with
      ⟨room, kind, remembers⟩
    refine ⟨room, kind, remembers, ?_, ?_, ?_,
      LevelBuffer.answerAll_start capacious promotes samples⟩
    · rw [remembers.length_recent, room]
    · intro lag within
      exact remembers.lagged (room.symm ▸ within)
    · intro lag beyond
      exact remembers.lagged_of_le (room.symm ▸ beyond)
  · intro R _ _ sourceA sourceB config interval start created requests
    rcases Accumulator.exists_retained created requests with
      ⟨correlator, reached, bound⟩
    refine ⟨correlator, reached, bound, ?_⟩
    intro few
    rcases FlatCorrelator.exists_shows created few with
      ⟨flat, last, shown, course, made, ended, shows⟩
    cases reached.symm.trans shows.kind
    exact ⟨flat, last, made, ended, shows.retained_le⟩
  · intro _ sourceA sourceB config interval start created requests
    rcases Accumulator.exists_afterAll created requests with
      ⟨initial, correlator, reached, made, same, _⟩
    have depth := made.depth same
    have wide : 0 < correlator.config.linearWidth :=
      Nat.lt_of_lt_of_le Nat.two_pos (made.width same).1
    refine ⟨correlator, reached, ?_, ?_⟩
    · rw [depth]
      exact Nat.succ_pos _
    · rw [depth, Nat.add_sub_cancel]
      exact LagGrid.reach_coarsest_lt wide _

/-- Three samples, of which a level with room for two forgets the first. -/
def trialTriple : List (Sample Nat) :=
  [⟨[1], [4]⟩, ⟨[2], [5]⟩, ⟨[3], [6]⟩]

theorem levels_retain_latest_samples_trial :
    (let run :=
       answerAll History.push (History.empty 2 true) trialTriple
         let stored := answerAll LevelBuffer.push (LevelBuffer.start 2 true)
           trialTriple
     run.1.Remembers trialTriple run.2 ∧
     run.1.lagged 1 = some ⟨[2], [5]⟩ ∧
     run.1.lagged 2 = none ∧
     stored.2 = run.2 ∧
     stored.1.received = 3) ∧
    (∃ (start : Accumulator Float) (correlator : Correlator Float)
        (flat last : FlatCorrelator Float),
      Accumulator.correlator (trialSource 0) (some (trialSource 1))
          trialConfig 2 =
        .ok start ∧
      (start.afterAll trialRequestsBeyondEnd).statistic =
        .correlator correlator ∧
      correlator.retained ≤
        correlator.depth * (correlator.config.linearWidth + 1) ∧
      FlatCorrelator.create (trialSource 0) (some (trialSource 1))
          trialConfig 2 =
        .ok flat ∧
      flat.afterAll (flat.lags.length - ·) trialRequestsBeyondEnd = .ok last ∧
      last.retained ≤ correlator.retained) ∧
    ∃ (_ : Exponential Rat) (start : Accumulator Rat)
        (correlator : Correlator Rat),
      Accumulator.correlator ⟨⟨0⟩, [1]⟩ none trialMotion 1 = .ok start ∧
      (start.afterAll trialPlaces).statistic = .correlator correlator ∧
      (correlator.config.linearWidth : Rat) * 2 ^ (correlator.depth - 1) <
        2 *
          max (correlator.config.largestLag / correlator.samplingTime)
            correlator.config.linearWidth := by
  refine ⟨?_, ?_, ?_⟩
  · rcases levels_retain_latest_samples.1 (Nat.succ_pos 1) true trialTriple with
      ⟨_, _, remembers, _, found, beyond, _, _, answers, received⟩
    exact ⟨remembers, found 1 (by decide), beyond 2 (by decide), answers,
      received⟩
  · have accepted :
        (Accumulator.correlator (trialSource 0) (some (trialSource 1))
          trialConfig 2).toBool = true := by
      decide +kernel
    have few :
        ((Accumulator.correlator (trialSource 0) (some (trialSource 1))
           trialConfig 2).map fun start =>
          decide ((start.afterAll trialRequestsBeyondEnd).updates < 2 ^ 64)) =
          .ok true := by
      decide +kernel
    rcases exists_ok accepted with ⟨start, created⟩
    rcases levels_retain_latest_samples.2.1 created trialRequestsBeyondEnd with
      ⟨correlator, reached, bound, lazily⟩
    rw [created] at few
    rcases lazily (of_decide_eq_true (Except.ok.inj few)) with
      ⟨flat, last, made, ended, _, fewer⟩
    exact ⟨start, correlator, flat, last, created, reached, bound, made,
      ended, fewer⟩
  · let exponential := Exponential.tangent
    have accepted :
        (Accumulator.correlator ⟨⟨0⟩, [1]⟩ none trialMotion 1).toBool =
          true := by
      decide +kernel
    rcases exists_ok accepted with ⟨start, created⟩
    rcases levels_retain_latest_samples.2.2 created trialPlaces with
      ⟨correlator, reached, _, bound⟩
    exact ⟨exponential, start, correlator, created, reached, bound⟩

end RunningStatistics
