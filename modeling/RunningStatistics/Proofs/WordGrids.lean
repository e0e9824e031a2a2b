import RunningStatistics.Proofs.Binary64Scaling
import RunningStatistics.Proofs.Courses

/-!
# Grids of lags in machine words

The grid of lags is defined over natural numbers, with a bounded search for the
coarsest level.  A program has words of 64 bits instead, converts them to
doubles, and has loops that end only if their conditions fail at last.

The programs of this module do that, and break off where a word wraps, where a
conversion to a double would round, or where a loop has used up its turns.  For
the widths and spans of accepted parameters they never do.  No step of the
program looks for this: it follows from the limit on the span, together with the
coarsest level being the first one that does not fall short.

So the derived width is a word, the loop over the levels stops, with at most 52
of them, and the loops over their lags stop.  The programs make the grid of the
definition and the lags of its rows.  Every multiple that they compare with the
span, the one at which a level ends included, is a double.
-/

namespace RunningStatistics

/-- Why a program on words breaks off. -/
inductive WordFault where
  /-- A result does not fit in 64 bits. -/
  | overflow
  /-- A word is not known to be a double. -/
  | inexact
  /-- The turns of a loop are used up. -/
  | endless
  deriving DecidableEq

namespace Word

/-- A result that has to fit in 64 bits. -/
def fit (result : Nat) : Except WordFault Nat :=
  if result < 2 ^ 64 then .ok result else .error .overflow

/-- One, shifted by less than the 64 bits of a word. -/
def bit (level : Nat) : Except WordFault Nat :=
  if level < 64 then .ok (1 <<< level) else .error .overflow

/--
The double of a word, which has to be below `2 ^ 53` so that nothing is rounded.
-/
def toDouble (word : Nat) : Except WordFault Float :=
  if word < 2 ^ 53 then .ok (Scalar.ofNat word) else .error .inexact

theorem fit_ok
    {result : Nat}
    (bounded : result < 2 ^ 64) :
    fit result = .ok result :=
  if_pos bounded

theorem bit_ok
    {level : Nat}
    (bounded : level < 64) :
    bit level = .ok (LagGrid.stride level) :=
  if_pos bounded

theorem toDouble_ok
    {word : Nat}
    (small : word < 2 ^ 53) :
    toDouble word = .ok (Scalar.ofNat word) :=
  if_pos small

end Word

namespace WordGrid

/-! ## Programs -/

/--
The even width that resolves a span; a number beyond all words becomes the
largest word.
-/
def wholeWidth (span : Float) : Except WordFault Nat :=
  let width :=
    max 2 (min (2 ^ 64 - 1) (Scalar.ceilNat (span - Scalar.billionth)))
  Word.fit (width + width % 2)

/-- The width that a requested one stands for. -/
def resolve (width : Nat) (span : Float) : Except WordFault Nat :=
  if width = 1 then wholeWidth span else .ok width

variable (width : Nat) (span : Float)

/--
Count levels, in so many turns, as long as the next one falls short of the span.
-/
def countLevels : (turns top : Nat) → Except WordFault Nat
  | 0, _ => .error .endless
  | turns + 1, top =>
      if Scalar.ofNat width * Scalar.ofNat (2 ^ top) <
          span - Scalar.billionth then
        countLevels turns (top + 1)
      else
        .ok top

/--
Collect the lags of a level, in so many turns, and return the end of the level
with them.
-/
def collect (stride : Nat) :
    (turns lag : Nat) → List Nat → Except WordFault (Nat × List Nat)
  | 0, _, _ => .error .endless
  | turns + 1, lag, steps =>
      if lag < width then do
        let step ← Word.fit (lag * stride)
        let number ← Word.toDouble step
        if number ≤ span + Scalar.billionth then
          let next ← Word.fit (lag + 1)
          collect stride turns next (steps ++ [step])
        else
          return (lag, steps)
      else
        .ok (lag, steps)

/-- Collect the lags of `count` levels, each in so many turns. -/
def fill (turns : Nat) :
    (count level : Nat) →
    List LagRange →
    List Nat →
    Except WordFault (List LagRange × List Nat)
  | 0, _, ranges, steps => .ok (ranges, steps)
  | count + 1, level, ranges, steps => do
      let first := if level = 0 then 0 else width / 2
      let stride ← Word.bit level
      let (stop, collected) ← collect width span stride turns first steps
      fill turns count (level + 1)
        (ranges ++ [⟨first, stop, stride, steps.length⟩]) collected

/-- The ranges of all levels and the lags of all rows. -/
def build (turns : Nat) : Except WordFault (List LagRange × List Nat) := do
  let top ← countLevels width span turns 0
  fill width span turns (top + 1) 0 [] []

end WordGrid

/-! ## Bounds -/

namespace LagGrid

/-- Lags that a level covers lie within the span. -/
theorem reaches_of_lt_lagEnd
    {R : Type}
    [Scalar R]
    {span : R}
    {stride room first lag : Nat}
    (least : first ≤ lag)
    (below : lag < lagEnd span stride room first) :
    reaches span (lag * stride) = true := by
  induction room generalizing first with
  | zero => exact absurd below (Nat.not_lt.mpr least)
  | succ room hypothesis =>
      rw [lagEnd] at below
      split at below
      next reached =>
        rcases Nat.eq_or_lt_of_le least with rfl | later
        · exact reached
        · exact hypothesis later below
      next => exact absurd below (Nat.not_lt.mpr least)

variable {width : Nat} {span : Float}

/-- A level that falls short has fewer than `2 ^ 52` intervals in its width. -/
theorem width_mul_lt
    (spans : Double.IsSpan span)
    {level : Nat}
    (short : fallsShort width span (stride level) = true) :
    width * 2 ^ level < 2 ^ 52 := by
  rw [fallsShort, decide_eq_true_iff, stride_eq] at short
  exact spans.lt_of_lt_margin short

/-- There are at most 52 levels. -/
theorem coarsest_le_of_isSpan
    (spans : Double.IsSpan span)
    (wide : 2 ≤ width) :
    coarsest width span ≤ 51 := by
  by_contra deeper
  have short :=
    width_mul_lt spans (fallsShort_of_lt_coarsest (Nat.not_le.mp deeper))
  omega

/-- The coarsest level does not fall short. -/
theorem not_fallsShort_coarsest
    (spans : Double.IsSpan span)
    (wide : 2 ≤ width) :
    fallsShort width span (stride (coarsest width span)) = false := by
  have reached : fallsShort width span (stride 51) = false := by
    rw [Bool.eq_false_iff]
    intro short
    have below := width_mul_lt spans short
    omega
  exact fallsShort_coarsest (by decide) reached

/--
All lags up to the end of a level are less than `2 ^ 53` intervals: the first
one is less than the width of the level below, which falls short, and any other
follows a lag within the span.
-/
theorem lag_mul_lt
    (spans : Double.IsSpan span)
    (wide : 2 ≤ width)
    {level lag offset : Nat}
    (finer : level ≤ coarsest width span)
    (least : firstLag width level ≤ lag)
    (within : lag ≤ (range width span level offset).stop) :
    lag * stride level < 2 ^ 53 := by
  rcases Nat.eq_or_lt_of_le least with rfl | later
  · cases level with
    | zero =>
        exact Nat.lt_of_le_of_lt (Nat.le_of_eq (Nat.zero_mul _)) (by decide)
    | succ level =>
        have below := width_mul_lt spans (fallsShort_of_lt_coarsest finer)
        have half : width / 2 * 2 ≤ width := Nat.div_mul_le_self width 2
        calc firstLag width (level + 1) * stride (level + 1)
            = width / 2 * 2 * 2 ^ level := by
              rw [firstLag, if_neg (Nat.succ_ne_zero level), stride_eq,
                pow_succ]
              ring
          _ ≤ width * 2 ^ level := Nat.mul_le_mul_right _ half
          _ < 2 ^ 53 := below.trans (by decide)
  · rcases Nat.exists_eq_succ_of_ne_zero (Nat.ne_zero_of_lt later) with
      ⟨lag, rfl⟩
    have reached :=
      reaches_of_lt_lagEnd (Nat.le_of_lt_succ later) (Nat.lt_of_succ_le within)
    rw [reaches, decide_eq_true_iff] at reached
    have step : stride level ≤ 2 ^ 51 := by
      rw [stride_eq]
      exact Nat.pow_le_pow_right Nat.two_pos
        (finer.trans (coarsest_le_of_isSpan spans wide))
    calc
      (lag + 1) * stride level = lag * stride level + stride level :=
        Nat.succ_mul lag _
      _ ≤ 2 ^ 52 + 1 + 2 ^ 51 :=
        Nat.add_le_add (spans.le_of_le_reach reached) step
      _ < 2 ^ 53 := by decide

end LagGrid

/-! ## Results of the programs -/

namespace WordGrid

variable {width : Nat} {span : Float}

theorem wholeWidth_ok (spans : Double.IsSpan span) :
    wholeWidth span = .ok (LagGrid.wholeWidth span) := by
  have bounded := spans.wholeWidth_le
  have same : min (2 ^ 64 - 1) (Scalar.ceilNat (span - Scalar.billionth)) =
      Scalar.ceilNat (span - Scalar.billionth) := by
    rw [LagGrid.wholeWidth] at bounded
    apply Nat.min_eq_right
    omega
  rw [wholeWidth, same]
  exact Word.fit_ok (bounded.trans_lt (by decide))

/--
The product of the doubles falls short if and only if the product of the words
does.
-/
theorem lt_margin_iff
    (positive : 0 < width)
    (word : width < 2 ^ 64)
    {level : Nat}
    (small : level ≤ 1023) :
    Scalar.ofNat width * Scalar.ofNat (2 ^ level) < span - Scalar.billionth ↔
      LagGrid.fallsShort width span (LagGrid.stride level) = true := by
  rw [LagGrid.fallsShort, decide_eq_true_iff, LagGrid.stride_eq]
  exact (Double.isNearest_mul_two_pow positive word small).lt_iff_lt
    (Double.isNearest_ofNat _)

/-- The unbounded loop over the levels ends with the coarsest one. -/
theorem countLevels_ok
    (spans : Double.IsSpan span)
    (wide : 2 ≤ width)
    (word : width < 2 ^ 64)
    {turns top : Nat}
    (finer : top ≤ LagGrid.coarsest width span)
    (enough : LagGrid.coarsest width span - top < turns) :
    countLevels width span turns top = .ok (LagGrid.coarsest width span) := by
  have few := LagGrid.coarsest_le_of_isSpan spans wide
  have short_iff : ∀ {level}, level ≤ 51 →
      (Scalar.ofNat width * Scalar.ofNat (2 ^ level) < span - Scalar.billionth ↔
        LagGrid.fallsShort width span (LagGrid.stride level) = true) :=
    fun below => lt_margin_iff (by omega) word (by omega)
  induction turns generalizing top with
  | zero => exact absurd enough (Nat.not_lt_zero _)
  | succ turns hypothesis =>
      rw [countLevels]
      rcases Nat.eq_or_lt_of_le finer with rfl | deeper
      · rw [if_neg]
        rw [short_iff few, LagGrid.not_fallsShort_coarsest spans wide]
        exact Bool.false_ne_true
      · rw [if_pos ((short_iff (finer.trans few)).mpr
              (LagGrid.fallsShort_of_lt_coarsest deeper))]
        exact hypothesis deeper (by omega)

/-- The loop over the lags of a level ends where the level does. -/
theorem collect_ok
    {stride room lag : Nat}
    (whole : lag + room = width)
    (word : width < 2 ^ 64)
    (small :
      ∀ other,
        lag ≤ other →
        other ≤ LagGrid.lagEnd span stride room lag →
        other * stride < 2 ^ 53)
    {turns : Nat}
    (enough : LagGrid.lagEnd span stride room lag - lag < turns)
    (steps : List Nat) :
    collect width span stride turns lag steps =
      .ok (LagGrid.lagEnd span stride room lag,
        steps ++
          (List.range' lag (LagGrid.lagEnd span stride room lag - lag)).map
            (· * stride)) := by
  rcases Nat.exists_eq_succ_of_ne_zero (Nat.ne_zero_of_lt enough) with
    ⟨turns, rfl⟩
  induction room generalizing lag turns steps with
  | zero =>
      rw [collect, if_neg (by omega), LagGrid.lagEnd, Nat.sub_self,
        List.range'_zero, List.map_nil, List.append_nil]
  | succ room hypothesis =>
      have start :=
        small lag (Nat.le_refl lag) (LagGrid.le_lagEnd span stride _ lag)
      rw [collect, if_pos (by omega), Word.fit_ok (start.trans (by decide))]
      show (Word.toDouble (lag * stride) >>= _) = _
      rw [Word.toDouble_ok start]
      rw [LagGrid.lagEnd] at small enough ⊢
      by_cases reached : LagGrid.reaches span (lag * stride) = true
      · rw [if_pos reached] at small enough ⊢
        rw [LagGrid.reaches, decide_eq_true_iff] at reached
        have beyond := LagGrid.le_lagEnd span stride room (lag + 1)
        have split :
            LagGrid.lagEnd span stride room (lag + 1) - lag =
              LagGrid.lagEnd span stride room (lag + 1) - (lag + 1) + 1 := by
          omega
        rcases Nat.exists_eq_succ_of_ne_zero (n := turns) (by omega) with
          ⟨turns, rfl⟩
        show
          (if Scalar.ofNat (lag * stride) ≤ span + Scalar.billionth then
            _
          else
            _) = _
        rw [if_pos reached, Word.fit_ok (by omega)]
        show
          collect width span stride (turns + 1) (lag + 1)
            (steps ++ [lag * stride]) = _
        rw [hypothesis (by omega)
            (fun other later => small other (Nat.le_of_succ_le later)) _ turns
            (by omega), split, List.range'_succ, List.map_cons,
          List.append_assoc, List.singleton_append]
      · rw [if_neg reached, Nat.sub_self]
        rw [LagGrid.reaches, decide_eq_true_iff] at reached
        show
          (if Scalar.ofNat (lag * stride) ≤ span + Scalar.billionth then
            _
          else
            _) = _
        rw [if_neg reached, List.range'_zero, List.map_nil, List.append_nil]
        rfl

/-- The loop over the lags of any level makes the range of this level. -/
theorem collect_range_ok
    (spans : Double.IsSpan span)
    (wide : 2 ≤ width)
    (word : width < 2 ^ 64)
    {turns : Nat}
    (enough : 2 ^ 53 ≤ turns)
    {level : Nat}
    (finer : level ≤ LagGrid.coarsest width span)
    (offset : Nat)
    (steps : List Nat) :
    collect width span (LagGrid.stride level) turns
        (LagGrid.firstLag width level) steps =
      .ok ((LagGrid.range width span level offset).stop,
        steps ++ (LagGrid.range width span level offset).steps) := by
  have whole :
      LagGrid.firstLag width level +
        (width - LagGrid.firstLag width level) = width :=
    Nat.add_sub_cancel' (LagGrid.firstLag_le width level)
  have small : ∀ other, LagGrid.firstLag width level ≤ other →
      other ≤ (LagGrid.range width span level offset).stop →
        other * LagGrid.stride level < 2 ^ 53 :=
    fun other => LagGrid.lag_mul_lt spans wide finer
  -- There are no more turns than intervals up to the last lag, which are few.
  have positive : 0 < LagGrid.stride level := by
    rw [LagGrid.stride_eq]
    exact Nat.two_pow_pos level
  have turned :
      (LagGrid.range width span level offset).stop -
        LagGrid.firstLag width level < turns :=
    calc
      (LagGrid.range width span level offset).stop -
            LagGrid.firstLag width level ≤
          (LagGrid.range width span level offset).stop :=
        Nat.sub_le _ _
      _ ≤ (LagGrid.range width span level offset).stop * LagGrid.stride level :=
          Nat.le_mul_of_pos_right _ positive
      _ < 2 ^ 53 := small _ (LagGrid.le_lagEnd span _ _ _) (Nat.le_refl _)
      _ ≤ turns := enough
  exact collect_ok whole word small turned steps

/--
The loop over the levels makes the ranges one after another, and the lags of all
of them.
-/
theorem fill_ok
    (spans : Double.IsSpan span)
    (wide : 2 ≤ width)
    (word : width < 2 ^ 64)
    {turns : Nat}
    (enough : 2 ^ 53 ≤ turns)
    {count level : Nat}
    (finer : level + count = LagGrid.coarsest width span + 1)
    (ranges : List LagRange)
    (steps : List Nat) :
    fill width span turns count level ranges steps =
      .ok (ranges ++ LagGrid.ranges width span count level steps.length,
        steps ++
          (LagGrid.ranges width span count level steps.length).flatMap
            LagRange.steps) := by
  induction count generalizing level ranges steps with
  | zero =>
      rw [fill, LagGrid.ranges, List.flatMap_nil, List.append_nil,
        List.append_nil]
  | succ count hypothesis =>
      have few := LagGrid.coarsest_le_of_isSpan spans wide
      have covered :=
        collect_range_ok spans wide word enough (show level ≤ _ by omega)
          steps.length steps
      rw [fill, Word.bit_ok (by omega)]
      show
        (collect width span (LagGrid.stride level) turns
          (LagGrid.firstLag width level) steps >>=
          _) = _
      rw [covered]
      show fill width span turns count (level + 1)
        (ranges ++ [LagGrid.range width span level steps.length])
        (steps ++ (LagGrid.range width span level steps.length).steps) = _
      rw [hypothesis (by omega), List.length_append, LagRange.length_steps,
        List.append_assoc, List.append_assoc]
      rfl

theorem build_ok
    (spans : Double.IsSpan span)
    (wide : 2 ≤ width)
    (word : width < 2 ^ 64)
    {turns : Nat}
    (enough : 2 ^ 53 ≤ turns) :
    build width span turns =
      .ok (LagGrid.build width span,
        (LagGrid.build width span).flatMap LagRange.steps) := by
  have few := LagGrid.coarsest_le_of_isSpan spans wide
  rw [build, countLevels_ok spans wide word (Nat.zero_le _) (by omega)]
  exact fill_ok spans wide word enough (Nat.zero_add _) [] []

example :
    (build 4 (Scalar.ofNat 9) 52).map (·.2) = .ok [0, 1, 2, 3, 4, 6, 8] := by
  decide +kernel

/-- An accepted width, given or derived, is a positive even word. -/
theorem resolve_ok
    (spans : Double.IsSpan span)
    (accepted : Config.isWidth width = true)
    (word : width < 2 ^ 64) :
    ∃ resolved,
      resolve width span = .ok resolved ∧
      resolved = (if width = 1 then LagGrid.wholeWidth span else width) ∧
      2 ≤ resolved ∧
      resolved % 2 = 0 ∧
      resolved < 2 ^ 64 := by
  by_cases derived : width = 1
  · have bounded := spans.wholeWidth_le
    refine ⟨LagGrid.wholeWidth span, ?_, (if_pos derived).symm, ?_, ?_,
      bounded.trans_lt (by decide)⟩
    · rw [resolve, if_pos derived]
      exact wholeWidth_ok spans
    · simp only [LagGrid.wholeWidth]
      omega
    · simp only [LagGrid.wholeWidth]
      omega
  · simp [Config.isWidth, derived] at accepted
    exact ⟨width, if_neg derived, (if_neg derived).symm, accepted.1,
      accepted.2, word⟩

end WordGrid

/--
The grid of every accepted correlator whose linear width is a word is made
without overflow, rounding or an endless loop, and so is that of every accepted
width and every span from zero to `2 ^ 52`.
-/
theorem grid_fits_words :
    (∀ {width : Nat} {span : Float},
      Config.isWidth width = true →
      width < 2 ^ 64 →
      Scalar.zero ≤ span →
      span ≤ Scalar.ofNat spanLimit →
      ∃ resolved,
        WordGrid.resolve width span = .ok resolved ∧
        resolved = (if width = 1 then LagGrid.wholeWidth span else width) ∧
        2 ≤ resolved ∧
        resolved % 2 = 0 ∧
        resolved < 2 ^ 64 ∧
        LagGrid.coarsest resolved span ≤ 51 ∧
        (∀ turns,
          52 ≤ turns →
          WordGrid.countLevels resolved span turns 0 =
            .ok (LagGrid.coarsest resolved span)) ∧
        (∀ turns,
          2 ^ 53 ≤ turns →
          WordGrid.build resolved span turns =
            .ok (LagGrid.build resolved span,
              (LagGrid.build resolved span).flatMap LagRange.steps)) ∧
        ∀ {level : Nat} {range : LagRange} {lag : Nat},
          (LagGrid.build resolved span)[level]? = some range →
          range.first ≤ lag →
          lag ≤ range.stop →
          lag * range.stride < 2 ^ 53 ∧
          Double.Denotes (Scalar.ofNat (lag * range.stride))
            (lag * range.stride : Nat)) ∧
    (∀ {config : Config Float} {interval : Nat},
      config.validate = .ok () →
      0 < interval →
      Scalar.zero ≤ config.span interval ∧
      config.span interval ≤ Scalar.ofNat spanLimit) ∧
    ∀ {sourceA : Source} {sourceB : Option Source} {config : Config Float}
        {interval : Nat} {start : Accumulator Float},
      Accumulator.correlator sourceA sourceB config interval = .ok start →
      config.linearWidth < 2 ^ 64 →
      ∃ correlator,
        start.statistic = .correlator correlator ∧
        WordGrid.resolve config.linearWidth (config.span interval) =
          .ok correlator.config.linearWidth ∧
        ∀ turns,
          2 ^ 53 ≤ turns →
          WordGrid.build correlator.config.linearWidth
              (config.span interval) turns =
            .ok (correlator.lags, correlator.lagSteps) := by
  refine ⟨?_, ?_, ?_⟩
  · intro width span accepted word nonneg limited
    have spans := Double.isSpan_of_le nonneg limited
    rcases WordGrid.resolve_ok spans accepted word with
      ⟨resolved, derived, same, wide, even, bounded⟩
    have few := LagGrid.coarsest_le_of_isSpan spans wide
    refine ⟨resolved, derived, same, wide, even, bounded, few, ?_, ?_, ?_⟩
    · intro turns enough
      exact WordGrid.countLevels_ok spans wide bounded (Nat.zero_le _)
        (by omega)
    · intro turns enough
      exact WordGrid.build_ok spans wide bounded enough
    · intro level range lag present least within
      rcases LagGrid.getElem?_build present with ⟨finer, offset, rfl⟩
      have small := LagGrid.lag_mul_lt spans wide finer least within
      exact ⟨small, Double.denotes_ofNat small⟩
  · intro config interval valid some
    exact Double.span_bounds (mapError_ok valid) some
  · intro sourceA sourceB config interval start created word
    rcases Accumulator.correlator_ok created with ⟨correlator, kind, made⟩
    rcases Double.span_bounds made.sound made.interval_pos with
      ⟨nonneg, limited⟩
    have spans := Double.isSpan_of_le nonneg limited
    rcases WordGrid.resolve_ok spans
        (Config.check_ok made.sound).2.2.1 word with
      ⟨resolved, derived, same, wide, even, bounded⟩
    have width : correlator.config.linearWidth = resolved := by
      rw [made.resolved, Config.resolve, same]
      split <;> rfl
    refine ⟨correlator, kind, by rw [width, derived], ?_⟩
    intro turns enough
    rw [Correlator.lagSteps_eq, made.lags, width]
    exact WordGrid.build_ok spans wide bounded enough

theorem grid_fits_words_trial :
    (∃ resolved,
      WordGrid.resolve (2 ^ 64 - 2) (Scalar.ofNat spanLimit) = .ok resolved ∧
      LagGrid.coarsest resolved (Scalar.ofNat spanLimit : Float) ≤ 51 ∧
      WordGrid.build resolved (Scalar.ofNat spanLimit) (2 ^ 53) =
        .ok (LagGrid.build resolved (Scalar.ofNat spanLimit : Float),
          (LagGrid.build resolved (Scalar.ofNat spanLimit : Float)).flatMap
            LagRange.steps)) ∧
    trialConfig.span 2 ≤ Scalar.ofNat spanLimit ∧
    ∃ (start : Accumulator Float) (correlator : Correlator Float),
      start.statistic = .correlator correlator ∧
      WordGrid.build correlator.config.linearWidth
          (trialConfig.span 2) (2 ^ 53) =
        .ok (correlator.lags, correlator.lagSteps) := by
  rcases grid_fits_words with ⟨grids, spans, correlators⟩
  refine ⟨?_, ?_, ?_⟩
  · rcases @grids (2 ^ 64 - 2) (Scalar.ofNat spanLimit) (by decide) (by decide)
        (by decide +kernel) (by decide +kernel) with
      ⟨resolved, derived, _, _, _, _, few, _, made, _⟩
    exact ⟨resolved, derived, few, made _ (Nat.le_refl _)⟩
  · exact (spans (by decide +kernel) Nat.two_pos).2
  · rcases trial_accepted with ⟨start, _, created, _⟩
    rcases correlators created (by decide) with ⟨correlator, kind, _, made⟩
    exact ⟨start, correlator, kind, made _ (Nat.le_refl _)⟩

end RunningStatistics
