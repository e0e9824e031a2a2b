import RunningStatistics.Proofs.Binary64WholeNumbers
import RunningStatistics.Proofs.CorrelatorRuns
import RunningStatistics.Proofs.LongerGrids

/-!
# Spans in binary64

A span is the largest lag counted in sampling intervals.  For accepted
parameters it is a number of at most `2 ^ 52`, and it does not decrease when the
largest lag grows.  Although the comparisons with a span allow for a tolerance
and every operation is rounded, a longer span reaches all lags of a shorter
one, and a width derived from a span leaves no lag to a second level.
-/

namespace RunningStatistics

open Float.Model Float.Model.UnpackedFloat

namespace Double

/-! ## The neighbourhood of a span -/

theorem denotes_billionth : ∃ value, Denotes Scalar.billionth value := by
  have quotient :
      IsNearest (Scalar.billionth : Float) ((1 : ℕ) / (1000000000 : ℕ)) :=
    (denotes_ofNat (by decide)).div (denotes_ofNat (by decide)) (by norm_num)
  have small : (Scalar.billionth : Float) ≤ Scalar.ofNat 1 :=
    quotient.le (isNearest_ofNat 1) (by norm_num)
  rcases quotient.isUnsigned.denotes_of_le
      (denotes_ofNat (by decide)) small with
    ⟨value, denotes, _⟩
  exact ⟨value, denotes⟩

theorem not_lt_of_notAbove
    {x y : Float}
    (unsigned : IsUnsigned x)
    (notAbove : NotAbove y.toModel.unpack) :
    ¬x < y := by
  rw [IsUnsigned] at unsigned
  rw [Double.lt_iff]
  generalize x.toModel.unpack = left at unsigned
  generalize y.toModel.unpack = right at notAbove
  cases unsigned <;> cases notAbove <;> exact Bool.false_ne_true

theorem Denotes.sub_notAbove
    {x y : Float}
    {first second : ℚ}
    (denotesX : Denotes x first)
    (denotesY : Denotes y second)
    (below : first ≤ second) :
    NotAbove (x - y).toModel.unpack :=
  Valued.sub_notAbove denotesX denotesY below

variable {span longer : Float} {value other : ℚ}

/--
What lies below a span less the tolerance, the span lies above by more than the
tolerance.
-/
theorem exists_of_lt_sub
    {x : Float}
    (unsigned : IsUnsigned x)
    (denotes : Denotes span value)
    (below : x < span - Scalar.billionth) :
    ∃ tolerance, Denotes Scalar.billionth tolerance ∧ tolerance < value := by
  rcases denotes_billionth with ⟨tolerance, small⟩
  refine ⟨tolerance, small, ?_⟩
  by_contra notAbove
  exact not_lt_of_notAbove unsigned
    (denotes.sub_notAbove small (not_lt.mp notAbove)) below

theorem IsUnsigned.lt_of_lt_of_le
    {x y z : Float}
    (first : IsUnsigned x)
    (second : IsUnsigned y)
    (third : IsUnsigned z)
    (lower : x < y)
    (upper : y ≤ z) :
    x < z := by
  rw [first.lt_iff_not_le third]
  intro above
  exact (first.lt_iff_not_le second).mp lower
    (second.le_trans third first upper above)

theorem IsUnsigned.le_of_lt
    {x y : Float}
    (first : IsUnsigned x)
    (second : IsUnsigned y)
    (lower : x < y) :
    x ≤ y := by
  rcases first.rank with ⟨numberX, rankX⟩
  rcases second.rank with ⟨numberY, rankY⟩
  rw [Double.lt_iff, rankX.lt_iff rankY] at lower
  rw [Double.le_iff, rankX.le_iff rankY]
  exact lower.le

theorem lt_sub_of_le
    {x : Float}
    (unsigned : IsUnsigned x)
    (denotes : Denotes span value)
    (denotes' : Denotes longer other)
    (ordered : value ≤ other)
    (below : x < span - Scalar.billionth) :
    x < longer - Scalar.billionth := by
  rcases exists_of_lt_sub unsigned denotes below with ⟨tolerance, small, above⟩
  have lower := denotes.sub small above
  have upper := denotes'.sub small (above.trans_le ordered)
  exact unsigned.lt_of_lt_of_le lower.isUnsigned upper.isUnsigned below
    (lower.le upper (sub_le_sub_right ordered tolerance))

theorem le_add_of_le
    {x : Float}
    (unsigned : IsUnsigned x)
    (denotes : Denotes span value)
    (denotes' : Denotes longer other)
    (ordered : value ≤ other)
    (below : x ≤ span + Scalar.billionth) :
    x ≤ longer + Scalar.billionth := by
  rcases denotes_billionth with ⟨tolerance, small⟩
  have lower := denotes.add small
  have upper := denotes'.add small
  exact unsigned.le_trans lower.isUnsigned upper.isUnsigned below
    (lower.le upper (add_le_add_left ordered tolerance))

theorem le_add_of_lt_sub
    {x y : Float}
    (unsigned : IsUnsigned x)
    (unsigned' : IsUnsigned y)
    (denotes : Denotes span value)
    (ordered : y ≤ x)
    (below : x < span - Scalar.billionth) :
    y ≤ span + Scalar.billionth := by
  rcases exists_of_lt_sub unsigned denotes below with ⟨tolerance, small, above⟩
  have lower := denotes.sub small above
  have upper := denotes.add small
  have nonneg := Valued.nonneg small
  have across := lower.le upper (by linarith)
  have within := unsigned.le_of_lt lower.isUnsigned below
  exact unsigned'.le_trans unsigned upper.isUnsigned ordered
    (unsigned.le_trans lower.isUnsigned upper.isUnsigned within across)

/-! ## Grids -/

/-- In binary64 a larger span reaches farther. -/
theorem Denotes.farther
    (width : Nat)
    (denotes : Denotes span value)
    (denotes' : Denotes longer other)
    (ordered : value ≤ other) :
    LagGrid.Farther width span longer where
  fallsShort := by
    intro stride short
    rw [LagGrid.fallsShort, decide_eq_true_iff] at short ⊢
    exact lt_sub_of_le (isUnsigned_ofNat _) denotes denotes' ordered short
  reaches := by
    intro steps reached
    rw [LagGrid.reaches, decide_eq_true_iff] at reached ⊢
    exact le_add_of_le (isUnsigned_ofNat _) denotes denotes' ordered reached
  complete := by
    intro stride lag short within
    rw [LagGrid.fallsShort, decide_eq_true_iff] at short
    rw [LagGrid.reaches, decide_eq_true_iff]
    exact le_add_of_lt_sub (isUnsigned_ofNat _) (isUnsigned_ofNat _) denotes
      (ofNat_le_ofNat (Nat.mul_le_mul_right stride within)) short

/-! ## Derived widths -/

/--
A span less the tolerance, if that is above zero, is a number of at most
`2 ^ 52`.
-/
theorem Denotes.margin
    {tolerance : ℚ}
    (denotes : Denotes span value)
    (bounded : value ≤ 2 ^ 52)
    (small : Denotes Scalar.billionth tolerance)
    (above : tolerance < value) :
    ∃ rest, Denotes (span - Scalar.billionth) rest ∧ rest ≤ 2 ^ 52 := by
  have difference := denotes.sub small above
  have nonneg := Valued.nonneg small
  have limit : Denotes (Scalar.ofNat (2 ^ 52)) (2 ^ 52 : ℕ) :=
    denotes_ofNat (by decide)
  have below := difference.le limit.isNearest (by push_cast; linarith)
  rcases difference.isUnsigned.denotes_of_le limit below with
    ⟨rest, denotes, within⟩
  exact ⟨rest, denotes, by exact_mod_cast within⟩

theorem ceilNat_margin_mono
    (denotes : Denotes span value)
    (denotes' : Denotes longer other)
    (bounded : other ≤ 2 ^ 52)
    (ordered : value ≤ other) :
    Scalar.ceilNat (span - Scalar.billionth) ≤
      Scalar.ceilNat (longer - Scalar.billionth) := by
  rcases denotes_billionth with ⟨tolerance, small⟩
  rcases le_or_gt value tolerance with below | above
  · rw [ceilNat_of_notAbove (denotes.sub_notAbove small below)]
    exact Nat.zero_le _
  · rcases denotes.margin (ordered.trans bounded) small above with
      ⟨rest, margin, within⟩
    rcases denotes'.margin bounded small (above.trans_le ordered) with
      ⟨rest', margin', within'⟩
    rw [margin.ceilNat within, margin'.ceilNat within']
    apply Nat.ceil_mono
    rw [← margin.le_iff margin']
    exact (denotes.sub small above).le
      (denotes'.sub small (above.trans_le ordered))
      (sub_le_sub_right ordered tolerance)

theorem wholeWidth_mono
    (denotes : Denotes span value)
    (denotes' : Denotes longer other)
    (bounded : other ≤ 2 ^ 52)
    (ordered : value ≤ other) :
    LagGrid.wholeWidth span ≤ LagGrid.wholeWidth longer := by
  have least := ceilNat_margin_mono denotes denotes' bounded ordered
  simp only [LagGrid.wholeWidth]
  omega

/-- One level of the derived width does not fall short of the span. -/
theorem Denotes.wholeWidth_wide
    (denotes : Denotes span value)
    (bounded : value ≤ 2 ^ 52) :
    LagGrid.fallsShort (LagGrid.wholeWidth span) span 1 = false := by
  rcases denotes_billionth with ⟨tolerance, small⟩
  rw [LagGrid.fallsShort, decide_eq_false_iff_not, mul_one]
  rcases le_or_gt value tolerance with below | above
  · exact not_lt_of_notAbove (isUnsigned_ofNat _)
      (denotes.sub_notAbove small below)
  · rcases denotes.margin bounded small above with ⟨rest, margin, within⟩
    have least : ⌈rest⌉₊ ≤ LagGrid.wholeWidth span := by
      simp only [LagGrid.wholeWidth, margin.ceilNat within]
      omega
    rw [(isUnsigned_ofNat _).lt_iff_not_le margin.isUnsigned, not_not]
    exact margin.isNearest.le (isNearest_ofNat _)
      ((Nat.le_ceil rest).trans (Nat.cast_le.mpr least))

/-! ## Spans of accepted parameters -/

theorem IsPositive.mul_infinite
    {x y : Float}
    (positive : IsPositive x)
    (infinite : y.toModel.unpack = .infinity .positive) :
    (x * y).toModel.unpack = .infinity .positive := by
  rcases positive with ⟨mantissa, exponent, above, unpacked⟩
  show
    UnpackedFloat.unpack _ (UnpackedFloat.pack _ (UnpackedFloat.mul _ _ _)) = _
  rw [unpacked, infinite]
  exact unpack_packedInfinity .positive

theorem IsPositive.div_infinite
    {x y : Float}
    (positive : IsPositive x)
    (infinite : y.toModel.unpack = .infinity .positive) :
    Denotes (x / y) 0 := by
  rcases positive with ⟨mantissa, exponent, above, unpacked⟩
  show
    Valued
      (UnpackedFloat.unpack _ (UnpackedFloat.pack _ (UnpackedFloat.div _ _ _)))
      0
  rw [unpacked, infinite]
  show Valued (UnpackedFloat.unpack _ (packedZero _ .positive)) 0
  rw [unpack_packedZero]
  exact .zero

/--
A sampling interval is infinite, or a number that is not below the time step.
-/
theorem IsPositive.mul_ofNat
    {timeStep : Float}
    {step : ℚ}
    (positive : IsPositive timeStep)
    (denotes : Denotes timeStep step)
    {interval : ℕ}
    (some : 0 < interval) :
    (timeStep * Scalar.ofNat interval).toModel.unpack = .infinity .positive ∨
    ∃ time, Denotes (timeStep * Scalar.ofNat interval) time ∧ step ≤ time := by
  rcases (isUnsigned_ofNat interval).denotes_or_infinite with
    ⟨factor, finite⟩ | infinite
  · have one : (1 : ℚ) ≤ factor := by
      have ordered := ofNat_le_ofNat some
      rw [(denotes_ofNat (by decide)).le_iff finite] at ordered
      exact_mod_cast ordered
    have product := denotes.mul finite
    refine product.isUnsigned.denotes_or_infinite.symm.imp_right ?_
    rintro ⟨time, denotes'⟩
    refine ⟨time, denotes', (denotes.le_iff denotes').mp ?_⟩
    exact denotes.isNearest.le product
      (le_mul_of_one_le_right (Valued.nonneg denotes) one)
  · exact .inl (positive.mul_infinite infinite)

/--
The spans of two accepted largest lags are in the order of the lags, and small
enough.
-/
theorem exists_spans
    {config : Config Float}
    {longest : Float}
    (sound : config.check = .ok ())
    (sound' : { config with largestLag := longest }.check = .ok ())
    (ordered : config.largestLag ≤ longest)
    {interval : ℕ}
    (some : 0 < interval) :
    ∃ value other,
      Denotes (config.span interval) value ∧
      Denotes ({ config with largestLag := longest }.span interval) other ∧
      value ≤ other ∧
      other ≤ 2 ^ 52 := by
  rcases Config.check_ok sound with ⟨positive, positiveStep, _, _, _⟩
  rcases Config.check_ok sound' with ⟨positive', _, _, limited, _⟩
  replace positive := isPositive_of_check positive
  replace positive' : IsPositive longest := isPositive_of_check positive'
  replace positiveStep := isPositive_of_check positiveStep
  rcases positive.denotes with ⟨lag, denotes, _⟩
  rcases positive'.denotes with ⟨lag', denotes', above⟩
  rcases positiveStep.denotes with ⟨step, denotesStep, aboveStep⟩
  have lags : lag ≤ lag' := (denotes.le_iff denotes').mp ordered
  rcases positiveStep.mul_ofNat denotesStep some with
    infinite | ⟨time, denotesTime, longer⟩
  · exact ⟨0, 0, positive.div_infinite infinite,
      positive'.div_infinite infinite, le_rfl, by norm_num⟩
  · have aboveTime := aboveStep.trans_le longer
    have span := denotes.div denotesTime aboveTime
    have span' := denotes'.div denotesTime aboveTime
    have ratio := denotes'.div denotesStep aboveStep
    have limit : Denotes (Scalar.ofNat spanLimit) spanLimit :=
      denotes_ofNat (by decide)
    have below :=
      span'.le ratio (div_le_div_of_nonneg_left above.le aboveStep longer)
    replace limited :=
      not_not.mp (mt
          ((limit.isUnsigned.lt_iff_not_le ratio.isUnsigned).mpr) limited)
    rcases span'.isUnsigned.denotes_of_le limit
        (span'.isUnsigned.le_trans ratio.isUnsigned limit.isUnsigned
          below limited) with ⟨other, denotesOther, within⟩
    rcases span.isUnsigned.denotes_of_le denotesOther
      (span.le span' (div_le_div_of_nonneg_right lags aboveTime.le)) with
      ⟨value, denotesValue, smaller⟩
    exact ⟨value, other, denotesValue, denotesOther, smaller,
      by exact_mod_cast within⟩

/-- The span of accepted parameters is a number of at most `2 ^ 52`. -/
theorem exists_span
    {config : Config Float}
    (sound : config.check = .ok ())
    {interval : ℕ}
    (some : 0 < interval) :
    ∃ value, Denotes (config.span interval) value ∧ value ≤ 2 ^ 52 := by
  rcases (isPositive_of_check (Config.check_ok sound).1).denotes with
    ⟨lag, denotes, _⟩
  rcases exists_spans sound sound
      ((denotes.le_iff denotes).mpr le_rfl) some with
    ⟨value, other, denotes, _, ordered, bounded⟩
  exact ⟨value, denotes, ordered.trans bounded⟩

/--
A larger largest lag only continues the grid, whether its width is given or
derived.
-/
theorem begins_grid
    {config : Config Float}
    {longest : Float}
    (sound : config.check = .ok ())
    (sound' : { config with largestLag := longest }.check = .ok ())
    (ordered : config.largestLag ≤ longest)
    {interval : ℕ}
    (some : 0 < interval) :
    LagRange.Begins
      (LagGrid.build (config.resolve interval).linearWidth
        (config.span interval))
      (LagGrid.build
        ({ config with largestLag := longest }.resolve interval).linearWidth
        ({ config with largestLag := longest }.span interval)) := by
  rcases exists_spans sound sound' ordered some with
    ⟨value, other, denotes, denotes', smaller, bounded⟩
  rw [Config.resolve, Config.resolve]
  split
  next =>
    exact LagGrid.begins_build_of_wide
      (wholeWidth_mono denotes denotes' bounded smaller)
      (denotes.wholeWidth_wide (smaller.trans bounded))
      (denotes'.wholeWidth_wide bounded)
      (denotes.farther 0 denotes' smaller).reaches
  next =>
    exact (denotes.farther config.linearWidth denotes' smaller).begins_build

end Double

end RunningStatistics
