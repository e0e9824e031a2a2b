import RunningStatistics.Proofs.Binary64Spans

/-!
# Powers of two in binary64

Doubling changes the exponent of a double and leaves its mantissa, so rounding
a number and doubling it may change places: a word that was rounded to a double
and then multiplied by a power of two is the rounded product.

For the spans that a grid of lags may have, these being the doubles from zero to
`2 ^ 52`, the two bounds with which lags are compared are no larger.  A negative
zero is among these spans, and one cannot tell it from zero by the comparisons.
-/

namespace RunningStatistics

open Float.Model Float.Model.UnpackedFloat

/-! ## Rounding and doubling -/

/--
A number from one on is rounded at the exponent at which its multiple by a power
of two is.
-/
theorem RoundsAt.mul_two_pow
    {x : ℚ}
    {exponent : ℤ}
    (rounds : RoundsAt x exponent)
    (one : 1 ≤ x)
    (power : ℕ) :
    RoundsAt (x * 2 ^ power) (exponent + power) := by
  have positive : (0 : ℚ) < 2 ^ power := by positivity
  have normal : (2 : ℚ) ^ (exponent + 52) ≤ x := by
    rcases rounds.filled with minimal | normal
    · rw [minimal]
      exact (zpow_le_one_of_nonpos₀ one_le_two (by decide)).trans one
    · exact normal
  refine ⟨?_, ?_, .inr ?_⟩
  · have least := rounds.least
    omega
  · rw [add_right_comm, zpow_add₀ two_ne_zero, zpow_natCast]
    exact mul_lt_mul_of_pos_right rounds.room positive
  · rw [add_right_comm, zpow_add₀ two_ne_zero, zpow_natCast]
    exact mul_le_mul_of_nonneg_right normal positive.le

theorem Rounds.mul_two_pow
    {x : ℚ}
    {number : ℤ}
    (rounds : Rounds x number)
    (one : 1 ≤ x)
    (power : ℕ) :
    Rounds (x * 2 ^ power) (number + power * 2 ^ 52) := by
  rcases rounds with ⟨exponent, at', rfl⟩
  refine ⟨exponent + power, at'.mul_two_pow one power, ?_⟩
  have same :
      x * 2 ^ power / 2 ^ (exponent + power : ℤ) = x / 2 ^ exponent := by
    rw [zpow_add₀ two_ne_zero, zpow_natCast,
      mul_div_mul_right _ _ (by positivity)]
  rw [same, serial, serial]
  ring

/--
A double that has a number below that of infinity denotes a number that rounds
to it.
-/
theorem Rank.valued
    {unpacked : UnpackedFloat}
    {number : ℤ}
    (rank : Rank unpacked number)
    (finite : number < serialOfInfinity) :
    ∃ value, Valued unpacked value ∧ Rounds value number := by
  cases rank with
  | zero => exact ⟨0, .zero, rounds_zero⟩
  | finite positive canonical small =>
      exact ⟨_, .finite positive canonical, canonical.rounds⟩
  | infinity => exact absurd finite (lt_irrefl _)

/-- Doubles of one number are one. -/
theorem Rank.unique
    {unpacked other : UnpackedFloat}
    {number : ℤ}
    (rank : Rank unpacked number)
    (rank' : Rank other number) :
    unpacked = other := by
  cases rank with
  | zero =>
      generalize same : (0 : ℤ) = number at rank'
      cases rank' with
      | zero => rfl
      | finite positive canonical =>
          exact absurd same (canonical.serial_pos positive).ne
      | infinity => exact absurd same (by decide)
  | @finite mantissa exponent positive canonical small =>
      generalize same : serial mantissa exponent = number at rank'
      cases rank' with
      | zero => exact absurd same (canonical.serial_pos positive).ne'
      | finite positive' canonical' =>
          rcases canonical.eq_of_serial_eq canonical' same with ⟨rfl, rfl⟩
          rfl
      | infinity =>
          exact absurd same (canonical.serial_lt_serialOfInfinity small).ne
  | infinity =>
      generalize same : serialOfInfinity = number at rank'
      cases rank' with
      | zero => exact absurd same (by decide)
      | finite positive canonical small =>
          exact absurd same (canonical.serial_lt_serialOfInfinity small).ne'
      | infinity => rfl

namespace Double

theorem IsNearest.unpack_eq
    {x y : Float}
    {value : ℚ}
    (nearest : IsNearest x value)
    (nearest' : IsNearest y value) :
    x.toModel.unpack = y.toModel.unpack := by
  rcases nearest with ⟨number, rounds, rank⟩
  rcases nearest' with ⟨number', rounds', rank'⟩
  rw [rounds'.unique rounds] at rank'
  exact rank.unique rank'

/-- The doubles nearest to one number compare alike. -/
theorem IsNearest.lt_iff_lt
    {x y bound : Float}
    {value : ℚ}
    (nearest : IsNearest x value)
    (nearest' : IsNearest y value) :
    x < bound ↔ y < bound := by
  rw [Double.lt_iff, Double.lt_iff, nearest.unpack_eq nearest']

/-- Powers of two are doubles. -/
theorem denotes_two_pow
    {power : ℕ}
    (small : power ≤ 1023) :
    Denotes (Scalar.ofNat (2 ^ power)) (2 ^ power) := by
  have canonical : Canonical (2 ^ 52) (power - 52 : ℤ) :=
    ⟨by omega, by decide, .inr le_rfl⟩
  have value : (2 ^ power : ℚ) = ((2 ^ 52 : ℕ) : ℚ) * 2 ^ (power - 52 : ℤ) := by
    rw [zpow_sub₀ two_ne_zero, zpow_natCast, Nat.cast_pow, Nat.cast_ofNat]
    exact (mul_div_cancel₀ _ (by norm_num)).symm
  have nearest := isNearest_ofNat (2 ^ power)
  rw [Nat.cast_pow, Nat.cast_ofNat] at nearest
  rw [value] at nearest ⊢
  exact nearest.denotes (by decide) canonical (by omega)

/-- A word that is rounded becomes a number that rounds like the word. -/
theorem exists_denotes_word
    {word : ℕ}
    (bounded : word < 2 ^ 64) :
    ∃ value number,
      Denotes (Scalar.ofNat word) value ∧
      Rounds value number ∧
      Rounds word number := by
  rcases isNearest_ofNat word with ⟨number, rounds, rank⟩
  have canonical : Canonical (2 ^ 52) 12 := ⟨by decide, by decide, .inr le_rfl⟩
  have below : (word : ℚ) ≤ (2 ^ 52 : ℕ) * 2 ^ (12 : ℤ) := by
    have limit : (word : ℚ) ≤ (2 ^ 64 : ℕ) := Nat.cast_le.mpr bounded.le
    norm_num at limit ⊢
    exact limit
  have finite : number < serialOfInfinity :=
    (rounds.mono canonical.rounds below).trans_lt
      (canonical.serial_lt_serialOfInfinity (by decide))
  rw [min_eq_left finite.le] at rank
  rcases rank.valued finite with ⟨value, denotes, rounds'⟩
  exact ⟨value, number, denotes, rounds', rounds⟩

/-- A rounded word times a power of two is the rounded product. -/
theorem isNearest_mul_two_pow
    {word power : ℕ}
    (positive : 0 < word)
    (bounded : word < 2 ^ 64)
    (small : power ≤ 1023) :
    IsNearest (Scalar.ofNat word * Scalar.ofNat (2 ^ power))
      (word * 2 ^ power : ℕ) := by
  rcases exists_denotes_word bounded with
    ⟨value, number, denotes, rounds, rounds'⟩
  have one : 1 ≤ value := by
    have ordered := ofNat_le_ofNat positive
    rw [(denotes_ofNat (by decide)).le_iff denotes] at ordered
    exact_mod_cast ordered
  rcases denotes.mul (denotes_two_pow small) with ⟨product, roundsProduct, rank⟩
  rw [roundsProduct.unique (rounds.mul_two_pow one power)] at rank
  refine ⟨_, ?_, rank⟩
  rw [Nat.cast_mul, Nat.cast_pow, Nat.cast_ofNat]
  exact rounds'.mul_two_pow (Nat.one_le_cast.mpr positive) power

/-! ## Spans of a grid -/

theorem exists_denotes_billionth :
    ∃ tolerance, Denotes Scalar.billionth tolerance ∧ tolerance ≤ 1 := by
  rcases denotes_billionth with ⟨tolerance, denotes⟩
  have small : (Scalar.billionth : Float) ≤ Scalar.ofNat 1 := by decide +kernel
  rw [denotes.le_iff (denotes_ofNat (by decide))] at small
  exact ⟨tolerance, denotes, by exact_mod_cast small⟩

/--
The double of a span has bounds, with which lags are compared, of at most about
`2 ^ 52`.
-/
structure IsSpan (span : Float) : Prop where
  margin : NotAbove (span - Scalar.billionth).toModel.unpack ∨
    ∃ rest, Denotes (span - Scalar.billionth) rest ∧ rest ≤ 2 ^ 52
  reach : ∃ total, Denotes (span + Scalar.billionth) total ∧ total ≤ 2 ^ 52 + 1

/--
What is not below zero has a positive sign, or else it is the negative zero.
-/
theorem isUnsigned_or_zero
    {x : Float}
    (nonneg : Scalar.zero ≤ x) :
    IsUnsigned x ∨ x.toModel.unpack = .zero .negative := by
  rw [Double.le_iff, unpack_zero] at nonneg
  rw [IsUnsigned]
  generalize x.toModel.unpack = unpacked at nonneg
  cases unpacked with
  | notANumber => cases nonneg
  | infinity sign =>
      cases sign with
      | positive => exact .inl .infinity
      | negative => cases nonneg
  | zero sign =>
      cases sign with
      | positive => exact .inl .zero
      | negative => exact .inr rfl
  | finite sign mantissa exponent positive =>
      cases sign with
      | positive => exact .inl (.finite _ _ positive)
      | negative => cases nonneg

theorem IsNearest.exists_reach
    {x : Float}
    {value : ℚ}
    (nearest : IsNearest x value)
    (bounded : value ≤ 2 ^ 52 + 1) :
    ∃ total, Denotes x total ∧ total ≤ 2 ^ 52 + 1 := by
  have limit : Denotes (Scalar.ofNat (2 ^ 52 + 1)) (2 ^ 52 + 1 : ℕ) :=
    denotes_ofNat (by decide)
  have below := nearest.le limit.isNearest (by exact_mod_cast bounded)
  rcases nearest.isUnsigned.denotes_of_le limit below with
    ⟨total, denotes, within⟩
  exact ⟨total, denotes, by exact_mod_cast within⟩

/-- The bounds of the negative zero are those of zero. -/
theorem isSpan_of_negative_zero
    {span : Float}
    (zero : span.toModel.unpack = .zero .negative) :
    IsSpan span := by
  rcases exists_denotes_billionth with ⟨tolerance, denotes, small⟩
  constructor
  · left
    show
      NotAbove (UnpackedFloat.unpack _
          (UnpackedFloat.pack _ (UnpackedFloat.sub _ _ _)))
    rw [zero]
    rw [Denotes] at denotes
    generalize (Scalar.billionth : Float).toModel.unpack = unpacked at denotes
    cases denotes with
    | zero =>
        show NotAbove (UnpackedFloat.unpack _ (packedZero _ .negative))
        rw [unpack_packedZero]
        exact .zero _
    | finite positive canonical =>
        show
          NotAbove (UnpackedFloat.unpack _
              (UnpackedFloat.pack _ (.finite .negative _ _ _)))
        rw [unpack_pack_finite .negative positive canonical]
        split
        · exact .finite _ _ _
        · exact .infinity
  · have sum : Nearest (UnpackedFloat.add Format.binary64 span.toModel.unpack
        (Scalar.billionth : Float).toModel.unpack) tolerance := by
      rw [zero]
      rw [Denotes] at denotes
      generalize (Scalar.billionth : Float).toModel.unpack = unpacked at denotes
      cases denotes with
      | zero => exact nearest_zero
      | finite positive canonical =>
          exact (Valued.finite positive canonical).nearest
    exact (isNearest_pack sum).exists_reach (by linarith)

theorem Denotes.isSpan
    {span : Float}
    {value : ℚ}
    (denotes : Denotes span value)
    (bounded : value ≤ 2 ^ 52) :
    IsSpan span := by
  rcases exists_denotes_billionth with ⟨tolerance, small, little⟩
  constructor
  · rcases le_or_gt value tolerance with below | above
    · exact .inl (denotes.sub_notAbove small below)
    · exact .inr (denotes.margin bounded small above)
  · exact (denotes.add small).exists_reach (by linarith)

/-- Every double from zero to the largest span is the span of a grid. -/
theorem isSpan_of_le
    {span : Float}
    (nonneg : Scalar.zero ≤ span)
    (limited : span ≤ Scalar.ofNat spanLimit) :
    IsSpan span := by
  rcases isUnsigned_or_zero nonneg with unsigned | zero
  · have limit : Denotes (Scalar.ofNat spanLimit) spanLimit :=
      denotes_ofNat (by decide)
    rcases unsigned.denotes_of_le limit limited with ⟨value, denotes, within⟩
    exact denotes.isSpan (by exact_mod_cast within)
  · exact isSpan_of_negative_zero zero

/--
The spans of accepted parameters are not larger than the largest span, at any
interval.
-/
theorem span_bounds
    {config : Config Float}
    (sound : config.check = .ok ())
    {interval : ℕ}
    (some : 0 < interval) :
    Scalar.zero ≤ config.span interval ∧
    config.span interval ≤ Scalar.ofNat spanLimit := by
  rcases exists_span sound some with ⟨value, denotes, bounded⟩
  have limit : Denotes (Scalar.ofNat spanLimit) spanLimit :=
    denotes_ofNat (by decide)
  refine ⟨denotes.isUnsigned.zero_le, (denotes.le_iff limit).mpr ?_⟩
  exact bounded.trans (by exact_mod_cast le_refl spanLimit)

/-! ## Comparisons with the bounds of a span -/

namespace IsSpan

variable {span : Float}

/-- What lies below a span less the tolerance is less than `2 ^ 52`. -/
theorem lt_of_lt_margin
    (spans : IsSpan span)
    {count : ℕ}
    (below : Scalar.ofNat count < span - Scalar.billionth) :
    count < 2 ^ 52 := by
  rcases spans.margin with none | ⟨rest, denotes, bounded⟩
  · exact absurd below (not_lt_of_notAbove (isUnsigned_ofNat count) none)
  · by_contra large
    have within : span - Scalar.billionth ≤ Scalar.ofNat count :=
      denotes.isNearest.le (isNearest_ofNat count)
        (bounded.trans (by exact_mod_cast Nat.not_lt.mp large))
    exact ((isUnsigned_ofNat count).lt_iff_not_le denotes.isUnsigned).mp
      below within

/-- What does not lie above a span and the tolerance is at most `2 ^ 52 + 1`. -/
theorem le_of_le_reach
    (spans : IsSpan span)
    {count : ℕ}
    (within : Scalar.ofNat count ≤ span + Scalar.billionth) :
    count ≤ 2 ^ 52 + 1 := by
  rcases spans.reach with ⟨total, denotes, bounded⟩
  by_contra large
  have limit : Denotes (Scalar.ofNat (2 ^ 52 + 2)) (2 ^ 52 + 2 : ℕ) :=
    denotes_ofNat (by decide)
  have ordered :
      (Scalar.ofNat (2 ^ 52 + 2) : Float) ≤ span + Scalar.billionth :=
    limit.isUnsigned.le_trans (isUnsigned_ofNat count) denotes.isUnsigned
      (ofNat_le_ofNat (by omega)) within
  rw [limit.le_iff denotes] at ordered
  push_cast at ordered
  linarith

/-- The width that is derived from a span is not larger than `2 ^ 52`. -/
theorem wholeWidth_le (spans : IsSpan span) :
    LagGrid.wholeWidth span ≤ 2 ^ 52 := by
  have least : Scalar.ceilNat (span - Scalar.billionth) ≤ 2 ^ 52 := by
    rcases spans.margin with none | ⟨rest, denotes, bounded⟩
    · rw [ceilNat_of_notAbove none]
      exact Nat.zero_le _
    · rw [denotes.ceilNat bounded, Nat.ceil_le]
      exact_mod_cast bounded
  simp only [LagGrid.wholeWidth]
  omega

end IsSpan

end Double

end RunningStatistics
