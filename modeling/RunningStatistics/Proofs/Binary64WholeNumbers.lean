import RunningStatistics.Proofs.Binary64Order

/-!
# Whole numbers in binary64

Whole numbers below `2 ^ 53` are doubles, larger ones are rounded.  Within the
range of exact whole numbers, truncation takes a double to the whole number
below it, so that the least whole number not below it is the one that exact
arithmetic finds.  A difference that is not above zero truncates to zero.
-/

namespace RunningStatistics

open Float.Model Float.Model.UnpackedFloat

namespace Double

/-! ## Doubles of positive sign -/

theorem IsUnsigned.denotes_or_infinite
    {x : Float}
    (unsigned : IsUnsigned x) :
    (∃ value, Denotes x value) ∨ x.toModel.unpack = .infinity .positive := by
  rw [IsUnsigned] at unsigned
  cases unpacked : x.toModel.unpack with
  | infinity sign =>
      rw [unpacked] at unsigned
      cases unsigned
      exact .inr rfl
  | notANumber =>
      rw [unpacked] at unsigned
      cases unsigned
  | zero sign =>
      rw [unpacked] at unsigned
      cases unsigned
      refine .inl ⟨0, ?_⟩
      rw [Denotes, unpacked]
      exact .zero
  | finite sign mantissa exponent positive =>
      rw [unpacked] at unsigned
      cases unsigned
      refine .inl ⟨mantissa * 2 ^ exponent, ?_⟩
      rw [Denotes, unpacked]
      exact .finite positive (canonical_unpack unpacked).1

theorem IsUnsigned.rank
    {x : Float}
    (unsigned : IsUnsigned x) :
    ∃ number, Rank x.toModel.unpack number := by
  rcases unsigned.denotes_or_infinite with ⟨value, denotes⟩ | infinite
  · rcases denotes.rank with ⟨number, _, _, rank⟩
    exact ⟨number, rank⟩
  · rw [infinite]
    exact ⟨_, .infinity⟩

/-- Unsigned doubles are ordered, infinity included. -/
theorem IsUnsigned.le_trans
    {x y z : Float}
    (first : IsUnsigned x)
    (second : IsUnsigned y)
    (third : IsUnsigned z)
    (lower : x ≤ y)
    (upper : y ≤ z) :
    x ≤ z := by
  rcases first.rank with ⟨numberX, rankX⟩
  rcases second.rank with ⟨numberY, rankY⟩
  rcases third.rank with ⟨numberZ, rankZ⟩
  rw [Double.le_iff, rankX.le_iff rankY] at lower
  rw [Double.le_iff, rankY.le_iff rankZ] at upper
  rw [Double.le_iff, rankX.le_iff rankZ]
  exact lower.trans upper

/-- Two unsigned doubles always compare. -/
theorem IsUnsigned.lt_iff_not_le
    {x y : Float}
    (first : IsUnsigned x)
    (second : IsUnsigned y) :
    x < y ↔ ¬y ≤ x := by
  rcases first.rank with ⟨numberX, rankX⟩
  rcases second.rank with ⟨numberY, rankY⟩
  rw [Double.lt_iff, Double.le_iff, rankX.lt_iff rankY,
    rankY.le_iff rankX, not_le]

theorem IsNearest.isUnsigned
    {x : Float}
    {value : ℚ}
    (nearest : IsNearest x value) :
    IsUnsigned x := by
  rcases nearest with ⟨number, _, rank⟩
  exact rank.unsigned

theorem Denotes.isUnsigned
    {x : Float}
    {value : ℚ}
    (denotes : Denotes x value) :
    IsUnsigned x :=
  denotes.isNearest.isUnsigned

/-- A positive double denotes a positive number. -/
theorem IsPositive.denotes
    {x : Float}
    (positive : IsPositive x) :
    ∃ value, Denotes x value ∧ 0 < value := by
  rcases positive with ⟨mantissa, exponent, above, unpacked⟩
  refine ⟨mantissa * 2 ^ exponent, ?_,
    mul_pos (Nat.cast_pos.mpr above) (two_zpow_pos exponent)⟩
  rw [Denotes, unpacked]
  exact .finite above (canonical_unpack unpacked).1

/-- What is not above a number is not infinite. -/
theorem IsUnsigned.denotes_of_le
    {x y : Float}
    {bound : ℚ}
    (unsigned : IsUnsigned x)
    (denotes : Denotes y bound)
    (below : x ≤ y) :
    ∃ value, Denotes x value ∧ value ≤ bound := by
  rcases unsigned.denotes_or_infinite with ⟨value, finite⟩ | infinite
  · exact ⟨value, finite, (finite.le_iff denotes).mp below⟩
  · rcases denotes.rank with ⟨number, _, _, rank⟩
    rw [Double.le_iff, infinite] at below
    have denotes := denotes
    rw [Denotes] at denotes
    generalize y.toModel.unpack = unpacked at below denotes
    cases denotes with
    | zero => cases below
    | finite positive canonical => cases below

/-! ## Whole numbers -/

/-- Positive whole numbers below `2 ^ 53` are doubles. -/
theorem exists_canonical_natCast
    {count : ℕ}
    (positive : 0 < count)
    (small : count < 2 ^ 53) :
    ∃ (mantissa : ℕ) (exponent : ℤ),
      0 < mantissa ∧
      Canonical mantissa exponent ∧
      exponent ≤ 971 ∧
      (count : ℚ) = mantissa * 2 ^ exponent := by
  have bits : count.log2 ≤ 52 :=
    Nat.lt_succ_iff.mp ((Nat.log2_lt positive.ne').mpr small)
  have split : count.log2 + (52 - count.log2) = 52 := by omega
  refine ⟨count * 2 ^ (52 - count.log2), -(52 - count.log2 : ℕ), ?_,
    ⟨?_, ?_, .inr ?_⟩, ?_, ?_⟩
  · exact Nat.mul_pos positive (Nat.two_pow_pos _)
  · omega
  · calc count * 2 ^ (52 - count.log2)
        < 2 ^ (count.log2 + 1) * 2 ^ (52 - count.log2) :=
          Nat.mul_lt_mul_of_pos_right Nat.lt_log2_self (Nat.two_pow_pos _)
      _ = 2 ^ (count.log2 + 1 + (52 - count.log2)) := (pow_add _ _ _).symm
      _ = 2 ^ 53 := by
          congr 1
          omega
  · calc
      2 ^ 52 = 2 ^ count.log2 * 2 ^ (52 - count.log2) := by
        rw [← pow_add, split]
      _ ≤ _ := Nat.mul_le_mul_right _ (Nat.log2_self_le positive.ne')
  · omega
  · rw [zpow_neg, zpow_natCast]
    push_cast
    rw [mul_assoc, mul_inv_cancel₀ (pow_ne_zero _ two_ne_zero), mul_one]

/-- The double nearest to a double is this double. -/
theorem IsNearest.denotes
    {x : Float}
    {mantissa : ℕ}
    {exponent : ℤ}
    (nearest : IsNearest x (mantissa * 2 ^ exponent))
    (positive : 0 < mantissa)
    (canonical : Canonical mantissa exponent)
    (small : exponent ≤ 971) :
    Denotes x (mantissa * 2 ^ exponent) := by
  rcases nearest with ⟨number, rounds, rank⟩
  have finite := canonical.serial_lt_serialOfInfinity small
  rw [rounds.unique canonical.rounds, min_eq_left finite.le] at rank
  rw [Denotes]
  generalize x.toModel.unpack = unpacked at rank
  generalize same : serial mantissa exponent = number at rank
  cases rank with
  | zero => exact absurd same (canonical.serial_pos positive).ne'
  | finite positive' canonical' =>
      rcases canonical.eq_of_serial_eq canonical' same with ⟨rfl, rfl⟩
      exact .finite positive canonical
  | infinity => exact absurd same finite.ne

theorem nearest_normalize_natCast (count : ℕ) :
    Nearest
      (UnpackedFloat.normalize Format.binary64 count 0 .positive) count := by
  rcases Nat.eq_zero_or_pos count with rfl | positive
  · rw [Nat.cast_zero]
    exact nearest_zero
  · have nearest := normalize_numbered (Int.natCast_pos.mpr positive) 0
    rw [zpow_zero, mul_one, Int.cast_natCast] at nearest
    exact nearest

theorem denotes_one : Denotes (Float.ofBits 0x3FF0000000000000) 1 := by
  have canonical : Canonical 4503599627370496 (-52) :=
    ⟨by decide, by decide, .inr le_rfl⟩
  have denotes :
      Denotes (Float.ofBits 0x3FF0000000000000)
        ((4503599627370496 : ℕ) * 2 ^ (-52 : ℤ)) :=
    Valued.finite (by decide) canonical
  norm_num at denotes
  exact denotes

/-- Small whole numbers are doubles. -/
theorem IsNearest.denotes_natCast
    {x : Float}
    {count : ℕ}
    (nearest : IsNearest x count)
    (small : count < 2 ^ 53) :
    Denotes x count := by
  rcases Nat.eq_zero_or_pos count with rfl | positive
  · rw [Nat.cast_zero] at nearest ⊢
    rcases nearest with ⟨number, rounds, rank⟩
    rw [rounds.unique rounds_zero, min_eq_left (by decide)] at rank
    exact rank.valued_zero
  · rcases exists_canonical_natCast positive small with
      ⟨mantissa, exponent, above, canonical, representable, same⟩
    rw [same] at nearest ⊢
    exact nearest.denotes above canonical representable

theorem nearest_ofScientific
    {count : ℕ}
    (wide : 2 ^ 53 ≤ count) :
    Nearest (UnpackedFloat.ofScientific Format.binary64 count 0) count := by
  have least :
      ¬(0 : ℤ) < -((2 ^ Format.binary64.exponentBits : ℤ) + count.log2) := by
    have := Int.natCast_nonneg count.log2
    norm_num
  have value :
      (count / 2 ^ (-(53 : ℕ) + 0 : ℤ) : ℚ) =
        (count * 2 ^ 53 * 10 ^ 0 : ℕ) := by
    rw [add_zero, zpow_neg, zpow_natCast, div_inv_eq_mul]
    push_cast
    ring
  have nearest : Nearest (roundWithAccuracy Format.binary64 .positive
      (count * 2 ^ 53 * 10 ^ 0) (-(53 : ℕ) + 0) .exact) count := by
    refine roundWithAccuracy_numbered ?_ (.inl (le_log2_of_le (by omega)))
    rw [value]
    exact stands_exact _
  rw [UnpackedFloat.ofScientific, dif_neg (by omega), if_neg (by decide),
    if_neg least, if_pos le_rfl]
  simp only [Nat.shiftLeft_eq]
  exact nearest

/-- The conversion of a natural number gives the nearest double. -/
theorem isNearest_ofNat (count : ℕ) : IsNearest (Scalar.ofNat count) count := by
  change IsNearest (Float.ofScientific count false 0) count
  rw [Float.ofScientific]
  split
  next small =>
    -- Small numbers are converted exactly and multiplied by one.
    have word : (count.toUInt64.toNat : ℤ) = count := by
      rw [Nat.toUInt64_eq,
        UInt64.toNat_ofNat_of_lt' (Nat.lt_of_lt_of_le small.1 (by decide))]
    have converted : IsNearest count.toUInt64.toFloat count := by
      have nearest := nearest_normalize_natCast count
      rw [← word] at nearest
      exact isNearest_pack nearest
    have product := (converted.denotes_natCast small.1).mul denotes_one
    rw [mul_one] at product
    exact product
  next large =>
    have wide : 2 ^ 53 ≤ count := by omega
    exact isNearest_pack (nearest_ofScientific wide)

/-- Natural numbers below `2 ^ 53` are converted exactly. -/
theorem denotes_ofNat
    {count : ℕ}
    (small : count < 2 ^ 53) :
    Denotes (Scalar.ofNat count) count :=
  (isNearest_ofNat count).denotes_natCast small

theorem ofNat_le_ofNat
    {count other : ℕ}
    (ordered : count ≤ other) :
    (Scalar.ofNat count : Float) ≤ Scalar.ofNat other :=
  (isNearest_ofNat count).le (isNearest_ofNat other) (Nat.cast_le.mpr ordered)

end Double

/-! ## Differences that are not above zero -/

/-- An unpacked double that is zero or negative. -/
inductive NotAbove : UnpackedFloat → Prop where
  | zero (sign : Sign) : NotAbove (.zero sign)
  | finite (mantissa : ℕ) (exponent : ℤ) (positive : 0 < mantissa) :
      NotAbove (.finite .negative mantissa exponent positive)
  | infinity : NotAbove (.infinity .negative)

/-- A negative double is rounded like the positive one. -/
theorem roundWithAccuracy_negative
    {mantissa : ℕ}
    {exponent : ℤ}
    {accuracy : Accuracy}
    {number : ℤ}
    (numbered :
      Numbered
        (roundWithAccuracy Format.binary64 .positive mantissa exponent accuracy)
        number) :
    NotAbove (UnpackedFloat.unpack Format.binary64
        (UnpackedFloat.pack Format.binary64
          (roundWithAccuracy Format.binary64 .negative mantissa
            exponent accuracy))) := by
  rw [roundWithAccuracy] at numbered ⊢
  dsimp only at numbered ⊢
  split at numbered
  next none =>
    rw [dif_pos none, UnpackedFloat.pack, unpack_packedZero]
    exact .zero _
  next some =>
    rw [dif_neg some]
    cases numbered with
    | finite positive canonical =>
        rw [unpack_pack_finite .negative positive canonical]
        split
        · exact .finite _ _ _
        · exact .infinity

theorem round_negative
    {mantissa : ℕ}
    (positive : 0 < mantissa)
    (exponent : ℤ) :
    NotAbove (UnpackedFloat.unpack Format.binary64
        (UnpackedFloat.pack Format.binary64
          (UnpackedFloat.round Format.binary64 .negative
            mantissa exponent))) := by
  rcases round_numbered positive exponent with ⟨number, _, numbered⟩
  rw [UnpackedFloat.round] at numbered ⊢
  exact roundWithAccuracy_negative numbered

theorem normalize_notAbove
    {mantissa : ℤ}
    (below : mantissa ≤ 0)
    (exponent : ℤ) :
    NotAbove (UnpackedFloat.unpack Format.binary64
        (UnpackedFloat.pack Format.binary64
          (UnpackedFloat.normalize Format.binary64 mantissa exponent
            .positive))) := by
  rw [UnpackedFloat.normalize]
  split
  next negative =>
    rw [Int.compare_eq_lt] at negative
    exact round_negative (by omega) exponent
  next =>
    rw [UnpackedFloat.pack, unpack_packedZero]
    exact .zero .positive
  next positive =>
    rw [Int.compare_eq_gt] at positive
    omega

/-- A difference that is not above zero is not computed as one above zero. -/
theorem Valued.sub_notAbove
    {left right : UnpackedFloat}
    {x y : ℚ}
    (valuedX : Valued left x)
    (valuedY : Valued right y)
    (below : x ≤ y) :
    NotAbove (UnpackedFloat.unpack Format.binary64
        (UnpackedFloat.pack Format.binary64
          (UnpackedFloat.sub Format.binary64 left right))) := by
  cases valuedX with
  | zero =>
      cases valuedY with
      | zero => exact .zero .positive
      | finite positive canonical =>
          show
            NotAbove (UnpackedFloat.unpack _
                (UnpackedFloat.pack _ (.finite .negative _ _ _)))
          rw [unpack_pack_finite .negative positive canonical]
          split
          · exact .finite _ _ _
          · exact .infinity
  | @finite mantissa exponent positive canonical =>
      cases valuedY with
      | zero =>
          have above :=
            mul_pos (Nat.cast_pos.mpr positive) (two_zpow_pos exponent)
          exact absurd below (not_le.mpr above)
      | @finite mantissa' exponent' positive' canonical' =>
          have first :=
            decreaseExponent_value mantissa (min_le_left exponent exponent')
          have second :=
            decreaseExponent_value mantissa' (min_le_right exponent exponent')
          rw [← first, ← second, mul_le_mul_iff_of_pos_right (two_zpow_pos _),
            Nat.cast_le] at below
          exact normalize_notAbove (sub_nonpos.mpr (Int.ofNat_le.mpr below))
            (min exponent exponent')

/-! ## Truncation -/

/-- Rounding to zero takes a number to the whole number below. -/
theorem roundToInt_positive
    (mantissa : ℕ)
    (exponent : ℤ) :
    roundToInt .positive mantissa exponent =
      ⌊(mantissa * 2 ^ exponent : ℚ)⌋₊ := by
  obtain ⟨shift, amount⟩ :
      ∃ shift, shift = (0 - (exponent - exponent.toNat)).toNat :=
    ⟨_, rfl⟩
  have value :
      (mantissa * 2 ^ exponent : ℚ) =
        (mantissa <<< exponent.toNat : ℕ) / 2 ^ shift := by
    have split : exponent = (exponent.toNat : ℤ) - shift := by omega
    rw [Nat.shiftLeft_eq]
    nth_rewrite 1 [split]
    rw [zpow_sub₀ two_ne_zero, zpow_natCast, zpow_natCast, Nat.cast_mul,
      Nat.cast_pow, Nat.cast_ofNat, mul_div_assoc]
  rw [value, ((stands_exact _).shiftRight shift).floor, roundToInt,
    decreaseExponent, sub_zero]
  simp only [shiftToExponent, ← amount]
  rfl

namespace Double

/-- The conversion to a word rounds down. -/
theorem Denotes.toNat_toUInt64
    {x : Float}
    {value : ℚ}
    (denotes : Denotes x value)
    (small : value < 2 ^ 64) :
    x.toUInt64.toNat = ⌊value⌋₊ := by
  have below : ⌊value⌋₊ < UInt64.size := by
    have bound : (⌊value⌋₊ : ℚ) < 2 ^ 64 :=
      (Nat.floor_le (Valued.nonneg denotes)).trans_lt small
    exact_mod_cast bound
  show
    (UInt64.ofNatClamp
        (x.toModel.unpack.toInt 0 (UInt64.size - 1)).toNat).toNat =
      _
  rw [Denotes] at denotes
  generalize x.toModel.unpack = unpacked at denotes
  cases denotes with
  | zero =>
      rw [Nat.floor_zero]
      rfl
  | @finite mantissa exponent positive canonical =>
      rw [toInt, roundToInt_positive, Int.toNat_natCast,
        UInt64.toNat_ofNatClamp_of_lt below]

theorem toNat_toUInt64_of_notAbove
    {x : Float}
    (notAbove : NotAbove x.toModel.unpack) :
    x.toUInt64.toNat = 0 := by
  show
    (UInt64.ofNatClamp
        (x.toModel.unpack.toInt 0 (UInt64.size - 1)).toNat).toNat =
      _
  generalize x.toModel.unpack = unpacked at notAbove
  cases notAbove with
  | zero sign => rfl
  | infinity => rfl
  | finite mantissa exponent positive =>
      have none : (roundToInt .negative mantissa exponent).toNat = 0 :=
        Int.toNat_of_nonpos (Int.neg_nonpos_of_nonneg (Int.natCast_nonneg _))
      rw [toInt, none]
      rfl

/-! ### The least whole number that is not below -/

/--
For a double within the range of exact whole numbers, the least one that is not
below it.
-/
theorem Denotes.ceilNat
    {x : Float}
    {value : ℚ}
    (denotes : Denotes x value)
    (small : value ≤ 2 ^ 52) :
    Scalar.ceilNat x = ⌈value⌉₊ := by
  have nonneg := Valued.nonneg denotes
  have below : ⌊value⌋₊ < 2 ^ 53 := by
    have bound : (⌊value⌋₊ : ℚ) ≤ 2 ^ 52 := (Nat.floor_le nonneg).trans small
    have bound : ⌊value⌋₊ ≤ 2 ^ 52 := by exact_mod_cast bound
    omega
  have whole : Denotes (Float.ofNat ⌊value⌋₊) ⌊value⌋₊ := denotes_ofNat below
  show ceilOfDouble x = _
  rw [ceilOfDouble, denotes.toNat_toUInt64 (small.trans_lt (by norm_num))]
  split
  next integral =>
    rw [denotes.le_iff whole] at integral
    exact le_antisymm (Nat.floor_le_ceil value) (Nat.ceil_le.mpr integral)
  next fractional =>
    rw [denotes.le_iff whole, not_le] at fractional
    exact le_antisymm (Nat.lt_ceil.mpr fractional)
      (Nat.ceil_le_floor_add_one value)

theorem ceilNat_of_notAbove
    {x : Float}
    (notAbove : NotAbove x.toModel.unpack) :
    Scalar.ceilNat x = 0 := by
  have below : x ≤ Float.ofNat 0 := by
    have zero : (Float.ofNat 0).toModel.unpack = .zero .positive := unpack_zero
    rw [Double.le_iff, zero]
    generalize x.toModel.unpack = unpacked at notAbove
    cases notAbove <;> rfl
  show ceilOfDouble x = 0
  rw [ceilOfDouble, toNat_toUInt64_of_notAbove notAbove]
  exact if_pos below

end Double

end RunningStatistics
