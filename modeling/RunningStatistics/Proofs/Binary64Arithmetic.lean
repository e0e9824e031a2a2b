import RunningStatistics.Proofs.Binary64Rounding

/-!
# Arithmetic of unpacked doubles

Products, quotients, sums and positive differences of unpacked doubles are the
doubles nearest to the exact results, which are rational numbers.
-/

namespace RunningStatistics

open Float.Model Float.Model.UnpackedFloat

/-! ## Operations on unpacked doubles -/

/-- An unpacked double of positive sign that denotes a number. -/
inductive Valued : UnpackedFloat → ℚ → Prop where
  | zero : Valued (.zero .positive) 0
  | finite {mantissa : ℕ} {exponent : ℤ} (positive : 0 < mantissa)
      (canonical : Canonical mantissa exponent) :
      Valued (.finite .positive mantissa exponent positive)
        (mantissa * 2 ^ exponent)

/-- An unpacked double is nearest to a nonnegative rational number. -/
def Nearest (unpacked : UnpackedFloat) (x : ℚ) : Prop :=
  ∃ number, Rounds x number ∧ Numbered unpacked number

theorem rounds_zero : Rounds 0 0 := by
  have canonical : Canonical 0 (-1074) := ⟨le_rfl, by decide, .inl rfl⟩
  simpa [serial] using canonical.rounds

theorem nearest_zero : Nearest (.zero .positive) 0 :=
  ⟨0, rounds_zero, .zero⟩

theorem Valued.nonneg
    {unpacked : UnpackedFloat}
    {x : ℚ}
    (valued : Valued unpacked x) :
    0 ≤ x := by
  cases valued with
  | zero => exact le_rfl
  | @finite mantissa exponent positive canonical =>
      exact mul_nonneg (Nat.cast_nonneg _) (two_zpow_pos exponent).le

theorem Valued.nearest
    {unpacked : UnpackedFloat}
    {x : ℚ}
    (valued : Valued unpacked x) :
    Nearest unpacked x := by
  cases valued with
  | zero => exact nearest_zero
  | finite positive canonical =>
      exact ⟨_, canonical.rounds, .finite positive canonical⟩

/-- The product of mantissas has bits enough for its exponent. -/
theorem Canonical.ready_mul
    {left right : ℕ}
    {first second : ℤ}
    (canonical : Canonical left first)
    (other : Canonical right second)
    (positiveLeft : 0 < left)
    (positiveRight : 0 < right) :
    52 ≤ (left * right).log2 ∨ first + second ≤ -1074 := by
  rcases canonical.filled with minimal | normal
  · rcases other.filled with minimal' | normal
    · exact .inr (by omega)
    · exact .inl (le_log2_of_le
          (normal.trans (Nat.le_mul_of_pos_left right positiveLeft)))
  · exact .inl (le_log2_of_le
        (normal.trans (Nat.le_mul_of_pos_right left positiveRight)))

/-- Products are rounded once. -/
theorem Valued.mul
    {left right : UnpackedFloat}
    {x y : ℚ}
    (valuedX : Valued left x)
    (valuedY : Valued right y) :
    Nearest (UnpackedFloat.mul Format.binary64 left right) (x * y) := by
  cases valuedX with
  | zero =>
      rw [zero_mul]
      cases valuedY with
      | zero => exact nearest_zero
      | finite => exact nearest_zero
  | @finite mantissa exponent positive canonical =>
      cases valuedY with
      | zero =>
          rw [mul_zero]
          exact nearest_zero
      | @finite mantissa' exponent' positive' canonical' =>
          refine roundWithAccuracy_numbered ?_
            (canonical.ready_mul canonical' positive positive')
          have value : (mantissa * 2 ^ exponent * (mantissa' * 2 ^ exponent') /
              2 ^ (exponent + exponent') : ℚ) = (mantissa * mantissa' : ℕ) := by
            rw [zpow_add₀ two_ne_zero, mul_mul_mul_comm, mul_div_cancel_right₀
              _ (mul_pos (two_zpow_pos _) (two_zpow_pos _)).ne', Nat.cast_mul]
          rw [value]
          exact stands_exact _

/-- What a division leaves over tells how the quotient is to be rounded. -/
theorem stands_quotient
    (dividend : ℕ)
    {divisor : ℕ}
    (positive : 0 < divisor) :
    Stands
      (.ofMantissaAndAccuracy (dividend / divisor)
        (accuracyOfFraction (dividend % divisor) divisor))
      ((dividend : ℚ) / divisor) := by
  have positive' : (0 : ℚ) < divisor := by exact_mod_cast positive
  have split :
      (dividend : ℚ) =
        divisor * (dividend / divisor : ℕ) + (dividend % divisor : ℕ) := by
    exact_mod_cast (Nat.div_add_mod dividend divisor).symm
  have rest : (dividend : ℚ) / divisor - (dividend / divisor : ℕ) =
      (dividend % divisor : ℕ) / divisor := by
    rw [sub_eq_iff_eq_add, div_eq_iff positive'.ne', add_mul,
      div_mul_cancel₀ _ positive'.ne']
    linarith
  have below : ((dividend % divisor : ℕ) : ℚ) < divisor := by
    exact_mod_cast Nat.mod_lt dividend positive
  rw [Stands, mantissa_ofMantissaAndAccuracy, rest, accuracyOfFraction]
  split
  next none => simp [none, ExtendedMantissa.ofMantissaAndAccuracy, Residue]
  next some =>
    have above : (0 : ℚ) < (dividend % divisor : ℕ) := by
      exact_mod_cast Nat.pos_of_ne_zero some
    cases order : compare (2 * (dividend % divisor)) divisor with
    | lt =>
        have half : (2 * (dividend % divisor : ℕ) : ℚ) < divisor := by
          exact_mod_cast Nat.compare_eq_lt.mp order
        refine ⟨div_pos above positive', ?_⟩
        rw [div_lt_iff₀ positive']
        linarith
    | eq =>
        have half : (2 * (dividend % divisor : ℕ) : ℚ) = divisor := by
          exact_mod_cast Nat.compare_eq_eq.mp order
        show _ = _
        rw [div_eq_iff positive'.ne']
        linarith
    | gt =>
        have half : (divisor : ℚ) < 2 * (dividend % divisor : ℕ) := by
          exact_mod_cast Nat.compare_eq_gt.mp order
        constructor
        · rw [lt_div_iff₀ positive']
          linarith
        · rw [div_lt_one positive']
          exact below

/-- The quotient of mantissas has bits enough for its exponent. -/
theorem ready_divCore
    {left right : ℕ}
    (positiveLeft : 0 < left)
    (positiveRight : 0 < right)
    (first second : ℤ) :
    let target :=
      min (first - second)
        (Format.binary64.targetExponent
          (totalExponent left first - totalExponent right second))
    52 ≤ (left <<< (first - second - target).toNat / right).log2 ∨
    target ≤ -1074 := by
  intro target
  by_cases minimal : target ≤ -1074
  · exact .inr minimal
  refine .inl (le_log2_of_le ?_)
  have within :
      target ≤
        Format.binary64.targetExponent
          (totalExponent left first - totalExponent right second) :=
    min_le_right _ _
  have least : Format.binary64.minExponent = -1074 := by decide
  have bits : Format.binary64.mantissaBits = 53 := by decide
  rw [Format.targetExponent, totalExponent, totalExponent, least, bits]
    at within
  have shift :
      53 + right.log2 ≤ left.log2 + (first - second - target).toNat := by
    omega
  rw [Nat.le_div_iff_mul_le positiveRight, Nat.shiftLeft_eq]
  calc
    2 ^ 52 * right ≤ 2 ^ 52 * 2 ^ (right.log2 + 1) :=
      Nat.mul_le_mul_left _ Nat.lt_log2_self.le
    _ = 2 ^ (53 + right.log2) := by ring
    _ ≤ 2 ^ (left.log2 + (first - second - target).toNat) :=
      Nat.pow_le_pow_right two_pos shift
    _ = 2 ^ left.log2 * 2 ^ (first - second - target).toNat := pow_add _ _ _
    _ ≤ _ := Nat.mul_le_mul_right _ (Nat.log2_self_le positiveLeft.ne')

theorem quotient_value
    (dividend divisor : ℕ)
    {first second target : ℤ}
    (low : target ≤ first - second) :
    (dividend * 2 ^ first / (divisor * 2 ^ second) / 2 ^ target : ℚ) =
      (dividend <<< (first - second - target).toNat : ℕ) / divisor := by
  obtain ⟨shift, amount⟩ : ∃ shift, shift = (first - second - target).toNat :=
    ⟨_, rfl⟩
  have split : first = shift + target + second := by omega
  rw [← amount, split, Nat.shiftLeft_eq, zpow_add₀ two_ne_zero,
    zpow_add₀ two_ne_zero, zpow_natCast, ← mul_assoc,
    mul_div_mul_right _ _ (two_zpow_pos second).ne', div_right_comm,
    ← mul_assoc, mul_div_cancel_right₀ _ (two_zpow_pos target).ne',
    Nat.cast_mul, Nat.cast_pow, Nat.cast_ofNat]

/--
Quotients are rounded once, for the remainder tells what the quotient lacks.
-/
theorem Valued.div
    {left right : UnpackedFloat}
    {x y : ℚ}
    (valuedX : Valued left x)
    (valuedY : Valued right y)
    (positive : 0 < y) :
    Nearest (UnpackedFloat.div Format.binary64 left right) (x / y) := by
  cases valuedY with
  | zero => exact absurd positive (lt_irrefl 0)
  | @finite divisor exponent' positive' canonical' =>
      cases valuedX with
      | zero =>
          rw [zero_div]
          exact nearest_zero
      | @finite dividend exponent above canonical =>
          refine roundWithAccuracy_numbered ?_
            (ready_divCore above positive' exponent exponent')
          rw [quotient_value dividend divisor (min_le_left _ _)]
          exact stands_quotient _ positive'

/-- Lowering the exponent of a mantissa keeps its value. -/
theorem decreaseExponent_value
    (mantissa : ℕ)
    {exponent lower : ℤ}
    (below : lower ≤ exponent) :
    ((decreaseExponent mantissa exponent lower).1 : ℚ) * 2 ^ lower =
      mantissa * 2 ^ exponent := by
  obtain ⟨shift, amount⟩ : ∃ shift, shift = (exponent - lower).toNat := ⟨_, rfl⟩
  have split : exponent = shift + lower := by omega
  rw [decreaseExponent, ← amount, split, zpow_add₀ two_ne_zero, zpow_natCast,
    Nat.shiftLeft_eq, Nat.cast_mul, Nat.cast_pow, Nat.cast_ofNat, mul_assoc]

theorem decreaseExponent_pos
    {mantissa : ℕ}
    (positive : 0 < mantissa)
    (exponent lower : ℤ) :
    0 < (decreaseExponent mantissa exponent lower).1 := by
  rw [decreaseExponent, Nat.shiftLeft_eq]
  exact Nat.mul_pos positive (Nat.two_pow_pos _)

theorem normalize_numbered
    {mantissa : ℤ}
    (positive : 0 < mantissa)
    (exponent : ℤ) :
    Nearest
      (UnpackedFloat.normalize Format.binary64 mantissa exponent .positive)
      (mantissa * 2 ^ exponent) := by
  have greater : compare mantissa 0 = .gt := by
    rw [Int.compare_eq_gt]
    exact positive
  have cast : (mantissa : ℚ) = (mantissa.toNat : ℚ) := by
    exact_mod_cast (Int.toNat_of_nonneg positive.le).symm
  rw [UnpackedFloat.normalize, greater, cast]
  exact round_numbered (by omega) exponent

theorem Valued.add
    {left right : UnpackedFloat}
    {x y : ℚ}
    (valuedX : Valued left x)
    (valuedY : Valued right y) :
    Nearest (UnpackedFloat.add Format.binary64 left right) (x + y) := by
  cases valuedX with
  | zero =>
      rw [zero_add]
      cases valuedY with
      | zero => exact nearest_zero
      | finite positive canonical =>
          exact (Valued.finite positive canonical).nearest
  | @finite mantissa exponent positive canonical =>
      cases valuedY with
      | zero =>
          rw [add_zero]
          exact (Valued.finite positive canonical).nearest
      | @finite mantissa' exponent' positive' canonical' =>
          have above :=
            decreaseExponent_pos positive exponent (min exponent exponent')
          have total :
              (0 : ℤ) <
                (decreaseExponent mantissa exponent
                    (min exponent exponent')).1 +
                  (decreaseExponent mantissa' exponent'
                    (min exponent exponent')).1 := by
            omega
          have sum := normalize_numbered total (min exponent exponent')
          rw [Int.cast_add, Int.cast_natCast, Int.cast_natCast, add_mul,
            decreaseExponent_value mantissa (min_le_left exponent exponent'),
            decreaseExponent_value mantissa' (min_le_right exponent exponent')]
            at sum
          exact sum

/--
A difference that is positive is rounded; any other one is not above zero.
-/
theorem Valued.sub
    {left right : UnpackedFloat}
    {x y : ℚ}
    (valuedX : Valued left x)
    (valuedY : Valued right y)
    (larger : y < x) :
    Nearest (UnpackedFloat.sub Format.binary64 left right) (x - y) := by
  cases valuedX with
  | zero => exact absurd larger (not_lt.mpr valuedY.nonneg)
  | @finite mantissa exponent positive canonical =>
      cases valuedY with
      | zero =>
          rw [sub_zero]
          exact (Valued.finite positive canonical).nearest
      | @finite mantissa' exponent' positive' canonical' =>
          have first :=
            decreaseExponent_value mantissa (min_le_left exponent exponent')
          have second :=
            decreaseExponent_value mantissa' (min_le_right exponent exponent')
          rw [← first, ← second, mul_lt_mul_iff_of_pos_right (two_zpow_pos _),
            Nat.cast_lt] at larger
          have rest :
              (0 : ℤ) <
                (decreaseExponent mantissa exponent
                    (min exponent exponent')).1 -
                  (decreaseExponent mantissa' exponent'
                    (min exponent exponent')).1 := by
            omega
          have difference := normalize_numbered rest (min exponent exponent')
          rw [Int.cast_sub, Int.cast_natCast, Int.cast_natCast, sub_mul, first,
            second] at difference
          exact difference

end RunningStatistics
