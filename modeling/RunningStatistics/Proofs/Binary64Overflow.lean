import RunningStatistics.Proofs.Binary64Scaling

/-!
# Overflow in binary64

The largest double is `2 ^ 1024 - 2 ^ 971`.  Numbers that are nearer to it than
to the next power of two round to it.  Halfway between the two the even mantissa
is that of the power of two, which is no double any more, so from there on
numbers round to infinity.
-/

namespace RunningStatistics

open Float.Model Float.Model.UnpackedFloat

/--
The least number that rounds to infinity: halfway from the largest double to
`2 ^ 1024`.
-/
def overflowThreshold : ℚ :=
  2 ^ 1024 - 2 ^ 970

theorem overflowThreshold_eq :
    overflowThreshold = (2 ^ 53 - 1 / 2) * 2 ^ (971 : ℤ) := by
  have whole : (2 : ℚ) ^ 1024 = 2 ^ 54 * 2 ^ 970 := pow_add 2 54 970
  have half : (2 : ℚ) ^ (971 : ℤ) = 2 * 2 ^ 970 :=
    (zpow_natCast 2 971).trans (pow_succ' 2 970)
  rw [overflowThreshold, whole, half]
  generalize (2 : ℚ) ^ 970 = unit
  ring

/-! ## Rounding near the threshold -/

/--
What is nearer to a whole number than to the next one does not round beyond it.
-/
theorem nearestEven_le_of_lt
    {x : ℚ}
    {count : ℕ}
    (below : x < count + 1 / 2) :
    nearestEven x ≤ count := by
  have within : ⌊x⌋₊ ≤ count := by
    refine Nat.lt_succ_iff.mp ((Nat.floor_lt' (Nat.succ_ne_zero count)).mpr ?_)
    push_cast
    linarith
  rcases Nat.lt_or_eq_of_le within with less | same
  · exact (nearestEven_le_floor_succ x).trans less
  · rw [nearestEven, same, if_pos (by linarith)]

theorem nearestEven_two_pow_sub_half :
    nearestEven (2 ^ 53 - 1 / 2) = 2 ^ 53 := by
  have floor : ⌊(2 ^ 53 - 1 / 2 : ℚ)⌋₊ = 2 ^ 53 - 1 := by
    rw [Nat.floor_eq_iff (by norm_num)]
    norm_num
  rw [nearestEven, floor, if_neg (by norm_num), if_neg (by norm_num)]
  rfl

theorem rounds_overflowThreshold :
    Rounds overflowThreshold serialOfInfinity := by
  have positive := two_zpow_pos 971
  refine ⟨971, ⟨by decide, ?_, .inr ?_⟩, ?_⟩
  · rw [overflowThreshold_eq, add_comm, zpow_add₀ two_ne_zero]
    exact mul_lt_mul_of_pos_right (by norm_num) positive
  · rw [overflowThreshold_eq, add_comm, zpow_add₀ two_ne_zero]
    exact mul_le_mul_of_nonneg_right (by norm_num) positive.le
  · rw [overflowThreshold_eq, mul_div_cancel_right₀ _ positive.ne',
      nearestEven_two_pow_sub_half]
    decide

/-- Below the threshold numbers round to doubles. -/
theorem Rounds.lt_serialOfInfinity
    {x : ℚ}
    {number : ℤ}
    (rounds : Rounds x number)
    (below : x < overflowThreshold) :
    number < serialOfInfinity := by
  rcases rounds with ⟨exponent, at', rfl⟩
  have small : exponent ≤ 971 := by
    rcases at'.filled with minimal | normal
    · omega
    · have limit : overflowThreshold < (2 : ℚ) ^ (1024 : ℤ) :=
        sub_lt_self _ (by positivity)
      have least := two_zpow_lt_iff.mp (normal.trans_lt (below.trans limit))
      omega
  rw [serial, serialOfInfinity]
  rcases Int.lt_or_eq_of_le small with less | rfl
  · have mantissa := at'.mantissa_le
    omega
  · -- At the largest exponent the mantissa must not be rounded up to one bit
    -- more.
    have mantissa : nearestEven (x / 2 ^ (971 : ℤ)) ≤ 2 ^ 53 - 1 := by
      apply nearestEven_le_of_lt
      rw [div_lt_iff₀ (two_zpow_pos 971)]
      refine below.trans_eq ?_
      rw [overflowThreshold_eq]
      norm_num
    omega

namespace Double

/-- Exactly the numbers from the threshold on round to infinity. -/
theorem IsNearest.infinite_iff
    {x : Float}
    {value : ℚ}
    (nearest : IsNearest x value) :
    x.toModel.unpack = .infinity .positive ↔ overflowThreshold ≤ value := by
  rcases nearest with ⟨number, rounds, rank⟩
  constructor
  · intro infinite
    by_contra below
    have finite := rounds.lt_serialOfInfinity (not_le.mp below)
    rw [min_eq_left finite.le] at rank
    rcases rank.valued finite with ⟨_, valued, _⟩
    rw [infinite] at valued
    cases valued
  · intro above
    rw [min_eq_right (rounds_overflowThreshold.mono rounds above)] at rank
    exact rank.unique .infinity

end Double

end RunningStatistics
