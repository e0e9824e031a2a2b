import RunningStatistics.Proofs.Binary64Signs

/-!
# Rounding of doubles

The doubles of positive sign are numbered in their order: the number of a double
is its mantissa plus `2 ^ 52` for every step of its exponent.  A rational number
rounds to the double nearest to it, and a larger one to a double whose number
is not smaller.

Unpacked doubles are rounded from a mantissa with residual bits.  These bits
tell enough of the exact number that the outcome is the nearest double.
-/

namespace RunningStatistics

open Float.Model Float.Model.UnpackedFloat

/-! ## The nearest whole number -/

/--
The whole number nearest to a nonnegative one, the even one of two that are
equally near.
-/
def nearestEven (x : ℚ) : ℕ :=
  if x - ⌊x⌋₊ < 1 / 2 then ⌊x⌋₊
  else if 1 / 2 < x - ⌊x⌋₊ then ⌊x⌋₊ + 1
  else ⌊x⌋₊ + ⌊x⌋₊ % 2

theorem floor_le_nearestEven (x : ℚ) : ⌊x⌋₊ ≤ nearestEven x := by
  rw [nearestEven]
  split_ifs <;> omega

theorem nearestEven_le_floor_succ (x : ℚ) : nearestEven x ≤ ⌊x⌋₊ + 1 := by
  rw [nearestEven]
  split_ifs <;> omega

/-- Rounding to whole numbers is monotone. -/
theorem nearestEven_mono
    {x y : ℚ}
    (ordered : x ≤ y) :
    nearestEven x ≤ nearestEven y := by
  rcases Nat.lt_or_eq_of_le (Nat.floor_mono ordered) with apart | same
  · exact (nearestEven_le_floor_succ x).trans
      ((Nat.succ_le_of_lt apart).trans (floor_le_nearestEven y))
  · rw [nearestEven, nearestEven, same]
    split_ifs <;> first | omega | linarith

theorem nearestEven_natCast (count : ℕ) : nearestEven count = count := by
  rw [nearestEven, Nat.floor_natCast, sub_self, if_pos (by norm_num)]

/-! ## Mantissas with residual bits -/

/-- What the residual bits of a mantissa say about the part that is missing. -/
def Residue : Bool → Bool → ℚ → Prop
  | false, false, rest => rest = 0
  | false, true, rest => 0 < rest ∧ rest < 1 / 2
  | true, false, rest => rest = 1 / 2
  | true, true, rest => 1 / 2 < rest ∧ rest < 1

/--
An extended mantissa that tells everything of a rational number that rounding
depends on.
-/
def Stands (extended : ExtendedMantissa) (x : ℚ) : Prop :=
  Residue extended.roundBit extended.stickyBit (x - extended.mantissa)

theorem Residue.bounds
    {roundBit stickyBit : Bool}
    {rest : ℚ}
    (residue : Residue roundBit stickyBit rest) :
    0 ≤ rest ∧ rest < 1 := by
  cases roundBit <;> cases stickyBit <;> simp only [Residue] at residue <;>
    constructor <;> linarith

theorem Stands.floor
    {extended : ExtendedMantissa}
    {x : ℚ}
    (stands : Stands extended x) :
    ⌊x⌋₊ = extended.mantissa := by
  rcases stands.bounds with ⟨lower, upper⟩
  have nonneg : (0 : ℚ) ≤ extended.mantissa := Nat.cast_nonneg _
  rw [Nat.floor_eq_iff (by linarith)]
  constructor <;> linarith

/--
The residual bits are enough to round to the nearest, with ties to the even.
-/
theorem Stands.roundedMantissa
    {extended : ExtendedMantissa}
    {x : ℚ}
    (stands : Stands extended x) :
    extended.roundedMantissa = nearestEven x := by
  rw [nearestEven, stands.floor]
  rcases extended with ⟨mantissa, roundBit, stickyBit⟩
  cases roundBit <;> cases stickyBit <;> simp only [Stands, Residue] at stands
  · rw [if_pos (by linarith)]
    rfl
  · rw [if_pos stands.2]
    rfl
  · rw [if_neg (by linarith), if_neg (by linarith)]
    rfl
  · rw [if_neg (by linarith), if_pos stands.1]
    rfl

/-- Half of a mantissa, where the bit that is dropped becomes the round bit. -/
theorem Residue.half
    {roundBit stickyBit : Bool}
    {rest : ℚ}
    (residue : Residue roundBit stickyBit rest)
    (dropped : Bool) :
    Residue dropped (roundBit || stickyBit)
      ((rest + if dropped then 1 else 0) / 2) := by
  cases dropped <;>
    cases roundBit <;>
      cases stickyBit <;>
        simp only [Residue, Bool.or_self, Bool.or_true, Bool.or_false, if_true,
          Bool.false_eq_true, if_false] at residue ⊢ <;>
          first | linarith | (constructor <;> linarith)

/-- Dropping the last bit of a mantissa halves the number. -/
theorem Stands.shiftRightOne
    {extended : ExtendedMantissa}
    {x : ℚ}
    (stands : Stands extended x) :
    Stands extended.shiftRightOne (x / 2) := by
  have split : (extended.mantissa : ℚ) =
      2 * (extended.mantissa / 2 : ℕ) + (extended.mantissa % 2 : ℕ) := by
    exact_mod_cast (Nat.div_add_mod extended.mantissa 2).symm
  have dropped : ((extended.mantissa % 2 : ℕ) : ℚ) =
      if (extended.mantissa % 2 != 0) then 1 else 0 := by
    rcases Nat.mod_two_eq_zero_or_one extended.mantissa with even | odd
    · simp [even]
    · simp [odd]
  have half := Residue.half stands (extended.mantissa % 2 != 0)
  rw [← dropped] at half
  have rest : x / 2 - (extended.mantissa / 2 : ℕ) =
      (x - extended.mantissa + (extended.mantissa % 2 : ℕ)) / 2 := by
    linarith
  rw [Stands]
  exact rest ▸ half

theorem Stands.shiftRight
    {extended : ExtendedMantissa}
    {x : ℚ}
    (stands : Stands extended x)
    (count : ℕ) :
    Stands (extended >>> count) (x / 2 ^ count) := by
  show Stands (count.repeat ExtendedMantissa.shiftRightOne extended) _
  induction count with
  | zero => simpa [Nat.repeat] using stands
  | succ count hypothesis =>
      rw [Nat.repeat, pow_succ, ← div_div]
      exact hypothesis.shiftRightOne

theorem stands_exact (mantissa : ℕ) :
    Stands (.ofMantissaAndAccuracy mantissa .exact) mantissa :=
  sub_self (mantissa : ℚ)

/-! ## The numbers of doubles -/

/--
The mantissa and the exponent of a double: 53 bits, or fewer at the least
exponent.
-/
structure Canonical (mantissa : ℕ) (exponent : ℤ) : Prop where
  least : -1074 ≤ exponent
  room : mantissa < 2 ^ 53
  filled : exponent = -1074 ∨ 2 ^ 52 ≤ mantissa

/-- The number of a double of positive sign, counted from zero upwards. -/
def serial (mantissa : ℕ) (exponent : ℤ) : ℤ :=
  (exponent + 1074) * 2 ^ 52 + mantissa

/-- The number of infinity. -/
def serialOfInfinity : ℤ :=
  2047 * 2 ^ 52

/--
The exponent at which a number is rounded: 53 bits remain, or it is the least
exponent.
-/
structure RoundsAt (x : ℚ) (exponent : ℤ) : Prop where
  least : -1074 ≤ exponent
  room : x < 2 ^ (exponent + 53)
  filled : exponent = -1074 ∨ 2 ^ (exponent + 52) ≤ x

/-- A nonnegative rational number rounds to the double of a number. -/
def Rounds (x : ℚ) (number : ℤ) : Prop :=
  ∃ exponent,
    RoundsAt x exponent ∧
    number = serial (nearestEven (x / 2 ^ exponent)) exponent

theorem two_zpow_pos (exponent : ℤ) : (0 : ℚ) < 2 ^ exponent :=
  zpow_pos two_pos exponent

theorem two_zpow_lt_iff {exponent other : ℤ} :
    (2 : ℚ) ^ exponent < 2 ^ other ↔ exponent < other :=
  zpow_lt_zpow_iff_right₀ one_lt_two

theorem two_zpow_le_iff {exponent other : ℤ} :
    (2 : ℚ) ^ exponent ≤ 2 ^ other ↔ exponent ≤ other :=
  zpow_le_zpow_iff_right₀ one_lt_two

namespace RoundsAt

variable {x : ℚ} {exponent : ℤ}

theorem mantissa_le (rounds : RoundsAt x exponent) :
    nearestEven (x / 2 ^ exponent) ≤ 2 ^ 53 := by
  have below : x / 2 ^ exponent ≤ ((2 ^ 53 : ℕ) : ℚ) := by
    rw [div_le_iff₀ (two_zpow_pos exponent)]
    have room := rounds.room
    rw [zpow_add₀ two_ne_zero] at room
    push_cast
    norm_num at room ⊢
    linarith
  exact (nearestEven_mono below).trans (nearestEven_natCast _).le

/-- Away from the least exponent a rounded mantissa has all of its 53 bits. -/
theorem le_mantissa
    (rounds : RoundsAt x exponent)
    (normal : exponent ≠ -1074) :
    2 ^ 52 ≤ nearestEven (x / 2 ^ exponent) := by
  have above : ((2 ^ 52 : ℕ) : ℚ) ≤ x / 2 ^ exponent := by
    rw [le_div_iff₀ (two_zpow_pos exponent)]
    have filled := rounds.filled.resolve_left normal
    rw [zpow_add₀ two_ne_zero] at filled
    push_cast
    norm_num at filled ⊢
    linarith
  exact (nearestEven_natCast _).ge.trans (nearestEven_mono above)

end RoundsAt

/-- Rounding respects the order. -/
theorem Rounds.mono
    {x y : ℚ}
    {first second : ℤ}
    (roundsX : Rounds x first)
    (roundsY : Rounds y second)
    (ordered : x ≤ y) :
    first ≤ second := by
  rcases roundsX with ⟨exponentX, atX, rfl⟩
  rcases roundsY with ⟨exponentY, atY, rfl⟩
  rcases lt_trichotomy exponentX exponentY with lower | rfl | higher
  · have upper := atX.mantissa_le
    have lower' := atY.le_mantissa (by have := atX.least; omega)
    simp only [serial]
    omega
  · have mantissas := nearestEven_mono
      (div_le_div_of_nonneg_right ordered (two_zpow_pos exponentX).le)
    simp only [serial]
    omega
  · have filled := atX.filled.resolve_left (by have := atY.least; omega)
    have crossed :=
      two_zpow_lt_iff.mp (filled.trans_lt (ordered.trans_lt atY.room))
    omega

theorem Rounds.unique
    {x : ℚ}
    {first second : ℤ}
    (one : Rounds x first)
    (other : Rounds x second) :
    first = second :=
  le_antisymm (one.mono other le_rfl) (other.mono one le_rfl)

namespace Canonical

variable {mantissa : ℕ} {exponent : ℤ}

theorem roundsAt (canonical : Canonical mantissa exponent) :
    RoundsAt (mantissa * 2 ^ exponent) exponent where
  least := canonical.least
  room := by
    have room : (mantissa : ℚ) < 2 ^ 53 := by exact_mod_cast canonical.room
    rw [add_comm, zpow_add₀ two_ne_zero]
    exact mul_lt_mul_of_pos_right room (two_zpow_pos exponent)
  filled := by
    refine canonical.filled.imp_right fun filled => ?_
    have filled : (2 ^ 52 : ℚ) ≤ mantissa := by exact_mod_cast filled
    rw [add_comm, zpow_add₀ two_ne_zero]
    exact mul_le_mul_of_nonneg_right filled (two_zpow_pos exponent).le

/-- A double rounds to itself. -/
theorem rounds (canonical : Canonical mantissa exponent) :
    Rounds (mantissa * 2 ^ exponent) (serial mantissa exponent) := by
  refine ⟨exponent, canonical.roundsAt, ?_⟩
  rw [mul_div_cancel_right₀ _ (two_zpow_pos exponent).ne', nearestEven_natCast]

theorem serial_pos
    (canonical : Canonical mantissa exponent)
    (positive : 0 < mantissa) :
    0 < serial mantissa exponent := by
  have least := canonical.least
  rw [serial]
  omega

theorem serial_lt_serialOfInfinity
    (canonical : Canonical mantissa exponent)
    (small : exponent ≤ 971) :
    serial mantissa exponent < serialOfInfinity := by
  have room := canonical.room
  rw [serial, serialOfInfinity]
  omega

/--
Doubles are in the order of their exponents, and of their mantissas if these are
equal.
-/
theorem serial_lt_of_exponent_lt
    {other : ℕ}
    {above : ℤ}
    (canonical : Canonical mantissa exponent)
    (higher : Canonical other above)
    (lower : exponent < above) :
    serial mantissa exponent < serial other above := by
  have room := canonical.room
  have filled := higher.filled.resolve_left (by have := canonical.least; omega)
  rw [serial, serial]
  omega

/-- Different doubles have different numbers. -/
theorem eq_of_serial_eq
    {other : ℕ}
    {above : ℤ}
    (canonical : Canonical mantissa exponent)
    (second : Canonical other above)
    (same : serial mantissa exponent = serial other above) :
    mantissa = other ∧ exponent = above := by
  rcases lt_trichotomy exponent above with lower | rfl | higher
  · exact absurd same (canonical.serial_lt_of_exponent_lt second lower).ne
  · rw [serial, serial] at same
    exact ⟨by omega, rfl⟩
  · exact absurd same.symm (second.serial_lt_of_exponent_lt canonical higher).ne

/-- The order of the numbers is the order of the values. -/
theorem serial_le_iff
    {other : ℕ}
    {above : ℤ}
    (canonical : Canonical mantissa exponent)
    (second : Canonical other above) :
    serial mantissa exponent ≤ serial other above ↔
      (mantissa * 2 ^ exponent : ℚ) ≤ other * 2 ^ above := by
  constructor
  · intro ordered
    by_contra larger
    have same :=
      le_antisymm ordered
        (second.rounds.mono canonical.rounds (not_le.mp larger).le)
    rcases canonical.eq_of_serial_eq second same with ⟨rfl, rfl⟩
    exact larger le_rfl
  · exact canonical.rounds.mono second.rounds

end Canonical

/-! ## Rounding unpacked doubles -/

/--
An unpacked double of positive sign that has a number; its exponent may be too
large.
-/
inductive Numbered : UnpackedFloat → ℤ → Prop where
  | zero : Numbered (.zero .positive) 0
  | finite {mantissa : ℕ} {exponent : ℤ} (positive : 0 < mantissa)
      (canonical : Canonical mantissa exponent) :
      Numbered (.finite .positive mantissa exponent positive)
        (serial mantissa exponent)

theorem targetExponent_eq
    (mantissa : ℕ)
    (exponent : ℤ) :
    Format.binary64.targetExponent (totalExponent mantissa exponent) =
      max (mantissa.log2 + exponent - 52) (-1074) := by
  have least : Format.binary64.minExponent = -1074 := by decide
  have bits : Format.binary64.mantissaBits = 53 := by decide
  rw [Format.targetExponent, totalExponent, least, bits]
  omega

theorem shiftToTargetExponent_eq
    {mantissa : ℕ}
    {exponent : ℤ}
    (ready :
      exponent ≤
        Format.binary64.targetExponent (totalExponent mantissa exponent))
    (accuracy : Accuracy) :
    ∃ shift : ℕ,
      exponent + shift =
        Format.binary64.targetExponent (totalExponent mantissa exponent) ∧
      shiftToTargetExponent Format.binary64 mantissa exponent accuracy =
        (ExtendedMantissa.ofMantissaAndAccuracy mantissa accuracy >>> shift,
          exponent + shift) := by
  refine ⟨(Format.binary64.targetExponent (totalExponent mantissa exponent) -
        exponent).toNat, ?_, rfl⟩
  omega

/-- A mantissa of at most 53 bits stays as it is. -/
theorem shiftToTargetExponent_of_lt
    {mantissa : ℕ}
    {exponent : ℤ}
    (small : mantissa < 2 ^ 53)
    (least : -1074 ≤ exponent) :
    shiftToTargetExponent Format.binary64 mantissa exponent .exact =
      (⟨mantissa, false, false⟩, exponent) := by
  have bits : mantissa.log2 ≤ 52 := by
    rcases Nat.eq_zero_or_pos mantissa with rfl | positive
    · simp
    · exact Nat.lt_succ_iff.mp ((Nat.log2_lt positive.ne').mpr small)
  have none :
      (Format.binary64.targetExponent (totalExponent mantissa exponent) -
        exponent).toNat = 0 := by
    rw [targetExponent_eq]
    omega
  rw [shiftToTargetExponent, shiftToExponent, none, Nat.cast_zero, add_zero]
  rfl

/-- A mantissa that was rounded up to one bit too many loses it. -/
theorem shiftToTargetExponent_of_eq
    {exponent : ℤ}
    (least : -1074 ≤ exponent) :
    shiftToTargetExponent Format.binary64 (2 ^ 53) exponent .exact =
      (⟨2 ^ 52, false, false⟩, exponent + 1) := by
  have one :
      (Format.binary64.targetExponent (totalExponent (2 ^ 53) exponent) -
        exponent).toNat = 1 := by
    rw [targetExponent_eq, Nat.log2_two_pow]
    omega
  rw [shiftToTargetExponent, shiftToExponent, one]
  rfl

/-- The target exponent is the one at which the number is rounded. -/
theorem roundsAt_targetExponent
    {mantissa : ℕ}
    {exponent : ℤ}
    {x : ℚ}
    (lower : (mantissa : ℚ) ≤ x / 2 ^ exponent)
    (upper : x / 2 ^ exponent < mantissa + 1)
    (ready : 52 ≤ mantissa.log2 ∨ exponent ≤ -1074) :
    RoundsAt x
      (Format.binary64.targetExponent (totalExponent mantissa exponent)) := by
  have positive := two_zpow_pos exponent
  rw [le_div_iff₀ positive] at lower
  rw [div_lt_iff₀ positive] at upper
  rw [targetExponent_eq]
  refine ⟨le_max_right _ _, ?_, ?_⟩
  · have bits :
        ((mantissa + 1 : ℕ) : ℚ) ≤ ((2 ^ (mantissa.log2 + 1) : ℕ) : ℚ) := by
      exact_mod_cast Nat.lt_log2_self
    calc x < (mantissa + 1) * 2 ^ exponent := upper
      _ ≤ 2 ^ (mantissa.log2 + 1 : ℤ) * 2 ^ exponent := by
        refine mul_le_mul_of_nonneg_right ?_ positive.le
        exact_mod_cast bits
      _ = 2 ^ (mantissa.log2 + 1 + exponent : ℤ) :=
        (zpow_add₀ two_ne_zero _ _).symm
      _ ≤ _ := two_zpow_le_iff.mpr (by omega)
  · by_cases minimal : max (mantissa.log2 + exponent - 52 : ℤ) (-1074) = -1074
    · exact .inl minimal
    · have full : mantissa ≠ 0 := by
        rintro rfl
        simp only [Nat.log2_zero] at ready minimal
        omega
      have bits : (((2 ^ mantissa.log2 : ℕ)) : ℚ) ≤ mantissa := by
        exact_mod_cast Nat.log2_self_le full
      refine .inr ?_
      calc (2 : ℚ) ^ (max (mantissa.log2 + exponent - 52 : ℤ) (-1074) + 52)
          = 2 ^ (mantissa.log2 + exponent : ℤ) := by
            congr 1
            omega
        _ = 2 ^ (mantissa.log2 : ℤ) * 2 ^ exponent := zpow_add₀ two_ne_zero _ _
        _ ≤ mantissa * 2 ^ exponent := by
            refine mul_le_mul_of_nonneg_right ?_ positive.le
            exact_mod_cast bits
        _ ≤ x := lower

theorem mantissa_ofMantissaAndAccuracy
    (mantissa : ℕ)
    (accuracy : Accuracy) :
    (ExtendedMantissa.ofMantissaAndAccuracy mantissa accuracy).mantissa =
      mantissa := by
  cases accuracy with
  | exact => rfl
  | inexact order => cases order <;> rfl

/-- What becomes of a mantissa that was rounded at an exponent. -/
theorem numbered_of_rounded
    {x : ℚ}
    {exponent : ℤ}
    (rounds : RoundsAt x exponent) :
    let rounded := nearestEven (x / 2 ^ exponent)
    let (extended, exponent') :=
      shiftToTargetExponent Format.binary64 rounded exponent .exact
    Numbered
      (if h : extended.mantissa = 0 then
        .zero .positive
      else
        .finite .positive extended.mantissa exponent' (Nat.pos_of_ne_zero h))
      (serial rounded exponent) := by
  intro rounded
  have least := rounds.least
  have upper : rounded ≤ 2 ^ 53 := rounds.mantissa_le
  have lower : exponent ≠ -1074 → 2 ^ 52 ≤ rounded := rounds.le_mantissa
  rcases Nat.lt_or_eq_of_le upper with small | full
  · rw [shiftToTargetExponent_of_lt small least]
    dsimp only
    split
    next none =>
      have minimal : exponent = -1074 := by
        by_contra normal
        have := lower normal
        omega
      rw [none, minimal]
      exact .zero
    next some =>
      exact .finite _ ⟨least, small, or_iff_not_imp_left.mpr lower⟩
  · rw [full, shiftToTargetExponent_of_eq least]
    have carried :
        serial (2 ^ 53) exponent = serial (2 ^ 52) (exponent + 1) := by
      simp only [serial]
      omega
    rw [carried]
    exact .finite (by decide) ⟨by omega, by decide, .inr le_rfl⟩

/-- Rounding a mantissa with residual bits yields the nearest double. -/
theorem roundWithAccuracy_numbered
    {mantissa : ℕ}
    {exponent : ℤ}
    {accuracy : Accuracy}
    {x : ℚ}
    (stands :
      Stands (.ofMantissaAndAccuracy mantissa accuracy) (x / 2 ^ exponent))
    (ready : 52 ≤ mantissa.log2 ∨ exponent ≤ -1074) :
    ∃ number,
      Rounds x number ∧
      Numbered
        (roundWithAccuracy Format.binary64 .positive mantissa exponent accuracy)
        number := by
  have bounds := stands.bounds
  rw [mantissa_ofMantissaAndAccuracy] at bounds
  have rounds := roundsAt_targetExponent (sub_nonneg.mp bounds.1)
    (sub_lt_iff_lt_add'.mp bounds.2) ready
  have low :
      exponent ≤
        Format.binary64.targetExponent (totalExponent mantissa exponent) := by
    rw [targetExponent_eq]
    omega
  rcases shiftToTargetExponent_eq low accuracy with ⟨shift, reached, shifted⟩
  rw [← reached] at rounds
  have scaled : x / 2 ^ exponent / 2 ^ shift = x / 2 ^ (exponent + shift) := by
    rw [div_div, zpow_add₀ two_ne_zero, zpow_natCast]
  have rounded := (stands.shiftRight shift).roundedMantissa
  rw [scaled] at rounded
  refine ⟨_, ⟨_, rounds, rfl⟩, ?_⟩
  have numbered := numbered_of_rounded rounds
  rw [roundWithAccuracy, shifted]
  simp only [rounded]
  exact numbered

theorem le_log2_of_le
    {bits mantissa : ℕ}
    (large : 2 ^ bits ≤ mantissa) :
    bits ≤ mantissa.log2 :=
  (Nat.le_log2
    (Nat.ne_of_gt (Nat.lt_of_lt_of_le (Nat.two_pow_pos bits) large))).mpr large

/-- Rounding any mantissa and exponent yields the nearest double. -/
theorem round_numbered
    {mantissa : ℕ}
    (positive : 0 < mantissa)
    (exponent : ℤ) :
    ∃ number,
      Rounds (mantissa * 2 ^ exponent) number ∧
      Numbered (UnpackedFloat.round Format.binary64 .positive mantissa exponent)
        number := by
  rw [UnpackedFloat.round, targetExponent_eq]
  obtain ⟨shift, amount⟩ :
      ∃ shift,
        shift =
          (exponent - max (mantissa.log2 + exponent - 52 : ℤ) (-1074)).toNat :=
    ⟨_, rfl⟩
  rw [decreaseExponent, ← amount]
  refine roundWithAccuracy_numbered ?_ ?_
  · have value : (mantissa * 2 ^ exponent / 2 ^ (exponent - shift) : ℚ) =
        (mantissa <<< shift : ℕ) := by
      rw [Nat.shiftLeft_eq, zpow_sub₀ two_ne_zero, zpow_natCast]
      field_simp [(two_zpow_pos exponent).ne']
      push_cast
      ring
    rw [value]
    exact stands_exact _
  · have bits : mantissa.log2 + shift ≤ (mantissa <<< shift).log2 := by
      apply le_log2_of_le
      rw [pow_add, Nat.shiftLeft_eq]
      exact Nat.mul_le_mul_right _ (Nat.log2_self_le positive.ne')
    omega

end RunningStatistics
