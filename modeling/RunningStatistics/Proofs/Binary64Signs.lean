import RunningStatistics.Correlation.Config
import RunningStatistics.Scalar.Binary64
import Mathlib

/-!
# Signs of doubles

Sums, products and quotients of positive doubles may underflow to zero or
overflow to infinity, but they keep the positive sign and are never undefined.
Such doubles are not below zero, so a grid of lags always has the lag zero.

The statements are about unpacked doubles first.  Every operation packs its
result again; packing may replace it by infinity, but keeps its sign.
-/

namespace RunningStatistics

open Float.Model Float.Model.UnpackedFloat

/-! ## Unpacked doubles -/

/--
A double of positive sign that is not undefined: zero, a positive number, or
infinity.
-/
inductive Unsigned : UnpackedFloat → Prop where
  | infinity : Unsigned (.infinity .positive)
  | zero : Unsigned (.zero .positive)
  | finite (mantissa : Nat) (exponent : Int) (positive : 0 < mantissa) :
      Unsigned (.finite .positive mantissa exponent positive)

/-- A double that is a positive number. -/
def PositiveNumber (unpacked : UnpackedFloat) : Prop :=
  ∃ mantissa exponent positive,
    unpacked = .finite .positive mantissa exponent positive

variable {spec : Format}

/-- Rounding underflows to zero at worst; it does not change the sign. -/
theorem unsigned_roundWithAccuracy
    (mantissa : Nat)
    (exponent : Int)
    (accuracy : Accuracy) :
    Unsigned (roundWithAccuracy spec .positive mantissa exponent accuracy) := by
  rw [roundWithAccuracy]
  dsimp only
  split
  · exact .zero
  · exact .finite _ _ _

theorem unsigned_normalize
    {mantissa : Int}
    (nonneg : 0 ≤ mantissa)
    (exponent : Int) :
    Unsigned (UnpackedFloat.normalize spec mantissa exponent .positive) := by
  rw [UnpackedFloat.normalize]
  split
  next below =>
    rw [Int.compare_eq_lt] at below
    omega
  next => exact .zero
  next => exact unsigned_roundWithAccuracy _ _ _

/--
A product of a positive number and an unsigned double is unsigned: no zero
meets an infinity.
-/
theorem PositiveNumber.mul
    {left right : UnpackedFloat}
    (positive : PositiveNumber left)
    (unsigned : Unsigned right) :
    Unsigned (UnpackedFloat.mul spec left right) := by
  rcases positive with ⟨mantissa, exponent, above, rfl⟩
  cases unsigned with
  | infinity => exact .infinity
  | zero => exact .zero
  | finite => exact unsigned_roundWithAccuracy _ _ _

theorem Unsigned.mul
    {left right : UnpackedFloat}
    (unsigned : Unsigned left)
    (positive : PositiveNumber right) :
    Unsigned (UnpackedFloat.mul spec left right) := by
  rcases positive with ⟨mantissa, exponent, above, rfl⟩
  cases unsigned with
  | infinity => exact .infinity
  | zero => exact .zero
  | finite => exact unsigned_roundWithAccuracy _ _ _

/--
A positive number is divided by an unsigned double without becoming undefined.
-/
theorem PositiveNumber.div
    {left right : UnpackedFloat}
    (positive : PositiveNumber left)
    (unsigned : Unsigned right) :
    Unsigned (UnpackedFloat.div spec left right) := by
  rcases positive with ⟨mantissa, exponent, above, rfl⟩
  cases unsigned with
  | infinity => exact .zero
  | zero => exact .infinity
  | finite => exact unsigned_roundWithAccuracy _ _ _

/-- Unsigned doubles are added without cancellation. -/
theorem Unsigned.add
    {left right : UnpackedFloat}
    (first : Unsigned left)
    (second : Unsigned right) :
    Unsigned (UnpackedFloat.add spec left right) := by
  cases first with
  | infinity => cases second <;> exact .infinity
  | zero =>
      cases second with
      | infinity => exact .infinity
      | zero => exact .zero
      | finite => exact .finite _ _ _
  | finite =>
      cases second with
      | infinity => exact .infinity
      | zero => exact .finite _ _ _
      | finite =>
          exact unsigned_normalize
            (Int.add_nonneg (Int.natCast_nonneg _) (Int.natCast_nonneg _)) _

theorem Unsigned.zero_le
    {unpacked : UnpackedFloat}
    (unsigned : Unsigned unpacked) :
    UnpackedFloat.le (.zero .positive) unpacked = true := by
  cases unsigned <;> rfl

/-! ## Packing -/

theorem unpackSign_packComponents
    (sign : Sign)
    (exponent : BitVec spec.exponentBits)
    (mantissa : BitVec spec.mantissaBitsWithoutImplicit) :
    unpackSign (packComponents spec sign exponent mantissa) =
      sign.toBitVec := by
  ext index below
  obtain rfl : index = 0 := Nat.lt_one_iff.mp below
  simp [unpackSign, packComponents, BitVec.getLsbD_append,
    BitVec.getElem_append]

/--
Components unpack to an unsigned double, unless they are those of an undefined
one.
-/
theorem unsigned_unpack_packComponents
    {exponent : BitVec spec.exponentBits}
    {mantissa : BitVec spec.mantissaBitsWithoutImplicit}
    (defined : exponent = -1#_ → mantissa = 0#_) :
    Unsigned (UnpackedFloat.unpack spec
        (packComponents spec .positive exponent mantissa)) := by
  rw [UnpackedFloat.unpack]
  simp only [unpackMantissa_packComponents, unpackExponent_packComponents,
    unpackSign_packComponents]
  split
  next top =>
    rw [if_pos (defined top)]
    exact .infinity
  next =>
    split
    next =>
      split
      · exact .zero
      · exact .finite _ _ _
    next => exact .finite _ _ _

/-- Packing may turn a number into infinity, but keeps the sign. -/
theorem Unsigned.unpack_pack
    {unpacked : UnpackedFloat}
    (unsigned : Unsigned unpacked) :
    Unsigned (UnpackedFloat.unpack spec
        (UnpackedFloat.pack spec unpacked)) := by
  cases unsigned with
  | infinity => exact unsigned_unpack_packComponents fun _ => rfl
  | zero => exact unsigned_unpack_packComponents fun _ => rfl
  | finite mantissa exponent positive =>
      unfold UnpackedFloat.pack
      dsimp only
      split
      next => exact unsigned_unpack_packComponents fun _ => rfl
      next room =>
        split
        · apply unsigned_unpack_packComponents
          intro top
          have same := congrArg BitVec.toNat top
          rw [BitVec.neg_one_eq_allOnes, BitVec.toNat_ofNat,
            BitVec.toNat_allOnes, Nat.mod_eq_of_lt (by omega)] at same
          omega
        · apply unsigned_unpack_packComponents
          intro top
          have same := congrArg BitVec.toNat top
          have room := Nat.one_lt_two_pow (Nat.ne_of_gt spec.he)
          rw [BitVec.neg_one_eq_allOnes, BitVec.toNat_zero,
            BitVec.toNat_allOnes] at same
          omega

/-- Decimal fractions without a sign are unsigned doubles. -/
theorem unsigned_ofScientific
    (mantissa : Nat)
    (exponent : Int) :
    Unsigned (UnpackedFloat.ofScientific spec mantissa exponent) := by
  rw [UnpackedFloat.ofScientific]
  split
  next => exact .zero
  next =>
    split
    next => exact .infinity
    next =>
      split
      next => exact .zero
      next =>
        split
        · exact PositiveNumber.mul ⟨_, _, _, rfl⟩ (.finite _ _ _)
        · exact PositiveNumber.div ⟨_, _, _, rfl⟩ (.finite _ _ _)

/-! ## Doubles -/

namespace Double

/-- A double of positive sign that is not undefined. -/
def IsUnsigned (x : Float) : Prop :=
  Unsigned x.toModel.unpack

/-- A double that is a positive number. -/
def IsPositive (x : Float) : Prop :=
  PositiveNumber x.toModel.unpack

theorem le_iff {left right : Float} :
    left ≤ right ↔
      UnpackedFloat.le left.toModel.unpack right.toModel.unpack = true :=
  decide_eq_true_iff

theorem lt_iff {left right : Float} :
    left < right ↔
      UnpackedFloat.lt left.toModel.unpack right.toModel.unpack = true :=
  decide_eq_true_iff

theorem unpack_zero : (Scalar.zero : Float).toModel.unpack = .zero .positive :=
  rfl

/-- The check for positive numbers admits positive numbers only. -/
theorem isPositive_of_check
    {x : Float}
    (positive : Scalar.isPositive x = true) :
    IsPositive x := by
  rw [Scalar.isPositive, Bool.and_eq_true, decide_eq_true_eq, lt_iff,
    unpack_zero] at positive
  rcases positive with ⟨finite, above⟩
  replace finite : x.toModel.unpack.isFinite = true := finite
  rw [IsPositive]
  cases unpacked : x.toModel.unpack with
  | infinity sign =>
      rw [unpacked] at finite
      cases finite
  | notANumber =>
      rw [unpacked] at finite
      cases finite
  | zero sign =>
      rw [unpacked] at above
      cases above
  | finite sign mantissa exponent positive =>
      cases sign with
      | negative =>
          rw [unpacked] at above
          cases above
      | positive => exact ⟨mantissa, exponent, positive, rfl⟩

theorem isUnsigned_pack
    {unpacked : UnpackedFloat}
    (unsigned : Unsigned unpacked) :
    IsUnsigned (.ofModel (.pack unpacked)) :=
  unsigned.unpack_pack

/--
Products underflow to zero or overflow to infinity, but are never undefined.
-/
theorem IsPositive.mul
    {left right : Float}
    (positive : IsPositive left)
    (unsigned : IsUnsigned right) :
    IsUnsigned (left * right) :=
  isUnsigned_pack (PositiveNumber.mul positive unsigned)

/-- Quotients of positive numbers are never undefined. -/
theorem IsPositive.div
    {left right : Float}
    (positive : IsPositive left)
    (unsigned : IsUnsigned right) :
    IsUnsigned (left / right) :=
  isUnsigned_pack (PositiveNumber.div positive unsigned)

theorem IsUnsigned.add
    {left right : Float}
    (first : IsUnsigned left)
    (second : IsUnsigned right) :
    IsUnsigned (left + right) :=
  isUnsigned_pack (Unsigned.add first second)

/-- Unsigned doubles compare as not below zero. -/
theorem IsUnsigned.zero_le
    {x : Float}
    (unsigned : IsUnsigned x) :
    (Scalar.zero : Float) ≤ x := by
  rw [le_iff, unpack_zero]
  exact Unsigned.zero_le unsigned

theorem isPositive_one : IsPositive (Float.ofBits 0x3FF0000000000000) :=
  ⟨4503599627370496, -52, by decide, rfl⟩

/-- The double of a natural number is unsigned, however large the number is. -/
theorem isUnsigned_ofNat (count : Nat) : IsUnsigned (Scalar.ofNat count) := by
  change IsUnsigned (Float.ofScientific count false 0)
  rw [Float.ofScientific]
  split
  next small =>
    -- Small numbers are converted exactly and multiplied by one.
    have converted : IsUnsigned count.toUInt64.toFloat :=
      isUnsigned_pack (unsigned_normalize (Int.natCast_nonneg _) 0)
    exact isUnsigned_pack (converted.mul isPositive_one)
  next large => exact isUnsigned_pack (unsigned_ofScientific _ _)

theorem isUnsigned_billionth : IsUnsigned (Scalar.billionth : Float) :=
  IsPositive.div ⟨_, _, _, rfl⟩ (isUnsigned_ofNat _)

end Double

end RunningStatistics
