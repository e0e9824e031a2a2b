import RunningStatistics.Proofs.Binary64Arithmetic

/-!
# The order of doubles

Every double of positive sign has a number, and the order of doubles is that of
their numbers.  The result of an operation is the double nearest to the exact
result, or infinity if it lies beyond the largest double.  So operations respect
the order although they are not exact.
-/

namespace RunningStatistics

open Float.Model Float.Model.UnpackedFloat

/-! ## Packing and unpacking -/

theorem ofBitVec_toBitVec (sign : Sign) :
    Sign.ofBitVec sign.toBitVec = sign := by
  cases sign <;> rfl

/-- The greatest exponent without a mantissa stands for infinity. -/
theorem unpack_packedInfinity (sign : Sign) :
    UnpackedFloat.unpack Format.binary64 (packedInfinity Format.binary64 sign) =
      .infinity sign := by
  rw [packedInfinity, UnpackedFloat.unpack]
  simp only [unpackMantissa_packComponents, unpackExponent_packComponents,
    unpackSign_packComponents, ofBitVec_toBitVec]
  rfl

theorem unpack_packedZero (sign : Sign) :
    UnpackedFloat.unpack Format.binary64 (packedZero Format.binary64 sign) =
      .zero sign := by
  rw [packedZero, UnpackedFloat.unpack]
  simp only [unpackMantissa_packComponents, unpackExponent_packComponents,
    unpackSign_packComponents, ofBitVec_toBitVec]
  rfl

/-- The implicit bit is the highest one of a full mantissa. -/
theorem toNat_implicit_append
    {mantissa : ℕ}
    (lower : 2 ^ 52 ≤ mantissa)
    (upper : mantissa < 2 ^ 53) :
    (1#1 ++ BitVec.ofNat 52 mantissa).toNat = mantissa := by
  rw [BitVec.toNat_append, ← Nat.shiftLeft_add_eq_or_of_lt (BitVec.isLt _),
    BitVec.toNat_ofNat, BitVec.toNat_ofNat, Nat.shiftLeft_eq]
  omega

/-- Components of a normal double. -/
theorem unpack_normal
    (sign : Sign)
    {mantissa biased : ℕ}
    (lower : 2 ^ 52 ≤ mantissa)
    (upper : mantissa < 2 ^ 53)
    (above : 0 < biased)
    (below : biased < 2047) :
    UnpackedFloat.unpack Format.binary64
        (packComponents Format.binary64 sign (BitVec.ofNat _ biased)
          (BitVec.ofNat _ mantissa)) =
      .finite sign mantissa (biased - 1075)
        (Nat.lt_of_lt_of_le (by decide) lower) := by
  have number : (BitVec.ofNat 11 biased).toNat = biased := by
    rw [BitVec.toNat_ofNat]
    omega
  have top : ¬BitVec.ofNat 11 biased = -1#11 := fun same => by
    have := congrArg BitVec.toNat same
    rw [number] at this
    simp at this
    omega
  have bottom : ¬BitVec.ofNat 11 biased = 0#11 := fun same => by
    have := congrArg BitVec.toNat same
    rw [number] at this
    simp at this
    omega
  rw [UnpackedFloat.unpack]
  simp only [unpackMantissa_packComponents, unpackExponent_packComponents,
    unpackSign_packComponents, ofBitVec_toBitVec, top, bottom, if_false, number]
  congr 1
  exact toNat_implicit_append lower upper

/--
Components with the least exponent unpack to the mantissa without an implicit
bit.
-/
theorem unpack_subnormal
    (sign : Sign)
    {mantissa : ℕ}
    (positive : 0 < mantissa)
    (upper : mantissa < 2 ^ 52) :
    UnpackedFloat.unpack Format.binary64
        (packComponents Format.binary64 sign 0#_ (BitVec.ofNat _ mantissa)) =
      .finite sign mantissa (-1074) positive := by
  have number : (BitVec.ofNat 52 mantissa).toNat = mantissa := by
    rw [BitVec.toNat_ofNat, Nat.mod_eq_of_lt upper]
  have some : ¬BitVec.ofNat 52 mantissa = 0#52 := fun same => by
    have := congrArg BitVec.toNat same
    rw [number] at this
    simp at this
    omega
  rw [UnpackedFloat.unpack]
  simp only [unpackMantissa_packComponents, unpackExponent_packComponents,
    unpackSign_packComponents, ofBitVec_toBitVec]
  rw [if_neg (by decide), if_pos trivial, dif_neg some]
  congr 1

/-- Packing keeps a double, unless its exponent is too large. -/
theorem unpack_pack_finite
    (sign : Sign)
    {mantissa : ℕ}
    {exponent : ℤ}
    (positive : 0 < mantissa)
    (canonical : Canonical mantissa exponent) :
    UnpackedFloat.unpack Format.binary64
        (UnpackedFloat.pack Format.binary64
          (.finite sign mantissa exponent positive)) =
      if exponent ≤ 971 then
        .finite sign mantissa exponent positive
      else
        .infinity sign := by
  have bias : (Format.binary64.exponentBias : ℤ) +
      (Format.binary64.mantissaBitsWithoutImplicit : ℤ) = 1075 := by decide
  have least := canonical.least
  have room := canonical.room
  have bits : Format.binary64.mantissaBits = 53 := by decide
  have wide : 2 ^ Format.binary64.exponentBits = 2048 := by decide
  unfold UnpackedFloat.pack
  simp only
  rw [add_assoc, bias, wide, bits]
  by_cases small : exponent ≤ 971
  · rw [if_pos small, if_neg (by omega)]
    by_cases normal : 2 ^ 52 ≤ mantissa
    · have log : mantissa.log2 = 52 :=
        (Nat.log2_eq_iff positive.ne').mpr ⟨normal, room⟩
      rw [if_pos (by omega),
        unpack_normal sign normal room (by omega) (by omega)]
      congr 1
      omega
    · have log : mantissa.log2 < 52 := (Nat.log2_lt positive.ne').mpr (by omega)
      rw [if_neg (by omega), unpack_subnormal sign positive (by omega)]
      congr 1
      exact (canonical.filled.resolve_right normal).symm
  · rw [if_neg small, if_pos (by omega)]
    exact unpack_packedInfinity sign

/--
The numbers that bits stand for have 53 bits, or fewer at the least exponent.
-/
theorem canonical_unpack
    {bits : BitVec Format.binary64.numBits}
    {sign : Sign}
    {mantissa : ℕ}
    {exponent : ℤ}
    {positive : 0 < mantissa}
    (unpacked :
      UnpackedFloat.unpack Format.binary64 bits =
        .finite sign mantissa exponent positive) :
    Canonical mantissa exponent ∧ exponent ≤ 971 := by
  have bias : (Format.binary64.exponentBias : ℤ) +
      (Format.binary64.mantissaBitsWithoutImplicit : ℤ) = 1075 := by decide
  have room : (@unpackMantissa Format.binary64 bits).toNat < 2 ^ 52 :=
    BitVec.isLt _
  have wide : (@unpackExponent Format.binary64 bits).toNat < 2 ^ 11 :=
    BitVec.isLt _
  rw [UnpackedFloat.unpack] at unpacked
  simp only [bias] at unpacked
  split at unpacked
  next => split at unpacked <;> cases unpacked
  next finite =>
    split at unpacked
    next bottom =>
      split at unpacked
      next => cases unpacked
      next some =>
        have none : (@unpackExponent Format.binary64 bits).toNat = 0 := by
          rw [bottom]
          rfl
        cases unpacked
        exact ⟨⟨by omega, by omega, .inl (by omega)⟩, by omega⟩
    next normal =>
      have above : (@unpackExponent Format.binary64 bits).toNat ≠ 0 :=
        fun none => normal (BitVec.eq_of_toNat_eq none)
      have below : (@unpackExponent Format.binary64 bits).toNat ≠ 2047 :=
        fun top => finite (BitVec.eq_of_toNat_eq top)
      have implicit : (1#1 ++ @unpackMantissa Format.binary64 bits).toNat =
          2 ^ 52 + (@unpackMantissa Format.binary64 bits).toNat := by
        rw [BitVec.toNat_append,
          ← Nat.shiftLeft_add_eq_or_of_lt (BitVec.isLt _)]
        rfl
      cases unpacked
      rw [implicit]
      exact ⟨⟨by omega, by omega, .inr (by omega)⟩, by omega⟩

/-- The number of an unpacked double of positive sign, infinity included. -/
inductive Rank : UnpackedFloat → ℤ → Prop where
  | zero : Rank (.zero .positive) 0
  | finite {mantissa : ℕ} {exponent : ℤ} (positive : 0 < mantissa)
      (canonical : Canonical mantissa exponent) (small : exponent ≤ 971) :
      Rank (.finite .positive mantissa exponent positive)
        (serial mantissa exponent)
  | infinity : Rank (.infinity .positive) serialOfInfinity

theorem Rank.unsigned
    {unpacked : UnpackedFloat}
    {number : ℤ}
    (rank : Rank unpacked number) :
    Unsigned unpacked := by
  cases rank with
  | zero => exact .zero
  | finite positive canonical small => exact .finite _ _ positive
  | infinity => exact .infinity

/-- Packing takes a number beyond that of infinity to infinity. -/
theorem Numbered.rank
    {unpacked : UnpackedFloat}
    {number : ℤ}
    (numbered : Numbered unpacked number) :
    Rank
      (UnpackedFloat.unpack Format.binary64
        (UnpackedFloat.pack Format.binary64 unpacked))
      (min number serialOfInfinity) := by
  cases numbered with
  | zero =>
      rw [UnpackedFloat.pack, unpack_packedZero]
      exact .zero
  | @finite mantissa exponent positive canonical =>
      rw [unpack_pack_finite .positive positive canonical]
      split
      next small =>
        rw [min_eq_left (canonical.serial_lt_serialOfInfinity small).le]
        exact .finite positive canonical small
      next large =>
        have beyond : serialOfInfinity ≤ serial mantissa exponent := by
          have filled := canonical.filled.resolve_left (by omega)
          rw [serial, serialOfInfinity]
          omega
        rw [min_eq_right beyond]
        exact .infinity

/-- Doubles are compared by their exponents, then by their mantissas. -/
theorem Canonical.compare_eq
    {mantissa other : ℕ}
    {exponent above : ℤ}
    (canonical : Canonical mantissa exponent)
    (second : Canonical other above) :
    (compare exponent above).then (compare mantissa other) =
      compare (serial mantissa exponent) (serial other above) := by
  rcases lt_trichotomy exponent above with lower | rfl | higher
  · rw [Int.compare_eq_lt.mpr lower,
      Int.compare_eq_lt.mpr (canonical.serial_lt_of_exponent_lt second lower)]
    rfl
  · rw [Int.compare_eq_eq.mpr rfl, serial, serial]
    rcases lt_trichotomy mantissa other with less | rfl | more
    · rw [Nat.compare_eq_lt.mpr less, Int.compare_eq_lt.mpr (by omega)]
      rfl
    · rw [Nat.compare_eq_eq.mpr rfl, Int.compare_eq_eq.mpr rfl]
      rfl
    · rw [Nat.compare_eq_gt.mpr more, Int.compare_eq_gt.mpr (by omega)]
      rfl
  · rw [Int.compare_eq_gt.mpr higher,
      Int.compare_eq_gt.mpr (second.serial_lt_of_exponent_lt canonical higher)]
    rfl

namespace Rank

variable {left right : UnpackedFloat} {first second : ℤ}

/-- Unpacked doubles of positive sign compare as their numbers do. -/
theorem compare_eq
    (rankLeft : Rank left first)
    (rankRight : Rank right second) :
    UnpackedFloat.compare left right = some (compare first second) := by
  cases rankLeft with
  | zero =>
      cases rankRight with
      | zero => rfl
      | finite positive canonical =>
          exact congrArg some
            (Int.compare_eq_lt.mpr (canonical.serial_pos positive)).symm
      | infinity => rfl
  | finite positive canonical small =>
      cases rankRight with
      | zero =>
          exact congrArg some
            (Int.compare_eq_gt.mpr (canonical.serial_pos positive)).symm
      | finite positive' canonical' =>
          exact congrArg some (canonical.compare_eq canonical')
      | infinity =>
          exact congrArg some
            (Int.compare_eq_lt.mpr
              (canonical.serial_lt_serialOfInfinity small)).symm
  | infinity =>
      cases rankRight with
      | zero => rfl
      | finite positive canonical small =>
          exact congrArg some
            (Int.compare_eq_gt.mpr
              (canonical.serial_lt_serialOfInfinity small)).symm
      | infinity => rfl

theorem le_iff
    (rankLeft : Rank left first)
    (rankRight : Rank right second) :
    UnpackedFloat.le left right = true ↔ first ≤ second := by
  rw [UnpackedFloat.le, rankLeft.compare_eq rankRight]
  exact Int.isLE_compare

theorem lt_iff
    (rankLeft : Rank left first)
    (rankRight : Rank right second) :
    UnpackedFloat.lt left right = true ↔ first < second := by
  rw [UnpackedFloat.lt, rankLeft.compare_eq rankRight, beq_iff_eq,
    Option.some.injEq]
  exact Int.compare_eq_lt

end Rank

/-- Values are in the order of the numbers of their doubles. -/
theorem Valued.le_of_rank_le
    {left right : UnpackedFloat}
    {x y : ℚ}
    {first second : ℤ}
    (valuedX : Valued left x)
    (valuedY : Valued right y)
    (rankX : Rank left first)
    (rankY : Rank right second)
    (ordered : first ≤ second) :
    x ≤ y := by
  cases valuedX with
  | zero => exact valuedY.nonneg
  | finite positive canonical =>
      cases rankX
      cases valuedY with
      | zero =>
          cases rankY
          exact absurd ordered (not_le.mpr (canonical.serial_pos positive))
      | finite positive' canonical' =>
          cases rankY
          exact (canonical.serial_le_iff canonical').mp ordered

theorem Rank.valued_zero
    {unpacked : UnpackedFloat}
    (rank : Rank unpacked 0) :
    Valued unpacked 0 := by
  generalize none : (0 : ℤ) = number at rank
  cases rank with
  | zero => exact .zero
  | finite positive canonical small =>
      exact absurd none (canonical.serial_pos positive).ne
  | infinity => exact absurd none (by decide)

/-! ## Doubles and the numbers that they denote -/

namespace Double

/-- A double of positive sign that denotes a number. -/
def Denotes (x : Float) (value : ℚ) : Prop :=
  Valued x.toModel.unpack value

/--
The double nearest to a nonnegative number, or infinity if that is nearer.
-/
def IsNearest (x : Float) (value : ℚ) : Prop :=
  ∃ number,
    Rounds value number ∧ Rank x.toModel.unpack (min number serialOfInfinity)

/--
Packing an unpacked double that is nearest to a number gives the nearest
double.
-/
theorem isNearest_pack
    {unpacked : UnpackedFloat}
    {value : ℚ}
    (nearest : Nearest unpacked value) :
    IsNearest (.ofModel (.pack unpacked)) value := by
  rcases nearest with ⟨number, rounds, numbered⟩
  exact ⟨number, rounds, numbered.rank⟩

theorem Denotes.rank
    {x : Float}
    {value : ℚ}
    (denotes : Denotes x value) :
    ∃ number,
      Rounds value number ∧
      number ≤ serialOfInfinity ∧
      Rank x.toModel.unpack number := by
  rw [Denotes] at denotes
  generalize unpacked : x.toModel.unpack = double at denotes ⊢
  cases denotes with
  | zero => exact ⟨0, rounds_zero, by decide, .zero⟩
  | finite positive canonical =>
      have small := (canonical_unpack unpacked).2
      exact ⟨_, canonical.rounds,
        (canonical.serial_lt_serialOfInfinity small).le,
        .finite positive canonical small⟩

theorem Denotes.isNearest
    {x : Float}
    {value : ℚ}
    (denotes : Denotes x value) :
    IsNearest x value := by
  rcases denotes.rank with ⟨number, rounds, finite, rank⟩
  refine ⟨number, rounds, ?_⟩
  rw [min_eq_left finite]
  exact rank

/--
Rounding is monotone: nearest doubles are in the order of the numbers that
were rounded.
-/
theorem IsNearest.le
    {x y : Float}
    {first second : ℚ}
    (nearestX : IsNearest x first)
    (nearestY : IsNearest y second)
    (ordered : first ≤ second) :
    x ≤ y := by
  rcases nearestX with ⟨numberX, roundsX, rankX⟩
  rcases nearestY with ⟨numberY, roundsY, rankY⟩
  rw [Double.le_iff, rankX.le_iff rankY]
  exact min_le_min_right _ (roundsX.mono roundsY ordered)

/-- Doubles are in the order of the numbers that they denote. -/
theorem Denotes.le_iff
    {x y : Float}
    {first second : ℚ}
    (denotesX : Denotes x first)
    (denotesY : Denotes y second) :
    x ≤ y ↔ first ≤ second := by
  constructor
  · rw [Double.le_iff]
    rcases denotesX.rank with ⟨numberX, _, _, rankX⟩
    rcases denotesY.rank with ⟨numberY, _, _, rankY⟩
    rw [rankX.le_iff rankY]
    exact Valued.le_of_rank_le denotesX denotesY rankX rankY
  · exact denotesX.isNearest.le denotesY.isNearest

/-- The product is the double nearest to the product of the values. -/
theorem Denotes.mul
    {x y : Float}
    {first second : ℚ}
    (denotesX : Denotes x first)
    (denotesY : Denotes y second) :
    IsNearest (x * y) (first * second) :=
  isNearest_pack (Valued.mul denotesX denotesY)

theorem Denotes.div
    {x y : Float}
    {first second : ℚ}
    (denotesX : Denotes x first)
    (denotesY : Denotes y second)
    (positive : 0 < second) :
    IsNearest (x / y) (first / second) :=
  isNearest_pack (Valued.div denotesX denotesY positive)

theorem Denotes.add
    {x y : Float}
    {first second : ℚ}
    (denotesX : Denotes x first)
    (denotesY : Denotes y second) :
    IsNearest (x + y) (first + second) :=
  isNearest_pack (Valued.add denotesX denotesY)

/--
A difference above zero is the double nearest to the difference of the values.
-/
theorem Denotes.sub
    {x y : Float}
    {first second : ℚ}
    (denotesX : Denotes x first)
    (denotesY : Denotes y second)
    (larger : second < first) :
    IsNearest (x - y) (first - second) :=
  isNearest_pack (Valued.sub denotesX denotesY larger)

end Double

end RunningStatistics
