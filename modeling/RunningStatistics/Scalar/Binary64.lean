import RunningStatistics.Scalar

/-!
# Binary64 scalars

The arithmetic in which the statistics are run: each operation rounds to the
nearest double, ties to even.
-/

namespace RunningStatistics

/--
The least natural number not below a double, for doubles below `2 ^ 64`.

Truncation to a word drops the fraction and takes negative numbers to zero, so
the answer is the truncated word unless a fraction was dropped.
-/
def ceilOfDouble (x : Float) : Nat :=
  let truncated := x.toUInt64.toNat
  if x ≤ Float.ofNat truncated then truncated else truncated + 1

instance : Scalar Float where
  ofNat := Float.ofNat
  isFinite := Float.isFinite
  ceilNat := ceilOfDouble
  undefined := Float.ofNat 0 / Float.ofNat 0
  decideLT := Float.decLt
  decideLE := Float.decLe

instance : Exponential Float where
  exp := Float.exp

instance : SquareRoot Float where
  sqrt := Float.sqrt

example : (Scalar.billionth : Float).toBits = 0x3e112e0be826d695 := by
  decide +kernel

example : (Scalar.half : Float).toBits = 0x3fe0000000000000 := by decide +kernel

example : ceilOfDouble (Float.ofBits 0x4004000000000000) = 3 := by
  decide +kernel

end RunningStatistics
