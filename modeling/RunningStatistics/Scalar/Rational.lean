import RunningStatistics.Scalar

/-!
# Rational scalars

Exact arithmetic, in which the statistics mean what their formulas say.
-/

namespace RunningStatistics

instance : Scalar Rat where
  ofNat count := count
  isFinite _ := true
  ceilNat x := x.ceil.toNat
  undefined := 0
  decideLT _ _ := inferInstance
  decideLE _ _ := inferInstance

example : (Scalar.sum [1 / 2, 1 / 3, 1 / 6] : Rat) = 1 := by decide +kernel

/--
The tangent of the exponential at zero, for runs that do without exponentials.
-/
abbrev Exponential.tangent : Exponential Rat :=
  ⟨fun x => 1 + x⟩

end RunningStatistics
