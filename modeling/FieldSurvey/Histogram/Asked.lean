import FieldSurvey.Histogram.Quantile
import FieldSurvey.Value.Comparison
import FieldSurvey.Value.Spelling

/-!
Quantiles and bounds of bins asked for by values of any kind.
-/

namespace FieldSurvey

namespace Interpolation

/-- The first of some modes whose name a value is equal to; the others are not looked at. -/
def findNamed? (value : Value) : List Interpolation → Except Error (Option Interpolation)
  | [] => .ok none
  | mode :: rest => do
      if ← value.equals (.text mode.name) then return some mode else findNamed? value rest

def ofValue (value : Value) : Except Error Interpolation := do
  match ← findNamed? value all with
  | some mode => return mode
  | none => throw (.unknownInterpolation value.putInto)

end Interpolation

/-- A quantile of running sums; the mode is checked before the target. -/
def Histogram.quantileAsked (histogram : Histogram Float) (target mode : Value) :
    Except Error Float := do
  let mode ← Interpolation.ofValue mode
  histogram.quantile (← target.toReal) mode

/-- The bounds of the bins between two bounds, all given by values of any kind. What the range can
be divided by is not yet a number of bins. -/
def binEdgesAsked (low high binCount : Value) : Except Error (List Float) := do
  let lowest ← low.toReal
  let highest ← high.toReal
  if !(Scalar.isFinite lowest && Scalar.isFinite highest) then throw .rangeNotFinite
  if ← binCount.holds .atMost (.whole 0) then throw .binsNotPositive
  if Scalar.le highest lowest then throw .rangeNotIncreasing
  let _ ← (Value.ofFloat (highest - lowest)).operate .divide binCount
  let count ← binCount.toPlace
  binEdges lowest highest count

end FieldSurvey
