import FieldSurvey.Histogram.Basic

/-!
Quantiles of running sums of probabilities: the first bin whose running sum reaches the target is
found, and an interpolation mode picks a point of that bin.
-/

namespace FieldSurvey

/-- How a point of the found bin is picked. -/
inductive Interpolation where
  | linear
  | lower
  | higher
  | midpoint
  | nearest
  deriving DecidableEq, Repr

namespace Interpolation

def name : Interpolation → String
  | linear => "linear"
  | lower => "lower"
  | higher => "higher"
  | midpoint => "midpoint"
  | nearest => "nearest"

def all : List Interpolation := [linear, lower, higher, midpoint, nearest]

def ofName? (name : String) : Option Interpolation := all.find? fun mode => mode.name == name

end Interpolation

/-- A quantile target; one outside `[0, 1]` is refused. -/
def checkedTarget (target : Float) : Except Error Float :=
  if Scalar.le (0.0 : Float) target && Scalar.le target (1.0 : Float) then .ok target
  else .error (.quantileOutside (.ofFloat target))

namespace Histogram

variable {α : Type} [Scalar α]

/-- The first bin whose running sum reaches the target; rounding can leave the last sum just below
it, then it is the last bin. -/
def reachingBin (histogram : Histogram α) (target : α) : Int :=
  match histogram.values.findIdx? fun value => Scalar.le target value with
  | some bin => bin
  | none => histogram.binCount - 1

/-- The point of a bin at which a running sum that grows evenly within it reaches the target. -/
def evenPoint (histogram : Histogram α) (bin : Int) (low high target : α) : Except Error α := do
  let before ← if 0 < bin then entryAt histogram.values (bin - 1) else pure Scalar.zero
  let mass := (← entryAt histogram.values bin) - before
  if Scalar.eq mass Scalar.zero then return low
  else return Scalar.lesser high (low + (high - low) * (target - before) / mass)

def quantileAt (histogram : Histogram α) (target : α) (mode : Interpolation) : Except Error α := do
  let bin := histogram.reachingBin target
  let (low, high) ← histogram.binBounds bin
  match mode with
  | .linear => histogram.evenPoint bin low high target
  | .lower => return low
  | .higher => return high
  | .midpoint => return Scalar.half * (low + high)
  | .nearest => return if Scalar.lt (target - low) (high - target) then low else high

def quantile (histogram : Histogram Float) (target : Float) (mode : Interpolation) :
    Except Error Float := do
  let target ← checkedTarget target
  histogram.quantileAt target mode

end Histogram

end FieldSurvey
