import FieldSurvey.Kernel.Summation
import FieldSurvey.Subscript

/-!
Histograms over a range cut into bins of equal width, and what is derived from one: edges, bin
bounds, probabilities and the running sums of these. All of it works over any type of numbers;
only the entropy needs a logarithm and is computed on doubles.
-/

namespace FieldSurvey

/-- One value per bin over the range from `low` to `high`. Probabilities and their running sums have
the same form. -/
structure Histogram (α : Type) where
  values : List α
  low : α
  high : α
  binCount : Int

section

variable {α : Type} [Scalar α]

/-- The bounds of the bins: the last one is the upper bound of the range itself, not computed. A range
cannot be divided by a number of bins that is beyond all numbers of the type. -/
def binEdges (low high : α) (binCount : Int) : Except Error (List α) :=
  if !(Scalar.isFinite low && Scalar.isFinite high) then .error .rangeNotFinite
  else if binCount ≤ 0 then .error .binsNotPositive
  else if Scalar.le high low then .error .rangeNotIncreasing
  else if !Scalar.isFinite (Scalar.ofInt binCount : α) then .error .overflow
  else
    let width := (high - low) / Scalar.ofInt binCount
    let starts := (List.range binCount.toNat).map fun bin => low + Scalar.ofInt (bin : Nat) * width
    .ok (starts ++ [high])

namespace Histogram

/-- Width of a bin; without bins there is none. -/
def binWidth (histogram : Histogram α) : Except Error α :=
  if histogram.binCount = 0 then .error .zeroDivision
  else .ok ((histogram.high - histogram.low) / Scalar.ofInt histogram.binCount)

def edges (histogram : Histogram α) : Except Error (List α) :=
  binEdges histogram.low histogram.high histogram.binCount

/-- The stretch of the range between two positions counted in bins. -/
def stretch (histogram : Histogram α) (start stop : α) : Except Error (α × α) := do
  let width ← histogram.binWidth
  return (histogram.low + start * width, histogram.low + stop * width)

def binBounds (histogram : Histogram α) (bin : Int) : Except Error (α × α) :=
  histogram.stretch (Scalar.ofInt bin) (Scalar.ofInt (bin + 1))

/-- The values divided by their sum; all zero if the sum is. -/
def probabilities (histogram : Histogram α) : List α :=
  let total := blockedSum histogram.values
  if Scalar.eq total Scalar.zero then histogram.values.map fun _ => Scalar.zero
  else histogram.values.map (· / total)

def density (histogram : Histogram α) : Histogram α :=
  { histogram with values := histogram.probabilities }

def runningSums (start : α) : List α → List α
  | [] => []
  | number :: rest => (start + number) :: runningSums (start + number) rest

def cumulativeSums : List α → List α
  | [] => []
  | first :: rest => first :: runningSums first rest

def cumulative (histogram : Histogram α) : Histogram α :=
  { histogram with values := cumulativeSums histogram.probabilities }

end Histogram

end

def Histogram.entropy (histogram : Histogram Float) : Float :=
  let positive := histogram.probabilities.filter fun share => Scalar.lt (0.0 : Float) share
  (blockedSum (positive.map fun (share : Float) => share * share.log)).neg

end FieldSurvey
