import FieldSurvey.Histogram.Asked

/-!
Histograms as callers give them: the values have any shape, and what is said to be the number of
bins may be a value of any kind. Probabilities do not depend on it; where it is used in arithmetic,
it is used as it is.
-/

namespace FieldSurvey

/-- A histogram as it was given, its values in the order in which the last index varies fastest. -/
structure GivenHistogram where
  shape : List Nat
  values : List Float
  low : Float
  high : Float
  binCount : Value

namespace GivenHistogram

def ofValues (values low high binCount : Value) : Except Error GivenHistogram := do
  let shape ← values.shape?
  let numbers ← values.leaves.mapM fun number => (LooseEntry.ofValue number).toReal
  let lowest ← low.toReal
  let highest ← high.toReal
  return ⟨shape, numbers, lowest, highest, binCount⟩

def counted (given : GivenHistogram) (binCount : Int) : Histogram Float :=
  ⟨given.values, given.low, given.high, binCount⟩

def density (given : GivenHistogram) : GivenHistogram :=
  { given with values := (given.counted 0).probabilities }

/-- The histogram of the running sums of the probabilities, laid out in one row. -/
def cumulative (given : GivenHistogram) : GivenHistogram :=
  { given with shape := [given.values.length], values := (given.counted 0).cumulative.values }

def entropy (given : GivenHistogram) : Float := (given.counted 0).entropy

def binWidth (given : GivenHistogram) : Except Error Value :=
  (Value.ofFloat (given.high - given.low)).operate .divide given.binCount

/-- The point of the range that lies so many bins after its beginning. -/
def pointAfter (given : GivenHistogram) (width bins : Value) : Except Error Value := do
  let distance ← bins.operate .times width
  (Value.ofFloat given.low).operate .plus distance

/-- The bounds of a bin, or of the stretch of the width of a bin after a fraction of one. -/
def binBounds (given : GivenHistogram) (bin : Value) : Except Error (Value × Value) := do
  let width ← given.binWidth
  let low ← given.pointAfter width bin
  let next ← bin.operate .plus (.whole 1)
  let high ← given.pointAfter width next
  return (low, high)

def edges (given : GivenHistogram) : Except Error (List Float) :=
  binEdgesAsked (.ofFloat given.low) (.ofFloat given.high) given.binCount

/-- The histogram in the usual form: one row of values, and a number of bins that can be computed
with. -/
def usual? (given : GivenHistogram) : Option (Histogram Float) :=
  match given.shape, given.binCount with
  | [_], .whole count => if Scalar.holds Float count then some (given.counted count) else none
  | _, _ => none

/-- The row of the first value that reaches a target; if none does, the row before the number of
bins. -/
def reachingRow (given : GivenHistogram) (target : Float) : Except Error Value :=
  match given.shape with
  | [] => .error .badValue
  | _ :: inner =>
      match given.values.findIdx? fun value => Scalar.le target value with
      | some place => .ok (.whole (place / inner.foldl (· * ·) 1 : Nat))
      | none => given.binCount.operate .minus (.whole 1)

def rowValue (given : GivenHistogram) (row : Value) : Except Error Value := do
  match row.toPlace, given.shape, row with
  | .ok place, [_], _ => return .ofFloat (← entryAt given.values place)
  | .ok place, rows :: _, _ => do
      let _ ← entryAt (List.range rows) place
      throw .wrongType
  | _, _, .array _ (.int _ _) => throw .wrongType
  | _, _, _ => throw .badSubscript

/-- The point of a stretch at which a value that grows evenly within it reaches the target. -/
def evenPoint (given : GivenHistogram) (row low high target : Value) : Except Error Value := do
  let before ←
    if ← row.holds .greater (.whole 0) then given.rowValue (← row.operate .minus (.whole 1))
    else pure (.ofFloat 0.0)
  let mass ← (← given.rowValue row).operate .minus before
  if ← mass.equals (.ofFloat 0.0) then return low
  let width ← high.operate .minus low
  let missing ← target.operate .minus before
  let share ← (← width.operate .times missing).operate .divide mass
  let point ← low.operate .plus share
  if ← point.holds .less high then return point else return high

def quantileInRows (given : GivenHistogram) (target : Float) (mode : Interpolation) :
    Except Error Float := do
  let row ← given.reachingRow target
  let (low, high) ← given.binBounds row
  let target := Value.ofFloat target
  let point ←
    match mode with
    | .linear => given.evenPoint row low high target
    | .lower => pure low
    | .higher => pure high
    | .midpoint => do (Value.ofFloat 0.5).operate .times (← low.operate .plus high)
    | .nearest => do
        let below ← target.operate .minus low
        let above ← high.operate .minus target
        if ← below.holds .less above then pure low else pure high
  point.toReal

/-- The quantile for a target and a mode that are values of any kind. -/
def quantile (given : GivenHistogram) (target mode : Value) : Except Error Float := do
  let mode ← Interpolation.ofValue mode
  let target ← checkedTarget (← target.toReal)
  match given.usual? with
  | some histogram => histogram.quantileAt target mode
  | none => given.quantileInRows target mode

end GivenHistogram

end FieldSurvey
