import FieldSurvey.Kernel.Entries

/-!
Counting numbers in bins of equal width. A number's position is its distance from the lower bound in
bin widths, cut off at the first and last bin; its bin is the whole part of the position.
-/

namespace FieldSurvey

variable {α : Type} [Scalar α]

def clampPosition (last position : α) : α :=
  Scalar.minimum (Scalar.maximum position Scalar.zero) last

/-- The bin of a position. Where the position is undefined, or there are no bins, it has none. -/
def binAt? (last : α) (binCount : Nat) (position : α) : Option Nat :=
  let position := clampPosition last position
  if Scalar.isUndefined position then none
  else
    let bin := Scalar.wholePart position
    if 0 ≤ bin ∧ bin < binCount then some bin.toNat else none

/-- The bin of a number, given the lower bound and the number of bins per unit. -/
def binOf? (low scale : α) (binCount : Nat) (number : α) : Option Nat :=
  binAt? (Scalar.ofInt (binCount - 1)) binCount ((number - low) * scale)

/-- How many of some bin numbers fall into each of `binCount` bins. -/
def tally (binCount : Nat) (bins : List Nat) : List Nat :=
  (List.range binCount).map fun bin => bins.count bin

namespace Entries

/-- The bin counts of the entries that are not undefined, given how to find the bins of some
numbers. That is asked only if there is something to count. -/
def countBins (find : List α → Except Error (Option (List Nat))) (binCount : Int)
    (entries : Entries α) : Except Error (List Nat) := do
  let numbers ← entries.toReals
  let defined := numbers.filter fun number => !Scalar.isUndefined number
  if binCount < 0 then throw .badValue
  if defined.isEmpty then return tally binCount.toNat []
  match ← find defined with
  | some bins => return tally binCount.toNat bins
  | none => throw .badSubscript

/-- The bin counts of the entries that are not undefined, given the lower bound and the number of
bins per unit. -/
def histogram (low scale : Except Error α) (binCount : Int) (entries : Entries α) :
    Except Error (List Nat) :=
  entries.countBins (fun numbers => do
    let scale ← scale
    let low ← low
    return numbers.mapM (binOf? low scale binCount.toNat)) binCount

end Entries

end FieldSurvey
