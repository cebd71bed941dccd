import FieldSurvey.Kernel.Binning

/-!
Counting in bins that are given by values of any kind. The positions are what arithmetic on the
values gives; the number of bins is the whole part of what is said to be one.
-/

namespace FieldSurvey

namespace Entries

/-- Arrays have fewer entries than this. -/
def lengthLimit : Nat := 2 ^ 60

/-- The bin counts of the entries that are not undefined, between two bounds. -/
def histogramAsked (low high binCount : Value) (entries : Entries Float) :
    Except Error (List Nat) := do
  let _ ← entries.toReals
  let count ← binCount.toWhole
  if (lengthLimit : Int) ≤ count then throw .badValue
  entries.countBins (fun numbers => do
    let width ← high.operate .minus low
    let scale ← binCount.operate .divide width
    let distances ← (Value.row (.ofFloats numbers)).operate .minus low
    let positions ← (← distances.operate .times scale).toColumn
    let last ← (← binCount.operate .minus (.whole 1)).toReal
    let positions ← positions.entries.toReals
    return positions.mapM (binAt? last count.toNat)) count

end Entries

end FieldSurvey
