import FieldSurvey.Group.Operations
import FieldSurvey.Histogram.Basic
import FieldSurvey.Kernel.Binning
import FieldSurvey.Statistics.Share
import FieldSurvey.Value.Arithmetic

/-!
The range of the finite entries of a field over all processes, and its histogram. Every process
counts its own entries; the counts, whole numbers, are added over the group.
-/

namespace FieldSurvey

namespace FieldShare

variable {α : Type} [Scalar α]

/-- The least and greatest finite entry of a process, the other way round if it has none. -/
def ownRange (share : FieldShare α) : Except Error (α × α) :=
  share.foldEntries (fun (low, high) _ entries => do
    match ← entries.finiteRange with
    | some (least, greatest) => return (Scalar.lesser low least, Scalar.greater high greatest)
    | none => return (low, high)) (Scalar.infinity, Scalar.negativeInfinity)

def finiteRange (group : ProcessGroup) (share : FieldShare α) : Collective α (α × α) := do
  let (ownLow, ownHigh) ← share.ownRange
  let low ← group.reduceReal .least ownLow
  let high ← group.reduceReal .greatest ownHigh
  if Scalar.lt high low then .fail (.noFiniteValues share.name) else return (low, high)

end FieldShare

/-- A range cut into bins. The bounds are numbers of the type that is computed in; the offset that
entries are counted from and the number of bins per unit may come from exact whole numbers instead,
and are looked at only if there is an entry to count. -/
structure Binning (α : Type) where
  low : α
  high : α
  binCount : Int
  offset : Except Error α
  scale : Except Error α

namespace Binning

def between {α : Type} [Scalar α] (low high : α) (binCount : Int) : Binning α where
  low := low
  high := high
  binCount := binCount
  offset := .ok low
  scale :=
    if Scalar.eq (high - low) Scalar.zero then .error .zeroDivision
    else .ok (Scalar.ofInt binCount / (high - low))

/-- The number of bins per unit between two bounds given by values of any kind. -/
def callerScale (low high : Value) (binCount : Int) : Except Error Float := do
  let width ← high.operate .minus low
  let scale ← (Value.whole binCount).operate .divide width
  scale.toReal

/-- The number that entries are counted from, given by a value of any kind. What only reads as a
number, as a text may, is none. -/
def callerOffset (low : Value) : Except Error Float := do
  match (← low.soleEntry).number? with
  | some number => number.toReal
  | none => throw .wrongType

/-- Between bounds that are plain reals all is computed in doubles. -/
def ofValues (low high : Value) (binCount : Int) : Except Error (Binning Float) := do
  let lowest ← low.toReal
  let highest ← high.toReal
  let computed := between lowest highest binCount
  match low, high with
  | .real _, .real _ => return computed
  | _, _ =>
      return { computed with
        offset := callerOffset low
        scale := callerScale low high binCount }

end Binning

namespace FieldShare

variable {α : Type} [Scalar α]

def ownCounts (binning : Binning α) (share : FieldShare α) : Except Error (List Int) :=
  share.foldEntries (fun counts _ entries => do
    let found ← entries.histogram binning.offset binning.scale binning.binCount
    return List.zipWith (fun (count : Int) (more : Nat) => count + more) counts found)
    (List.replicate binning.binCount.toNat 0)

def histogram (group : ProcessGroup) (binning : Binning α) (share : FieldShare α) :
    Collective α (Histogram α) := do
  let _ ← binEdges binning.low binning.high binning.binCount
  let own ← share.ownCounts binning
  let counts ← group.sumCounts own
  return ⟨counts.map Scalar.ofInt, binning.low, binning.high, binning.binCount⟩

end FieldShare

end FieldSurvey
