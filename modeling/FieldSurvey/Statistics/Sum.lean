import FieldSurvey.Group.Operations
import FieldSurvey.Kernel.Summation
import FieldSurvey.Statistics.Share

/-!
Sums, averages and counts of the entries of a field over all processes. Each process adds up its own
share first; the results are then added over the group.
-/

namespace FieldSurvey

/-- Sum and number of the entries that are not undefined. -/
structure FieldSum (α : Type) where
  total : α
  count : Int

namespace FieldShare

variable {α : Type} [Scalar α]

def ownSum (share : FieldShare α) : Except Error (FieldSum α) :=
  share.foldEntries (fun (sum : FieldSum α) _ entries => do
    let (partTotal, partCount) ← entries.sum
    return ⟨sum.total + partTotal, sum.count + partCount⟩) ⟨Scalar.zero, 0⟩

def sum (group : ProcessGroup) (share : FieldShare α) : Collective α (FieldSum α) := do
  let own ← share.ownSum
  let rank ← group.rank?
  let name := share.label
  let counted := own.count
  .log LogLevel.debug .statistics s!"rank {rank}: local sum of '{name}' over {counted} values"
  let total ← group.reduceReal .sum own.total
  let count ← group.sumWhole own.count
  return ⟨total, count⟩

/-- The mean of the entries on all processes; without any it is not defined. -/
def average (group : ProcessGroup) (share : FieldShare α) : Collective α α := do
  let sum ← share.sum group
  if sum.count = 0 then .fail (.averageUndefined share.name)
  else return sum.total / Scalar.ofInt sum.count

def countOf (pick : Entries α → Nat) (group : ProcessGroup) (share : FieldShare α) :
    Collective α Int := do
  let own ← share.foldEntries (fun (count : Int) _ entries => .ok (count + pick entries)) 0
  group.sumWhole own

def undefinedCount (group : ProcessGroup) (share : FieldShare α) : Collective α Int :=
  share.countOf Entries.undefinedCount group

def infiniteCount (group : ProcessGroup) (share : FieldShare α) : Collective α Int :=
  share.countOf Entries.infiniteCount group

end FieldShare

end FieldSurvey
