import FieldSurvey.Group.Operations
import FieldSurvey.Statistics.Share

/-!
The least or greatest entry of a field over all processes, with the process and domain that hold it
and its position. The first best entry wins: within a domain, among the domains of a process, and
among the processes by rank.
-/

namespace FieldSurvey

/-- An extreme entry of a field. -/
structure FieldExtremum (α : Type) where
  value : α
  rank : Nat
  domainId : Int
  position : Position α

/-- An extreme entry among the domains of one process: its value, its place and its part. -/
structure OwnExtremum (α : Type) where
  value : α
  index : Nat
  part : FieldPart α

namespace OwnExtremum

variable {α : Type} [Scalar α]

def place (own : OwnExtremum α) : Except Error (Position α × Int) := do
  let position ← own.part.locate own.index
  let domain ← own.part.domainId
  return (position, domain)

/-- Takes another part into account: its best entry takes over only if it beats the best so far. -/
def improve (extreme : Extreme) (best : Option (OwnExtremum α)) (part : FieldPart α)
    (entries : Entries α) : Except Error (Option (OwnExtremum α)) := do
  match ← entries.extremum extreme with
  | none => return best
  | some (value, index) =>
      match best with
      | none => return some ⟨value, index, part⟩
      | some leading =>
          if extreme.beats value leading.value then return some ⟨value, index, part⟩
          else return some leading

end OwnExtremum

namespace FieldShare

variable {α : Type} [Scalar α]

def ownExtremum (extreme : Extreme) (share : FieldShare α) :
    Except Error (Option (OwnExtremum α)) :=
  share.foldEntries (OwnExtremum.improve extreme) none

/-- The extreme entry on all processes. The process that holds it tells the others where it is. -/
def extremum (extreme : Extreme) (group : ProcessGroup) (share : FieldShare α) :
    Collective α (FieldExtremum α) := do
  let own ← share.ownExtremum extreme
  let submitted := (own.map OwnExtremum.value).getD Scalar.undefined
  match ← group.selectExtreme extreme submitted own.isSome with
  | none => .fail (.noDefinedValues share.name)
  | some (value, winner) =>
      let place : Except Error (Option (Position α × Int)) :=
        match own with
        | some found => some <$> found.place
        | none => .ok none
      let (position, domain) ← group.broadcastPlace place winner
      return ⟨value, winner, domain, position⟩

end FieldShare

def Extreme.name : Extreme → String
  | least => "min"
  | greatest => "max"

/-- The extreme entry of a field of doubles; every process logs it. -/
def FieldShare.loggedExtremum (extreme : Extreme) (group : ProcessGroup)
    (share : FieldShare Float) : Collective Float (FieldExtremum Float) := do
  let found ← share.extremum extreme group
  let ending := extreme.name
  let name := share.label
  let value := generalText 6 found.value
  let rank := found.rank
  let domain := found.domainId
  .log LogLevel.debug .statistics
    s!"{ending} of '{name}' = {value} on rank {rank} (domain {domain})"
  return found

end FieldSurvey
