import FieldSurvey.Mesh.Location

/-!
The domains of a dataset that define a name. A name is asked for by a value of any kind: only a
text can be found, and what cannot even be looked up is an error as soon as there is a domain to
look in.
-/

namespace FieldSurvey

/-- The name that a value asks for, if it can be one. -/
def Value.asName? : Value → Except Error (Option String)
  | .text name => .ok (some name)
  | value => if value.isKey then .ok none else .error .wrongType

namespace Dataset

def having {β : Type} (lookUp : String → Domain → Option β) (wanted : Value) (dataset : Dataset) :
    Except Error (List (Domain × β)) := do
  if dataset.isEmpty then return []
  match ← wanted.asName? with
  | some name => return dataset.filterMap fun domain => (lookUp name domain).map (domain, ·)
  | none => return []

def havingField (wanted : Value) (dataset : Dataset) : Except Error (List (Domain × Field)) :=
  dataset.having (fun name domain => domain.fields.find? name) wanted

def havingTopology (wanted : Value) (dataset : Dataset) :
    Except Error (List (Domain × Topology)) :=
  dataset.having (fun name domain => domain.topologies.find? name) wanted

def havingState (wanted : Value) (dataset : Dataset) : Except Error (List Value) := do
  if dataset.isEmpty then return []
  if !wanted.isKey then throw .wrongType
  return dataset.filterMap fun domain =>
    (domain.state.find? fun entry => entry.1.sameKey wanted).map Prod.snd

end Dataset

/-- The number of vertices of an element whose shape is asked for by a value of any kind. -/
def verticesAsked (shape : Value) : Except Error Nat :=
  match shape with
  | .text name => verticesOfShape name
  | value => if value.isKey then .error (.unsupportedShape value.spelled) else .error .wrongType

namespace Topology

/-- The number of vertices of each element, which only listed elements have in common. -/
def verticesPerElement (topology : Topology) : Except Error Nat :=
  match topology.elements with
  | .unstructured shape _ => verticesOfShape shape
  | _ => .error .noAttribute

/-- Whether a grid of elements has layers; other elements lie in no grid of their own. -/
def isThreeDimensional (topology : Topology) : Except Error Bool :=
  match topology.elements with
  | .structured extents => .ok extents.isThreeDimensional
  | _ => .error .noAttribute

end Topology

namespace Domain

/-- Whether a field is defined that is asked for by a value of any kind. -/
def hasWantedField (wanted : Value) (domain : Domain) : Except Error Bool := do
  return (← wanted.asName?).any domain.hasField

/-- Whether a topology is defined that is asked for by a value of any kind. -/
def hasWantedTopology (wanted : Value) (domain : Domain) : Except Error Bool := do
  return (← wanted.asName?).any domain.hasTopology

def wantedField (wanted : Value) (domain : Domain) : Except Error Field := do
  match ← wanted.asName? with
  | some name => domain.field name
  | none =>
      let number ← domain.id
      throw (.noSuchField number wanted.putInto)

/-- The position of an entry of a field that is asked for by a value of any kind. -/
def locateWanted (wanted index : Value) (domain : Domain) : Except Error (Position Float) := do
  let field ← domain.wantedField wanted
  domain.locate field.name index.toWhole

end Domain

end FieldSurvey
