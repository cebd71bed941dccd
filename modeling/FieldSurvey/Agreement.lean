import FieldSurvey.Group.Operations
import FieldSurvey.Mesh.Selection

/-!
Answers about a whole dataset that is spread over processes: whether a field or topology is defined
anywhere, what association, type and topology a field has, and the like. Every process looks at its
own domains, the findings are put to the vote, and only then is it decided whether they agree.
-/

namespace FieldSurvey

namespace ProcessGroup

variable {α : Type} [Scalar α]

/-- The longest text that a process puts forward; among equally long ones that of the lowest rank.
-/
def longestText (group : ProcessGroup) (own : String) : Collective α String := do
  let winner ← group.selectExtreme .greatest (Scalar.ofInt own.length : α) true
  let root : Int :=
    match winner with
    | some (_, rank) => rank
    | none => -1
  let shared ← group.broadcastValue (.text own) root
  return shared.spelled

/-- What a vote between two alternatives can come to. -/
inductive Vote where
  | both
  | first
  | second
  | neither
  deriving DecidableEq, Repr

def vote (group : ProcessGroup) (first second : Bool) : Collective α Vote := do
  let first ← group.anyTrue first
  let second ← group.anyTrue second
  return match first, second with
    | true, true => .both
    | true, false => .first
    | false, true => .second
    | false, false => .neither

def complain {β : Type} (text : String) (cause : Error) : Collective α β := do
  .log LogLevel.error .agreement text
  .fail cause

/-- If some process has an objection, the longest one is shared, logged and raised. -/
def objectIfAny (group : ProcessGroup) (objection : Option String) (text : String → String)
    (cause : String → Error) : Collective α Unit := do
  let raised ← group.anyTrue objection.isSome
  if raised then
    let shared ← group.longestText (objection.getD "")
    complain (text shared) (cause shared)
  else return ()

end ProcessGroup

namespace Dataset

open ProcessGroup

variable {α : Type} [Scalar α]

def hasField (group : ProcessGroup) (field : Value) (dataset : Dataset) : Collective α Bool := do
  let holders ← dataset.havingField field
  group.anyTrue !holders.isEmpty

def hasTopology (group : ProcessGroup) (topology : Value) (dataset : Dataset) :
    Collective α Bool := do
  let holders ← dataset.havingTopology topology
  group.anyTrue !holders.isEmpty

/-- The first association that is not supported; a missing one counts as unset. -/
def unsupportedAssociation? (associations : List String) : Option String :=
  (associations.find? fun association => association != "vertex" && association != "element").map
    fun association => if association.isEmpty then "unset" else association

/-- What the entries of a field belong to: its vertices or its elements, everywhere alike. -/
def fieldAssociation (group : ProcessGroup) (field : Value) (dataset : Dataset) :
    Collective α String := do
  let holders ← dataset.havingField field
  let associations := holders.map fun holder => holder.2.association
  let name := field.putInto
  group.objectIfAny (unsupportedAssociation? associations)
    (fun association => s!"field '{name}' has unsupported association '{association}'")
    (fun association => .unsupportedAssociation association name)
  match ← group.vote (associations.contains "vertex") (associations.contains "element") with
  | .both =>
      complain
        s!"field '{name}' is vertex-associated on some domains and element-associated on others"
        (.associationsDiffer name)
  | .neither => .fail (.fieldNowhere name)
  | .first => return "vertex"
  | .second => return "element"

/-- The name of the first element type that is neither of the two widths of real numbers that fields
and coordinates have. -/
def notFloating? (types : List ElementType) : Option String :=
  (types.find? fun type => type != .float .single && type != .float .double).map ElementType.name

/-- Whether the values of a field are single or double precision numbers, everywhere alike. -/
def fieldType (group : ProcessGroup) (field : Value) (dataset : Dataset) :
    Collective α String := do
  let holders ← dataset.havingField field
  let types ← (holders.mapM fun holder => holder.2.elementType : Except Error (List ElementType))
  let name := field.putInto
  group.objectIfAny (notFloating? types)
    (fun typeName => s!"field '{name}' has values of type '{typeName}'")
    (fun typeName => .valuesNotFloating name typeName)
  match ← group.vote (types.contains (.float .single)) (types.contains (.float .double)) with
  | .both =>
      complain s!"field '{name}' is float on some domains and double on others" (.typesDiffer name)
  | .neither => .fail (.fieldNowhere name)
  | .first => return "float"
  | .second => return "double"

/-- The name of the topology that a field lies on, empty if it is nowhere known. -/
def fieldTopology (group : ProcessGroup) (field : Value) (dataset : Dataset) :
    Collective α String := do
  let holders ← dataset.havingField field
  group.longestText ((holders.head?.map fun holder => holder.2.topology).getD "")

def spatialDimensions (group : ProcessGroup) (topology : Value) (dataset : Dataset) :
    Collective α Int := do
  let holders ← dataset.havingTopology topology
  let inSpace ← (holders.mapM fun (domain, _) => do
    let found ← domain.chooseTopology topology
    domain.isThreeDimensional found : Except Error (List Bool))
  let name := topology.putInto
  match ← group.vote (inSpace.contains true) (inSpace.contains false) with
  | .both =>
      complain s!"topology '{name}' is 2-D on some domains and 3-D on others"
        (.dimensionsDiffer name)
  | .neither => .fail (.topologyNowhere name)
  | .first => return 3
  | .second => return 2

/-- The element type of the coordinates under a topology, that of the first axis; a uniform grid
stores none. -/
def coordinateType? (topology : Value) (domain : Domain) : Except Error (Option ElementType) := do
  let found ← domain.chooseTopology topology
  let coordset ← domain.coordset found
  return coordset.columns.head?.map Column.elementType

/-- Whether the coordinates of a topology are single or double precision numbers; where both occur
they count as single. -/
def coordinateType (group : ProcessGroup) (topology : Value) (dataset : Dataset) :
    Collective α String := do
  let holders ← dataset.havingTopology topology
  let found ← (holders.mapM fun holder => coordinateType? topology holder.1 :
    Except Error (List (Option ElementType)))
  let types := found.filterMap id
  let name := topology.putInto
  group.objectIfAny (notFloating? types)
    (fun typeName => s!"coordinates of topology '{name}' have type '{typeName}'")
    (fun typeName => .coordinatesNotFloating name typeName)
  let single ← group.anyTrue (types.contains (.float .single))
  return if single then "float" else "double"

def topologyKinds (group : ProcessGroup) (topology : Value) (dataset : Dataset) :
    Collective α (List (TopologyKind × Int)) := do
  let holders ← dataset.havingTopology topology
  let kinds := holders.map fun holder => holder.2.kind
  let counts ← group.sumCounts (TopologyKind.all.map fun kind => (kinds.count kind : Int))
  return TopologyKind.all.zip counts

/-- Whether a field has a single column of values, everywhere alike; one that is defined nowhere has
not. -/
def isScalarField (group : ProcessGroup) (field : Value) (dataset : Dataset) :
    Collective α Bool := do
  let holders ← dataset.havingField field
  let scalar := holders.map fun holder => holder.2.isScalar
  let name := field.putInto
  match ← group.vote (scalar.contains true) (scalar.contains false) with
  | .both =>
      complain s!"field '{name}' is scalar on some domains and multi-component on others"
        (.componentsDiffer name)
  | .first => return true
  | _ => return false

/-- The value of a state variable in the first domain that defines it, on the lowest rank that has
such a domain. -/
def stateVariable (group : ProcessGroup) (wanted : Value) (dataset : Dataset) :
    Collective α Value := do
  let values ← dataset.havingState wanted
  match ← group.selectExtreme .greatest (Scalar.zero : α) !values.isEmpty with
  | none => .fail (.stateNowhere wanted.putInto)
  | some (_, rank) => group.broadcastValue (values.head?.getD .null) rank

end Dataset

end FieldSurvey
