import FieldSurvey.Grid.Location
import FieldSurvey.Mesh.Kind
import FieldSurvey.Registry
import FieldSurvey.Value.Spelling

/-!
A domain: coordinate sets, topologies on them, fields over the topologies and state variables, each
under its name. A dataset is a list of domains.
-/

namespace FieldSurvey

/-- The points of a mesh as they are stored. -/
inductive Coordset where
  | uniform (extents : Axes Int) (origin spacing : Position Double)
  | rectilinear (axes : Axes (Column Value))
  | explicit (axes : Axes (Column Value))

namespace Coordset

def kind : Coordset → CoordsetKind
  | uniform _ _ _ => .uniform
  | rectilinear _ => .rectilinear
  | explicit _ => .explicit

def isThreeDimensional : Coordset → Bool
  | uniform extents _ _ => extents.isThreeDimensional
  | rectilinear axes => axes.isThreeDimensional
  | explicit axes => axes.isThreeDimensional

def coordinates : Coordset → Coordinates Float
  | uniform extents origin spacing =>
      .uniform extents (origin.map Double.toFloat) (spacing.map Double.toFloat)
  | rectilinear axes => .rectilinear (axes.map fun axis => axis.entries.toLoose)
  | explicit axes => .explicit (axes.map fun axis => axis.entries.toLoose)

/-- The stored columns of coordinates; a uniform grid stores none. -/
def columns : Coordset → List (Column Value)
  | uniform _ _ _ => []
  | rectilinear axes => axes.toList
  | explicit axes => axes.toList

end Coordset

/-- How elements are formed from points. -/
inductive Elements where
  | points
  | uniform
  | rectilinear
  | structured (extents : Axes Int)
  | unstructured (shape : String) (connectivity : List (BitVec 64))

/-- Elements over the coordinate set of a name. -/
structure Topology where
  coordset : String
  elements : Elements

namespace Topology

def kind (topology : Topology) : TopologyKind :=
  match topology.elements with
  | .points => .points
  | .uniform => .uniform
  | .rectilinear => .rectilinear
  | .structured _ => .structured
  | .unstructured _ _ => .unstructured

end Topology

def verticesOfShape (shape : String) : Except Error Nat :=
  match shapeVertices? shape with
  | some count => .ok count
  | none => .error (.unsupportedShape shape)

/-- The values of a field: one column, or one for each named component. -/
inductive FieldValues where
  | scalar (column : Column Value)
  | components (columns : Registry (Column Value))

/-- A field over a topology, given at its vertices or elements. -/
structure Field where
  name : String
  association : String
  topology : String
  values : FieldValues

namespace Field

def isScalar (field : Field) : Bool :=
  match field.values with
  | .scalar _ => true
  | .components _ => false

/-- The element type of the values, that of the first component if there are several. -/
def elementType (field : Field) : Except Error ElementType :=
  match field.values with
  | .scalar column => .ok column.elementType
  | .components ((_, column) :: _) => .ok column.elementType
  | .components [] => .error (.noComponents field.name)

def scalarColumn (field : Field) : Except Error (Column Value) :=
  match field.values with
  | .scalar column => .ok column
  | .components columns => .error (.severalComponents field.name columns.names)

end Field

/-- A part of a dataset. -/
structure Domain where
  coordsets : Registry Coordset
  topologies : Registry Topology
  fields : Registry Field
  state : List (Value × Value)

abbrev Dataset := List Domain

namespace Domain

/-- The number a domain goes by, -1 if its state gives none. -/
def id (domain : Domain) : Except Error Int :=
  match Value.find? "domain_id" domain.state with
  | some value => value.toWhole
  | none => .ok (-1)

def hasField (name : String) (domain : Domain) : Bool := domain.fields.has name

def hasTopology (name : String) (domain : Domain) : Bool := domain.topologies.has name

def field (name : String) (domain : Domain) : Except Error Field :=
  match domain.fields.find? name with
  | some field => .ok field
  | none => do
      let number ← domain.id
      throw (.noSuchField number name)

/-- The name of a topology that must be there; no name, or an empty one, means the first. -/
def topologyName (requested : Option String) (domain : Domain) : Except Error String := do
  let requested := requested.filter (fun name => !name.isEmpty)
  match requested with
  | some name =>
      if domain.hasTopology name then return name
      else
        let number ← domain.id
        throw (.noSuchTopology number name)
  | none =>
      match domain.topologies with
      | (name, _) :: _ => return name
      | [] =>
          let number ← domain.id
          throw (.noTopologies number)

/-- The name of a topology asked for by any value: one that counts as false means the first, and
only a text can be the name of one. -/
def chooseTopology (requested : Value) (domain : Domain) : Except Error String := do
  match requested with
  | .text name => domain.topologyName (some name)
  | other =>
      if !(← other.isTrue) then domain.topologyName none
      else if other.isKey then
        let number ← domain.id
        throw (.noSuchTopology number other.putInto)
      else throw .wrongType

def topology (name : String) (domain : Domain) : Except Error Topology :=
  match domain.topologies.find? name with
  | some topology => .ok topology
  | none => .error .missingKey

/-- The coordinate set under a topology; its kind has to fit. -/
def coordset (name : String) (domain : Domain) : Except Error Coordset := do
  let topology ← domain.topology name
  match domain.coordsets.find? topology.coordset with
  | none => throw (.danglingCoordset name topology.coordset)
  | some coordset =>
      if topology.kind.mayUse coordset.kind then return coordset
      else throw (.coordsetMismatch name topology.kind coordset.kind)

end Domain

end FieldSurvey
