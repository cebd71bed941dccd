import FieldSurvey.Mesh.Domain

/-!
Counting the points and elements of a mesh, and finding where they lie. Every index is checked
against its count before it is used.
-/

namespace FieldSurvey

/-- The element type of a product of extents: words with a sign if that holds every one of them,
words without a sign if each is too large for the others, doubles for a mixture, and numbers without
bounds beyond that. -/
def extentType (extents : List Int) : ElementType :=
  match extents.map fun extent => (Value.whole extent).scalarType with
  | [] => .int .int64
  | first :: rest => rest.foldl ElementType.join first

/-- The product of the extents as numbers of their type give it; words wrap around. -/
def extentProduct (extents : Axes Int) : Int :=
  let factors := extents.toList
  let product := factors.foldl (· * ·) 1
  match extentType factors with
  | .int type => type.read (type.wrap product)
  | .float _ =>
      wholePart (factors.foldl (fun product factor => product * Float.ofInt factor) 1.0)
  | _ => product

namespace Coordset

def pointCount : Coordset → Int
  | uniform extents _ _ => extentProduct extents
  | rectilinear axes => extentProduct (axes.map fun axis => (axis.size : Int))
  | explicit axes => axes.x.size

/-- The extents of the grid of elements between the points of a grid. -/
def elementExtents (coordset : Coordset) : Axes Int :=
  match coordset with
  | uniform extents _ _ => extents.map (· - 1)
  | rectilinear axes => axes.map fun axis => (axis.size : Int) - 1
  | explicit axes => axes.map fun axis => (axis.size : Int) - 1

end Coordset

namespace Topology

def elementCount (topology : Topology) (coordset : Coordset) : Except Error Int :=
  match topology.elements with
  | .points => .ok coordset.pointCount
  | .uniform => .ok (extentProduct coordset.elementExtents)
  | .rectilinear => .ok (extentProduct coordset.elementExtents)
  | .structured extents => .ok (extentProduct extents)
  | .unstructured shape connectivity => do
      let perElement ← verticesOfShape shape
      return (connectivity.length / perElement : Nat)

end Topology

def checkedIndex (part : MeshPart) (count : Int) (index : Except Error Int) :
    Except Error Int := do
  let index ← index
  if 0 ≤ index ∧ index < count then return index else throw (.partOutside part index count)

/-- The numbers of an element's points have to fit 64 bits. -/
def storedCorners (corners : List Int) : Except Error (List Int) :=
  if corners.all IntType.int64.holds then .ok corners else .error .overflow

namespace Topology

def elementPoints (topology : Topology) (coordset : Coordset) (index : Except Error Int) :
    Except Error (List Int) := do
  let count ← topology.elementCount coordset
  let index ← checkedIndex .element count index
  match topology.elements with
  | .points => storedCorners [index]
  | .uniform =>
      let corners ← cornersOf coordset.elementExtents.toList index
      storedCorners corners
  | .rectilinear =>
      let corners ← cornersOf coordset.elementExtents.toList index
      storedCorners corners
  | .structured extents =>
      let corners ← cornersOf extents.toList index
      storedCorners corners
  | .unstructured shape connectivity =>
      let perElement ← verticesOfShape shape
      let own := (connectivity.drop (index.toNat * perElement)).take perElement
      return own.map BitVec.toInt

def elementLocation (topology : Topology) (coordset : Coordset) (index : Except Error Int) :
    Except Error (Position Float) := do
  let count ← topology.elementCount coordset
  let index ← checkedIndex .element count index
  match topology.elements with
  | .points => coordset.coordinates.vertex index
  | _ => coordset.coordinates.elementCentre (topology.elementPoints coordset (.ok index)) index

end Topology

def Coordset.vertexLocation (coordset : Coordset) (index : Except Error Int) :
    Except Error (Position Float) := do
  let index ← checkedIndex .vertex coordset.pointCount index
  coordset.coordinates.vertex index

namespace Domain

def pointCount (topology : String) (domain : Domain) : Except Error Int := do
  let coordset ← domain.coordset topology
  return coordset.pointCount

def elementCount (topology : String) (domain : Domain) : Except Error Int := do
  let elements ← domain.topology topology
  let coordset ← domain.coordset topology
  elements.elementCount coordset

def isThreeDimensional (topology : String) (domain : Domain) : Except Error Bool := do
  let coordset ← domain.coordset topology
  return coordset.isThreeDimensional

def elementPoints (topology : String) (index : Except Error Int) (domain : Domain) :
    Except Error (List Int) := do
  let elements ← domain.topology topology
  let coordset ← domain.coordset topology
  elements.elementPoints coordset index

def vertexLocation (topology : String) (index : Except Error Int) (domain : Domain) :
    Except Error (Position Float) := do
  let coordset ← domain.coordset topology
  coordset.vertexLocation index

def elementLocation (topology : String) (index : Except Error Int) (domain : Domain) :
    Except Error (Position Float) := do
  let elements ← domain.topology topology
  let coordset ← domain.coordset topology
  elements.elementLocation coordset index

/-- The position of an entry of a field, by what the field is given at. -/
def locate (fieldName : String) (index : Except Error Int) (domain : Domain) :
    Except Error (Position Float) := do
  let field ← domain.field fieldName
  if field.association = "vertex" then
    let topology ← domain.topologyName (some field.topology)
    domain.vertexLocation topology index
  else if field.association = "element" then
    let topology ← domain.topologyName (some field.topology)
    domain.elementLocation topology index
  else throw (.unlocatable field.association fieldName)

end Domain

end FieldSurvey
