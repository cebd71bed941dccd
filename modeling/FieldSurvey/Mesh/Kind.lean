/-!
The names that a mesh description uses: kinds of coordinate sets and topologies, shapes of elements,
and what a location counts.
-/

namespace FieldSurvey

/-- How the points of a mesh are given. -/
inductive CoordsetKind where
  | uniform
  | rectilinear
  | explicit
  deriving DecidableEq, Repr

namespace CoordsetKind

def name : CoordsetKind → String
  | uniform => "uniform"
  | rectilinear => "rectilinear"
  | explicit => "explicit"

end CoordsetKind

/-- How points are joined into elements. -/
inductive TopologyKind where
  | points
  | uniform
  | rectilinear
  | structured
  | unstructured
  deriving DecidableEq, Repr

namespace TopologyKind

def name : TopologyKind → String
  | points => "points"
  | uniform => "uniform"
  | rectilinear => "rectilinear"
  | structured => "structured"
  | unstructured => "unstructured"

def all : List TopologyKind := [points, uniform, rectilinear, structured, unstructured]

/-- Which coordinate sets a topology may lie on: single points on any, a derived grid on the set of
its own kind, listed elements on listed points. -/
def mayUse : TopologyKind → CoordsetKind → Bool
  | points, _ => true
  | uniform, kind => kind == .uniform
  | rectilinear, kind => kind == .rectilinear
  | structured, kind => kind == .explicit
  | unstructured, kind => kind == .explicit

end TopologyKind

def shapeVertices? : String → Option Nat
  | "point" => some 1
  | "tri" => some 3
  | "quad" => some 4
  | "tet" => some 4
  | "hex" => some 8
  | _ => none

/-- What an index into a mesh counts. -/
inductive MeshPart where
  | vertex
  | element
  deriving DecidableEq, Repr

def MeshPart.name : MeshPart → String
  | vertex => "vertex"
  | element => "element"

end FieldSurvey
