import FieldSurvey.Mesh.Location
import FieldSurvey.Proofs.Outcome

/-!
Meshes over any type of numbers. What a mesh of stored columns tells about its points and elements
is what the mesh over doubles tells that its columns are read as. Over exact numbers the same
definitions can be reasoned about without rounding.
-/

namespace FieldSurvey

theorem checkedIndex_of_inRange {part : MeshPart} {count index : Int}
    (inRange : 0 ≤ index ∧ index < count) : checkedIndex part count (.ok index) = .ok index :=
  if_pos inRange

/-- Elements over points whose coordinates are of type `α`. -/
structure Mesh (α : Type) where
  elements : Elements
  coordinates : Coordinates α

namespace Mesh

variable {α : Type}

def pointCount (mesh : Mesh α) : Int :=
  match mesh.coordinates with
  | .uniform extents _ _ => extentProduct extents
  | .rectilinear axes => extentProduct (axes.map fun axis => (axis.length : Int))
  | .explicit axes => axes.x.length

def elementCount (mesh : Mesh α) : Except Error Int :=
  match mesh.elements with
  | .points => .ok mesh.pointCount
  | .uniform => .ok (extentProduct mesh.coordinates.elementExtents)
  | .rectilinear => .ok (extentProduct mesh.coordinates.elementExtents)
  | .structured extents => .ok (extentProduct extents)
  | .unstructured shape connectivity => do
      let perElement ← verticesOfShape shape
      return (connectivity.length / perElement : Nat)

/-- The points of the element at an index that is known to be in range. -/
def pointsAt (mesh : Mesh α) (index : Int) : Except Error (List Int) :=
  match mesh.elements with
  | .points => storedCorners [index]
  | .uniform => cornersOf mesh.coordinates.elementExtents.toList index >>= storedCorners
  | .rectilinear => cornersOf mesh.coordinates.elementExtents.toList index >>= storedCorners
  | .structured extents => cornersOf extents.toList index >>= storedCorners
  | .unstructured shape connectivity => do
      let perElement ← verticesOfShape shape
      let own := (connectivity.drop (index.toNat * perElement)).take perElement
      return own.map BitVec.toInt

def elementPoints (mesh : Mesh α) (index : Except Error Int) : Except Error (List Int) := do
  let count ← mesh.elementCount
  let index ← checkedIndex .element count index
  mesh.pointsAt index

section Cells

variable {mesh : Mesh α} (areCells : mesh.elements = .uniform ∨ mesh.elements = .rectilinear)

include areCells

theorem elementCount_of_cells :
    mesh.elementCount = .ok (extentProduct mesh.coordinates.elementExtents) := by
  unfold elementCount
  rcases areCells with isUniform | isRectilinear
  · rw [isUniform]
  · rw [isRectilinear]

theorem pointsAt_of_cells (index : Int) : mesh.pointsAt index =
    cornersOf mesh.coordinates.elementExtents.toList index >>= storedCorners := by
  unfold pointsAt
  rcases areCells with isUniform | isRectilinear
  · rw [isUniform]
  · rw [isRectilinear]

theorem elementPoints_of_cells (index : Except Error Int) : mesh.elementPoints index =
    checkedIndex .element (extentProduct mesh.coordinates.elementExtents) index >>= fun index =>
      cornersOf mesh.coordinates.elementExtents.toList index >>= storedCorners := by
  simp only [elementPoints, elementCount_of_cells areCells, pointsAt_of_cells areCells, ok_bind]

end Cells

variable [Scalar α]

def vertexLocation (mesh : Mesh α) (index : Except Error Int) : Except Error (Position α) := do
  let index ← checkedIndex .vertex mesh.pointCount index
  mesh.coordinates.vertex index

def elementLocation (mesh : Mesh α) (index : Except Error Int) : Except Error (Position α) := do
  let count ← mesh.elementCount
  let index ← checkedIndex .element count index
  match mesh.elements with
  | .points => mesh.coordinates.vertex index
  | _ => mesh.coordinates.elementCentre (mesh.elementPoints (.ok index)) index

theorem elementLocation_of_cells {mesh : Mesh α}
    (areCells : mesh.elements = .uniform ∨ mesh.elements = .rectilinear)
    (index : Except Error Int) : mesh.elementLocation index =
      checkedIndex .element (extentProduct mesh.coordinates.elementExtents) index >>= fun index =>
        mesh.coordinates.elementCentre (mesh.elementPoints (.ok index)) index := by
  rw [elementLocation, elementCount_of_cells areCells]
  rcases areCells with isUniform | isRectilinear
  · rw [isUniform]
    rfl
  · rw [isRectilinear]
    rfl

/-- Whether two meshes count alike and give the same answer to every question, failures included. -/
structure AnswersLike (mesh other : Mesh α) : Prop where
  pointCount : mesh.pointCount = other.pointCount
  elementCount : mesh.elementCount = other.elementCount
  vertexLocation : ∀ index, mesh.vertexLocation index = other.vertexLocation index
  elementPoints : ∀ index, mesh.elementPoints index = other.elementPoints index
  elementLocation : ∀ index, mesh.elementLocation index = other.elementLocation index

end Mesh

/-- The mesh over doubles that a topology forms on a coordinate set. -/
def Topology.mesh (topology : Topology) (coordset : Coordset) : Mesh Float :=
  ⟨topology.elements, coordset.coordinates⟩

section Stored

variable (topology : Topology) (coordset : Coordset)

theorem Entries.length_toLoose (entries : Entries Float) :
    entries.toLoose.length = entries.count := by
  cases entries <;> simp [Entries.toLoose, Entries.count]

theorem Column.count_entries (column : Column Value) : column.entries.count = column.size := by
  cases column <;> simp [Column.entries, Entries.count, Column.size]

theorem Axes.map_sizes (axes : Axes (Column Value)) :
    ((axes.map fun axis => axis.entries.toLoose).map fun axis => (axis.length : Int)) =
      axes.map fun axis => (axis.size : Int) := by
  rw [axes.map_map]
  simp only [Entries.length_toLoose, Column.count_entries]

theorem Coordset.pointCount_eq : coordset.pointCount = (topology.mesh coordset).pointCount := by
  cases coordset with
  | uniform extents origin spacing => rfl
  | rectilinear axes => exact congrArg extentProduct axes.map_sizes.symm
  | explicit axes =>
      simp [Coordset.pointCount, Mesh.pointCount, Topology.mesh, Coordset.coordinates, Axes.map,
        Entries.length_toLoose, Column.count_entries]

theorem Coordset.elementExtents_eq :
    coordset.elementExtents = coordset.coordinates.elementExtents := by
  have sizes (axes : Axes (Column Value)) :
      (axes.map fun axis => (axis.size : Int) - 1) =
        ((axes.map fun axis => axis.entries.toLoose).map fun axis => (axis.length : Int)).map
          (· - 1) := by
    rw [axes.map_sizes, axes.map_map]
  cases coordset with
  | uniform extents origin spacing => rfl
  | rectilinear axes => exact sizes axes
  | explicit axes => exact sizes axes

theorem Topology.elementCount_eq :
    topology.elementCount coordset = (topology.mesh coordset).elementCount := by
  unfold Topology.elementCount Mesh.elementCount
  rw [coordset.elementExtents_eq, coordset.pointCount_eq topology]
  rfl

theorem Topology.elementPoints_eq (index : Except Error Int) :
    topology.elementPoints coordset index = (topology.mesh coordset).elementPoints index := by
  unfold Topology.elementPoints Mesh.elementPoints Mesh.pointsAt
  rw [topology.elementCount_eq, coordset.elementExtents_eq]
  rfl

theorem Topology.vertexLocation_eq (index : Except Error Int) :
    coordset.vertexLocation index = (topology.mesh coordset).vertexLocation index := by
  unfold Coordset.vertexLocation Mesh.vertexLocation
  rw [coordset.pointCount_eq topology]
  rfl

theorem Topology.elementLocation_eq (index : Except Error Int) :
    topology.elementLocation coordset index = (topology.mesh coordset).elementLocation index := by
  unfold Topology.elementLocation Mesh.elementLocation
  simp only [topology.elementCount_eq, topology.elementPoints_eq]
  rfl

end Stored

end FieldSurvey
