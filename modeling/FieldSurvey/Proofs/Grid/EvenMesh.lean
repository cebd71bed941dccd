import FieldSurvey.Proofs.Grid.ExactLocation
import FieldSurvey.Proofs.Grid.Places
import FieldSurvey.Proofs.Mesh.AnyNumbers

/-!
One evenly spaced mesh and its four representations: a uniform grid, a rectilinear grid, a
structured topology over listed points, and an unstructured one with listed elements. Whatever finds
the points, corners and centres of the mesh gives the same answers as anything else that does.
-/

namespace FieldSurvey

/-- Points that are evenly spaced along each axis. In the plane they lie at height 0. -/
structure EvenMesh where
  extents : Axes Nat
  origin : Position ℚ
  spacing : Position ℚ
  positive : ∀ extent ∈ extents.toList, 1 ≤ extent
  grounded : extents.isThreeDimensional = false → origin.z = 0

namespace EvenMesh

variable (mesh : EvenMesh)

def point (place : Position Nat) : Position ℚ where
  x := mesh.origin.x + place.x * mesh.spacing.x
  y := mesh.origin.y + place.y * mesh.spacing.y
  z := mesh.origin.z + place.z * mesh.spacing.z

/-- The centre of a cell, half a step beyond its first corner. -/
def centre (place : Position Nat) : Position ℚ where
  x := (mesh.point place).x + 1 / 2 * mesh.spacing.x
  y := (mesh.point place).y + 1 / 2 * mesh.spacing.y
  z := if mesh.extents.isThreeDimensional then (mesh.point place).z + 1 / 2 * mesh.spacing.z
    else mesh.origin.z

def cornerNumbers (place : Position Nat) : List Int :=
  (mesh.extents.corners place).map fun corner => (mesh.extents.number corner : Int)

section Representations

def uniform : Mesh ExactNumber :=
  ⟨.uniform, .uniform mesh.extents.wholes mesh.origin.exact mesh.spacing.exact⟩

/-- The coordinates along one axis. -/
def axis (extent : Nat) (origin spacing : ℚ) : List (LooseEntry ExactNumber) :=
  (List.range extent).map fun (step : Nat) => .readable (.finite (origin + step * spacing))

def axes : Axes (List (LooseEntry ExactNumber)) where
  x := axis mesh.extents.x mesh.origin.x mesh.spacing.x
  y := axis mesh.extents.y mesh.origin.y mesh.spacing.y
  z := mesh.extents.z.map fun extent => axis extent mesh.origin.z mesh.spacing.z

def rectilinear : Mesh ExactNumber := ⟨.rectilinear, .rectilinear mesh.axes⟩

/-- One coordinate of all points, with the first axis counted fastest. -/
def column (coordinate : Position ℚ → ℚ) : List (LooseEntry ExactNumber) :=
  mesh.extents.places.map fun place => .readable (.finite (coordinate (mesh.point place)))

def listing : Axes (List (LooseEntry ExactNumber)) where
  x := mesh.column Position.x
  y := mesh.column Position.y
  z := mesh.extents.z.map fun _ => mesh.column Position.z

def structured : Mesh ExactNumber :=
  ⟨.structured mesh.extents.cells.wholes, .explicit mesh.listing⟩

/-- The points of a structured element as they are stored. -/
def row (index : Nat) : List (BitVec 64) :=
  match mesh.structured.elementPoints (.ok index) with
  | .ok points => points.map (BitVec.ofInt 64)
  | .error _ => []

/-- The rows of all elements, one after the other. -/
def connectivity : List (BitVec 64) := (List.range mesh.extents.cells.total).flatMap mesh.row

def unstructured : Mesh ExactNumber where
  elements := .unstructured (if mesh.extents.isThreeDimensional then "hex" else "quad")
    mesh.connectivity
  coordinates := .explicit mesh.listing

end Representations

/-- In the plane a mesh lies at the height of its origin. -/
theorem point_layer {mesh : EvenMesh} {place : Position Nat} (holds : mesh.extents.Holds place)
    (inPlane : mesh.extents.isThreeDimensional = false) : (mesh.point place).z = mesh.origin.z := by
  simp [point, holds.layer_eq_zero inPlane]

/-- The centre of a cell is the mean of its corners. -/
theorem mean_corners {mesh : EvenMesh} {place : Position Nat}
    (isCell : mesh.extents.cells.Holds place) :
    Position.mean ((mesh.extents.corners place).map mesh.point) = mesh.centre place := by
  cases inSpace : mesh.extents.isThreeDimensional with
  | true =>
      simp only [Position.mean, centre, Axes.corners, Axes.around, inSpace, if_true, point,
        List.cons_append, List.nil_append, List.map_cons, List.map_nil, List.sum_cons,
        List.sum_nil, List.length_cons, List.length_nil, Position.mk.injEq]
      push_cast
      exact ⟨by ring, by ring, by ring⟩
  | false =>
      have onGround := isCell.layer_eq_zero ((Axes.isThreeDimensional_map _ _).trans inSpace)
      simp only [Position.mean, centre, Axes.corners, Axes.around, inSpace, Bool.false_eq_true,
        if_false, point, onGround, List.map_cons, List.map_nil, List.sum_cons, List.sum_nil,
        List.length_cons, List.length_nil, Position.mk.injEq]
      push_cast
      exact ⟨by ring, by ring, by ring⟩

end EvenMesh

/-- A representation of an even mesh: it counts the places of points and of cells, and at the number
of each place it finds the point, or the corners and the centre of the cell. -/
structure EvenMesh.IsRepresentedBy (mesh : EvenMesh) (given : Mesh ExactNumber) : Prop where
  pointCount : given.pointCount = extentProduct mesh.extents.wholes
  elementCount : given.elementCount = .ok (extentProduct mesh.extents.cells.wholes)
  notPoints : given.elements ≠ .points
  vertex : ∀ place, mesh.extents.Holds place →
    given.coordinates.vertex (mesh.extents.number place) = .ok (mesh.point place).exact
  pointsAt : ∀ place, mesh.extents.cells.Holds place →
    given.pointsAt (mesh.extents.cells.number place) = storedCorners (mesh.cornerNumbers place)
  centre : ∀ place, mesh.extents.cells.Holds place →
    given.coordinates.elementCentre (storedCorners (mesh.cornerNumbers place))
        (mesh.extents.cells.number place) =
      .ok (mesh.centre place).exact

namespace EvenMesh.IsRepresentedBy

variable {mesh : EvenMesh} {given other : Mesh ExactNumber}

section Checked

variable {part : MeshPart} {extents : Axes Nat}

/-- An index that is not refused is the number of a place, and that is not refused either. -/
theorem checkedIndex_cases (each : ∀ extent ∈ extents.toList, extent < 2 ^ 63)
    (index : Except Error Int) :
    (∃ cause, checkedIndex part (extentProduct extents.wholes) index = .error cause) ∨
      ∃ place, extents.Holds place ∧
        checkedIndex part (extentProduct extents.wholes) index = .ok (extents.number place : Int) ∧
        checkedIndex part (extentProduct extents.wholes) (.ok (extents.number place : Int)) =
          .ok (extents.number place : Int) := by
  cases index with
  | error cause => exact .inl ⟨cause, rfl⟩
  | ok index =>
      by_cases inRange : 0 ≤ index ∧ index < extentProduct extents.wholes
      · have inGrid : index.toNat < extents.total := by
          have bound := extentProduct_le each
          omega
        obtain ⟨place, holds, isNumber⟩ := Axes.exists_place inGrid
        have sameIndex : (extents.number place : Int) = index := by
          rw [isNumber, Int.toNat_of_nonneg inRange.1]
        have passes : checkedIndex part (extentProduct extents.wholes) (.ok index) = .ok index :=
          if_pos inRange
        rw [← sameIndex] at passes ⊢
        exact .inr ⟨place, holds, passes, passes⟩
      · exact .inl ⟨_, if_neg inRange⟩

theorem checkedIndex_number (exactCount : extentProduct extents.wholes = extents.total)
    {place : Position Nat} (holds : extents.Holds place) :
    checkedIndex part (extentProduct extents.wholes) (.ok (extents.number place : Int)) =
      .ok (extents.number place : Int) := by
  rw [exactCount]
  exact checkedIndex_of_inRange holds.number_inRange

end Checked

theorem vertexLocation_eq (isGiven : mesh.IsRepresentedBy given) (index : Except Error Int) :
    given.vertexLocation index =
      checkedIndex .vertex (extentProduct mesh.extents.wholes) index >>=
        given.coordinates.vertex := by
  rw [Mesh.vertexLocation, isGiven.pointCount]

theorem elementPoints_eq (isGiven : mesh.IsRepresentedBy given) (index : Except Error Int) :
    given.elementPoints index =
      checkedIndex .element (extentProduct mesh.extents.cells.wholes) index >>=
        given.pointsAt := by
  rw [Mesh.elementPoints, isGiven.elementCount]
  rfl

theorem elementLocation_eq (isGiven : mesh.IsRepresentedBy given) (index : Except Error Int) :
    given.elementLocation index =
      checkedIndex .element (extentProduct mesh.extents.cells.wholes) index >>= fun index =>
        given.coordinates.elementCentre (given.elementPoints (.ok index)) index := by
  rw [Mesh.elementLocation, isGiven.elementCount, ok_bind]
  congr 1
  funext index
  have notPoints := isGiven.notPoints
  split
  · rename_i arePoints
    exact absurd arePoints notPoints
  · rfl

section Numbered

variable {place : Position Nat}

theorem vertexLocation_number (isGiven : mesh.IsRepresentedBy given)
    (counted : extentProduct mesh.extents.wholes = mesh.extents.total)
    (holds : mesh.extents.Holds place) :
    given.vertexLocation (.ok (mesh.extents.number place)) = .ok (mesh.point place).exact := by
  rw [isGiven.vertexLocation_eq, checkedIndex_number counted holds, ok_bind,
    isGiven.vertex place holds]

variable (counted : extentProduct mesh.extents.cells.wholes = mesh.extents.cells.total)
  (isCell : mesh.extents.cells.Holds place)

include counted isCell

theorem elementPoints_number (isGiven : mesh.IsRepresentedBy given) :
    given.elementPoints (.ok (mesh.extents.cells.number place)) =
      storedCorners (mesh.cornerNumbers place) := by
  rw [isGiven.elementPoints_eq, checkedIndex_number counted isCell, ok_bind,
    isGiven.pointsAt place isCell]

theorem elementLocation_number (isGiven : mesh.IsRepresentedBy given) :
    given.elementLocation (.ok (mesh.extents.cells.number place)) =
      .ok (mesh.centre place).exact := by
  rw [isGiven.elementLocation_eq, checkedIndex_number counted isCell, ok_bind,
    isGiven.elementPoints_number counted isCell, isGiven.centre place isCell]

end Numbered

/-- Two representations of a mesh give the same answers, also to an index that they refuse. -/
theorem answersLike (isGiven : mesh.IsRepresentedBy given) (isOther : mesh.IsRepresentedBy other)
    (each : ∀ extent ∈ mesh.extents.toList, extent < 2 ^ 63) : given.AnswersLike other where
  pointCount := by rw [isGiven.pointCount, isOther.pointCount]
  elementCount := by rw [isGiven.elementCount, isOther.elementCount]
  vertexLocation := by
    intro index
    rw [isGiven.vertexLocation_eq, isOther.vertexLocation_eq]
    rcases checkedIndex_cases each index with ⟨cause, refused⟩ | ⟨place, holds, isNumber, _⟩
    · rw [refused, error_bind, error_bind]
    · rw [isNumber, ok_bind, ok_bind, isGiven.vertex place holds, isOther.vertex place holds]
  elementPoints := by
    intro index
    rw [isGiven.elementPoints_eq, isOther.elementPoints_eq]
    rcases checkedIndex_cases (Axes.cells_bound each) index with
      ⟨cause, refused⟩ | ⟨place, isCell, isNumber, _⟩
    · rw [refused, error_bind, error_bind]
    · rw [isNumber, ok_bind, ok_bind, isGiven.pointsAt place isCell, isOther.pointsAt place isCell]
  elementLocation := by
    intro index
    rw [isGiven.elementLocation_eq, isOther.elementLocation_eq]
    rcases checkedIndex_cases (Axes.cells_bound each) index with
      ⟨cause, refused⟩ | ⟨place, isCell, isNumber, passes⟩
    · rw [refused, error_bind, error_bind]
    · rw [isNumber, ok_bind, ok_bind, isGiven.elementPoints_eq, isOther.elementPoints_eq, passes,
        ok_bind, ok_bind, isGiven.pointsAt place isCell, isOther.pointsAt place isCell,
        isGiven.centre place isCell, isOther.centre place isCell]

end EvenMesh.IsRepresentedBy

end FieldSurvey
