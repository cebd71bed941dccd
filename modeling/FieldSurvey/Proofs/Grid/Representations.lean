import FieldSurvey.Proofs.Grid.EvenMesh

/-!
The representations of an evenly spaced mesh give the same answers, each by its own way of finding
points and cells. Of a uniform grid they are found by steps from the origin, of a rectilinear one
along the given axes, and where points are listed a cell is found through its corners.
-/

namespace FieldSurvey

namespace EvenMesh

variable {mesh : EvenMesh}

/-- The corners of a cell are found from the extents of the grid of cells. -/
theorem cornersOf_cell {place : Position Nat} (isCell : mesh.extents.cells.Holds place) :
    cornersOf mesh.extents.cells.wholes.toList (mesh.extents.cells.number place) >>=
        storedCorners =
      storedCorners (mesh.cornerNumbers place) := by
  rw [cornersOf_number isCell]
  rfl

theorem uniform_represents (mesh : EvenMesh) : mesh.IsRepresentedBy mesh.uniform where
  pointCount := rfl
  elementCount := by
    have cells : mesh.uniform.elementCount =
        .ok (extentProduct (mesh.extents.wholes.map (· - 1))) := rfl
    rw [cells, Axes.cells_wholes mesh.positive]
  notPoints := nofun
  vertex := by
    intro place holds
    have found : mesh.uniform.coordinates.vertex (mesh.extents.number place) = (do
        let place ← GridIndex.ofFlat (mesh.extents.number place) mesh.extents.wholes.toList
        Coordinates.uniformPoint mesh.extents.wholes mesh.origin.exact mesh.spacing.exact
          Coordinates.along place) := rfl
    rw [found, ofFlat_number holds, ok_bind]
    apply Coordinates.uniformPoint_exact
    · exact Coordinates.along_exact _ _ _
    · exact Coordinates.along_exact _ _ _
    · intro _
      exact Coordinates.along_exact _ _ _
    · intro inPlane
      exact point_layer holds ((Axes.isThreeDimensional_map _ _).symm.trans inPlane)
  pointsAt := by
    intro place isCell
    have found : mesh.uniform.pointsAt (mesh.extents.cells.number place) =
        cornersOf (mesh.extents.wholes.map (· - 1)).toList (mesh.extents.cells.number place) >>=
          storedCorners := rfl
    rw [found, Axes.cells_wholes mesh.positive, cornersOf_cell isCell]
  centre := by
    intro place isCell
    simp only [uniform, Coordinates.elementCentre, Axes.cells_wholes mesh.positive,
      ofFlat_number isCell, ok_bind]
    apply Coordinates.uniformPoint_exact
    · simp [Coordinates.along_exact, centre, point]
    · simp [Coordinates.along_exact, centre, point]
    · intro inSpace
      rw [Axes.wholes, Axes.isThreeDimensional_map] at inSpace
      simp [Coordinates.along_exact, centre, point, inSpace]
    · intro inPlane
      rw [Axes.wholes, Axes.isThreeDimensional_map] at inPlane
      simp [centre, inPlane]

section Rectilinear

theorem getElem?_axis (origin spacing : ℚ) {extent step : Nat} (onAxis : step < extent) :
    (axis extent origin spacing)[step]? =
      some (.readable (.finite (origin + step * spacing))) := by
  rw [axis, List.getElem?_map, List.getElem?_range onAxis]
  rfl

/-- Halfway between two points of an axis lies half a step beyond the first. -/
theorem middle_axis (origin spacing : ℚ) {extent step : Nat} (onAxis : step + 1 < extent) :
    Coordinates.middle (axis extent origin spacing) step =
      .ok (.finite (origin + step * spacing + 1 / 2 * spacing)) := by
  have halfway : 1 / 2 * (origin + step * spacing + (origin + (step + 1 : Nat) * spacing)) =
      origin + step * spacing + 1 / 2 * spacing := by
    push_cast
    ring
  rw [← halfway]
  exact Coordinates.middle_exact (getElem?_axis origin spacing (Nat.lt_of_succ_lt onAxis))
    (getElem?_axis origin spacing onAxis)

theorem third_axis {upward : List (LooseEntry ExactNumber)} (isThird : upward ∈ mesh.axes.z) :
    mesh.extents.isThreeDimensional = true ∧
      upward = axis mesh.extents.depth mesh.origin.z mesh.spacing.z := by
  obtain ⟨count, isCount, rfl⟩ := Option.map_eq_some_iff.mp isThird
  simp [Axes.isThreeDimensional, Axes.depth, isCount]

theorem axes_isThreeDimensional :
    mesh.axes.isThreeDimensional = mesh.extents.isThreeDimensional := Option.isSome_map

theorem axes_lengths (mesh : EvenMesh) : mesh.axes.map List.length = mesh.extents := by
  obtain ⟨⟨width, height, layers⟩, _, _, _, _⟩ := mesh
  cases layers <;> simp [axes, axis, Axes.map]

theorem axes_wholes (mesh : EvenMesh) :
    (mesh.axes.map fun axis => (axis.length : Int)) = mesh.extents.wholes := by
  rw [Axes.wholes, ← mesh.axes_lengths, Axes.map_map]

theorem axes_cells (mesh : EvenMesh) :
    (mesh.axes.map fun axis => (axis.length : Int) - 1) = mesh.extents.cells.wholes := by
  rw [← Axes.cells_wholes mesh.positive, ← mesh.axes_wholes, Axes.map_map]

theorem rectilinear_represents (mesh : EvenMesh) : mesh.IsRepresentedBy mesh.rectilinear where
  pointCount := congrArg extentProduct mesh.axes_wholes
  elementCount := by
    have cells : mesh.rectilinear.elementCount =
        .ok (extentProduct ((mesh.axes.map fun axis => (axis.length : Int)).map (· - 1))) := rfl
    rw [cells, axes_wholes, Axes.cells_wholes mesh.positive]
  notPoints := nofun
  vertex := by
    intro place holds
    have found : mesh.rectilinear.coordinates.vertex (mesh.extents.number place) = (do
        let place ← GridIndex.ofFlat (mesh.extents.number place)
          (mesh.axes.map fun axis => (axis.length : Int)).toList
        Coordinates.choose mesh.axes Coordinates.stored place.i place.j place.k) := rfl
    rw [found, axes_wholes, ofFlat_number holds, ok_bind]
    apply Coordinates.choose_exact
    · exact Coordinates.stored_exact (getElem?_axis _ _ holds.x)
    · exact Coordinates.stored_exact (getElem?_axis _ _ holds.y)
    · intro upward isThird
      rw [(third_axis isThird).2]
      exact Coordinates.stored_exact (getElem?_axis _ _ holds.z)
    · intro inPlane
      rw [axes_isThreeDimensional] at inPlane
      rw [point_layer holds inPlane, mesh.grounded inPlane]
  pointsAt := by
    intro place isCell
    have found : mesh.rectilinear.pointsAt (mesh.extents.cells.number place) =
        cornersOf ((mesh.axes.map fun axis => (axis.length : Int)).map (· - 1)).toList
          (mesh.extents.cells.number place) >>= storedCorners := rfl
    rw [found, axes_wholes, Axes.cells_wholes mesh.positive, cornersOf_cell isCell]
  centre := by
    intro place isCell
    simp only [rectilinear, Coordinates.elementCentre, axes_cells, ofFlat_number isCell, ok_bind]
    apply Coordinates.choose_exact
    · exact middle_axis _ _ (Nat.add_lt_of_lt_sub isCell.x)
    · exact middle_axis _ _ (Nat.add_lt_of_lt_sub isCell.y)
    · intro upward isThird
      obtain ⟨inSpace, isAxis⟩ := third_axis isThird
      rw [isAxis, centre, if_pos inSpace]
      exact middle_axis _ _ (Axes.cells_depth_lt inSpace isCell.z)
    · intro inPlane
      rw [axes_isThreeDimensional] at inPlane
      simp [centre, inPlane, mesh.grounded inPlane]

end Rectilinear

section Listed

theorem getElem?_column (coordinate : Position ℚ → ℚ) {place : Position Nat}
    (holds : mesh.extents.Holds place) :
    (mesh.column coordinate)[mesh.extents.number place]? =
      some (.readable (.finite (coordinate (mesh.point place)))) := by
  rw [column, List.getElem?_map, holds.getElem?_places]
  rfl

theorem listed_number {place : Position Nat} (holds : mesh.extents.Holds place) :
    Coordinates.listed mesh.listing (mesh.extents.number place) =
      .ok (mesh.point place).exact := by
  apply Coordinates.choose_exact
  · exact Coordinates.stored_exact (getElem?_column Position.x holds)
  · exact Coordinates.stored_exact (getElem?_column Position.y holds)
  · intro upward isThird
    obtain ⟨_, _, rfl⟩ := Option.map_eq_some_iff.mp isThird
    exact Coordinates.stored_exact (getElem?_column Position.z holds)
  · intro inPlane
    have noThird : mesh.extents.isThreeDimensional = false := Option.isSome_map.symm.trans inPlane
    rw [point_layer holds noThird, mesh.grounded noThird]

theorem listed_length (mesh : EvenMesh) : mesh.listing.x.length = mesh.extents.total := by
  rw [listing, column, List.length_map, Axes.length_places]

theorem verticesOfShape_eq (mesh : EvenMesh) :
    verticesOfShape (if mesh.extents.isThreeDimensional then "hex" else "quad") =
      .ok mesh.extents.cornerCount := by
  unfold Axes.cornerCount
  split <;> rfl

theorem cornerCount_pos (mesh : EvenMesh) : 0 < mesh.extents.cornerCount := by
  unfold Axes.cornerCount
  split <;> decide

theorem mean_listed {place : Position Nat} (isCell : mesh.extents.cells.Holds place) :
    Coordinates.meanOf mesh.listing (mesh.cornerNumbers place) = .ok (mesh.centre place).exact := by
  rw [← mean_corners isCell]
  apply Coordinates.meanOf_exact
  · rw [cornerNumbers, List.map_map]
    apply mapM_map_of_forall_ok
    intro corner isCorner
    exact listed_number (isCell.corners isCorner)
  · intro noCorners
    have someCorner := mesh.cornerCount_pos
    rw [← mesh.extents.length_corners place, List.map_eq_nil_iff.mp noCorners] at someCorner
    exact Nat.lt_irrefl 0 someCorner

section Fitting

variable (each : ∀ extent ∈ mesh.extents.toList, extent < 2 ^ 63)
  (fits : mesh.extents.total < 2 ^ 63)

include fits

theorem cornerNumbers_stored {place : Position Nat} (isCell : mesh.extents.cells.Holds place) :
    storedCorners (mesh.cornerNumbers place) = .ok (mesh.cornerNumbers place) :=
  storedCorners_numbers (fun _ isCorner => isCell.corners isCorner) fits

include each

theorem cells_counted : extentProduct mesh.extents.cells.wholes = mesh.extents.cells.total :=
  extentProduct_wholes (Axes.cells_bound each)
    (Nat.lt_of_le_of_lt mesh.extents.cells_total_le fits)

/-- Through any representation, the centre of a cell is the mean of the vertices at its corners. -/
theorem IsRepresentedBy.centre_of_vertices {given : Mesh ExactNumber}
    (isGiven : mesh.IsRepresentedBy given) {place : Position Nat}
    (isCell : mesh.extents.cells.Holds place) :
    given.elementPoints (.ok (mesh.extents.cells.number place)) = .ok (mesh.cornerNumbers place) ∧
      (mesh.cornerNumbers place).mapM (fun corner => given.vertexLocation (.ok corner)) =
        .ok (((mesh.extents.corners place).map mesh.point).map Position.exact) ∧
      given.elementLocation (.ok (mesh.extents.cells.number place)) =
        .ok (Position.mean ((mesh.extents.corners place).map mesh.point)).exact := by
  have counted := cells_counted each fits
  refine ⟨?_, ?_, ?_⟩
  · rw [isGiven.elementPoints_number counted isCell, cornerNumbers_stored fits isCell]
  · rw [cornerNumbers, List.map_map]
    apply mapM_map_of_forall_ok
    intro corner isCorner
    exact isGiven.vertexLocation_number (extentProduct_wholes each fits)
      (isCell.corners isCorner)
  · rw [isGiven.elementLocation_number counted isCell, mean_corners isCell]

theorem structured_represents : mesh.IsRepresentedBy mesh.structured where
  pointCount := by
    rw [extentProduct_wholes each fits, ← listed_length]
    rfl
  elementCount := rfl
  notPoints := nofun
  vertex _ holds := listed_number holds
  pointsAt _ isCell := cornersOf_cell isCell
  centre := by
    intro place isCell
    rw [cornerNumbers_stored fits isCell]
    exact mean_listed isCell

theorem row_number {place : Position Nat} (isCell : mesh.extents.cells.Holds place) :
    mesh.row (mesh.extents.cells.number place) =
      (mesh.cornerNumbers place).map (BitVec.ofInt 64) := by
  have counted := cells_counted each fits
  have isStructured := structured_represents each fits
  unfold row
  rw [isStructured.elementPoints_number counted isCell, cornerNumbers_stored fits isCell]

theorem length_row {index : Nat} (inRange : index ∈ List.range mesh.extents.cells.total) :
    (mesh.row index).length = mesh.extents.cornerCount := by
  obtain ⟨place, isCell, rfl⟩ := Axes.exists_place (List.mem_range.mp inRange)
  rw [row_number each fits isCell, List.length_map, cornerNumbers, List.length_map,
    Axes.length_corners]

theorem unstructured_represents : mesh.IsRepresentedBy mesh.unstructured where
  pointCount := (structured_represents each fits).pointCount
  elementCount := by
    have length : mesh.connectivity.length =
        mesh.extents.cornerCount * mesh.extents.cells.total := by
      rw [connectivity, length_flatMap_of_forall fun _ => length_row each fits, List.length_range]
    have counted : mesh.unstructured.elementCount = (do
        let perElement ← verticesOfShape
          (if mesh.extents.isThreeDimensional then "hex" else "quad")
        return (mesh.connectivity.length / perElement : Nat)) := rfl
    rw [counted, verticesOfShape_eq, ok_bind, length, Nat.mul_div_cancel_left _ mesh.cornerCount_pos,
      cells_counted each fits]
    rfl
  notPoints := nofun
  vertex _ holds := listed_number holds
  pointsAt := by
    intro place isCell
    have found : mesh.unstructured.pointsAt (mesh.extents.cells.number place) = (do
        let perElement ← verticesOfShape
          (if mesh.extents.isThreeDimensional then "hex" else "quad")
        return ((mesh.connectivity.drop (mesh.extents.cells.number place * perElement)).take
          perElement).map BitVec.toInt) := rfl
    have kept : ∀ corner ∈ mesh.extents.corners place,
        (BitVec.ofInt 64 (mesh.extents.number corner)).toInt = mesh.extents.number corner := by
      intro corner isCorner
      exact int64_keeps (Nat.lt_trans (isCell.corners isCorner).number_lt fits)
    rw [found, verticesOfShape_eq, ok_bind, connectivity,
      take_drop_flatMap (fun _ => length_row each fits) (List.getElem?_range isCell.number_lt),
      row_number each fits isCell, cornerNumbers_stored fits isCell, cornerNumbers, List.map_map,
      List.map_map]
    exact congrArg Except.ok (List.map_congr_left kept)
  centre := (structured_represents each fits).centre

end Fitting

end Listed

/-- All representations of an evenly spaced mesh give the same answers. The axes of a rectilinear
grid are arrays, and so is a listing of all points; both are shorter than `2 ^ 63`. Where the points
can be listed, they and the cells are counted exactly, every vertex is the point at its place, and
the centre of a cell that a formula gives is the mean of its corner vertices. -/
theorem representations_answer_alike (mesh : EvenMesh)
    (axesAreArrays : ∀ axis ∈ mesh.axes.toList, axis.length < 2 ^ 63) :
    mesh.rectilinear.AnswersLike mesh.uniform ∧
      (mesh.listing.x.length < 2 ^ 63 →
        mesh.structured.AnswersLike mesh.uniform ∧
        mesh.unstructured.AnswersLike mesh.uniform ∧
        mesh.uniform.pointCount = mesh.extents.total ∧
        mesh.uniform.elementCount = .ok (mesh.extents.cells.total : Int) ∧
        (∀ index < mesh.extents.total, ∃ place, mesh.extents.Holds place ∧
          mesh.extents.number place = index ∧
          mesh.uniform.vertexLocation (.ok index) = .ok (mesh.point place).exact) ∧
        ∀ index < mesh.extents.cells.total, ∃ corners vertices,
          mesh.uniform.elementPoints (.ok index) = .ok corners ∧
          corners.mapM (fun corner => mesh.uniform.vertexLocation (.ok corner)) =
            .ok (vertices.map Position.exact) ∧
          mesh.uniform.elementLocation (.ok index) = .ok (Position.mean vertices).exact) := by
  have each : ∀ extent ∈ mesh.extents.toList, extent < 2 ^ 63 := by
    rw [← mesh.axes_lengths, Axes.toList_map]
    intro extent isExtent
    obtain ⟨axis, isAxis, rfl⟩ := List.mem_map.mp isExtent
    exact axesAreArrays axis isAxis
  have isUniform := mesh.uniform_represents
  refine ⟨mesh.rectilinear_represents.answersLike isUniform each, ?_⟩
  intro isArray
  have fits : mesh.extents.total < 2 ^ 63 := mesh.listed_length ▸ isArray
  have counted := extentProduct_wholes each fits
  refine ⟨(structured_represents each fits).answersLike isUniform each,
    (unstructured_represents each fits).answersLike isUniform each, counted, ?_, ?_, ?_⟩
  · rw [isUniform.elementCount, cells_counted each fits]
  · intro index inRange
    obtain ⟨place, holds, isNumber⟩ := Axes.exists_place inRange
    refine ⟨place, holds, isNumber, ?_⟩
    rw [← isNumber]
    exact isUniform.vertexLocation_number counted holds
  · intro index inRange
    obtain ⟨place, isCell, isNumber⟩ := Axes.exists_place inRange
    rw [← isNumber]
    exact ⟨_, _, isUniform.centre_of_vertices each fits isCell⟩

/-- Two cells side by side in space. -/
def pair : EvenMesh where
  extents := ⟨3, 2, some 2⟩
  origin := ⟨1, 2, 5⟩
  spacing := ⟨1 / 2, 3, 1⟩
  positive := by decide
  grounded := nofun

theorem representations_of_pair_answer_alike :
    (∀ axis ∈ pair.axes.toList, axis.length < 2 ^ 63) ∧ pair.listing.x.length < 2 ^ 63 ∧
      pair.rectilinear.AnswersLike pair.uniform ∧ pair.structured.AnswersLike pair.uniform ∧
      pair.unstructured.AnswersLike pair.uniform ∧ pair.uniform.pointCount = 12 ∧
      pair.uniform.elementCount = .ok 2 ∧
      pair.uniform.elementLocation (.ok 1) = .ok (Position.exact ⟨7 / 4, 7 / 2, 11 / 2⟩) := by
  have axesAreArrays : ∀ axis ∈ pair.axes.toList, axis.length < 2 ^ 63 := by
    simp [pair, axes, axis, Axes.toList]
  have isArray : pair.listing.x.length < 2 ^ 63 := by
    simp [pair, listing, column, Axes.length_places, Axes.total, Axes.depth]
  obtain ⟨likeRectilinear, ifListed⟩ := representations_answer_alike pair axesAreArrays
  obtain ⟨likeStructured, likeUnstructured, points, elements, _⟩ := ifListed isArray
  have throughCorners : pair.structured.elementLocation (.ok 1) =
      .ok (Position.exact ⟨7 / 4, 7 / 2, 11 / 2⟩) := by decide +kernel
  have secondCentre := (likeStructured.elementLocation (.ok 1)).symm.trans throughCorners
  exact ⟨axesAreArrays, isArray, likeRectilinear, likeStructured, likeUnstructured, points,
    elements, secondCentre⟩

end EvenMesh

end FieldSurvey
