import FieldSurvey.Proofs.Grid.ExactLocation
import FieldSurvey.Proofs.Mesh.IndexChecks

/-!
Which vertices an element names, and whether it lies in their middle. The number of vertices is
always that of the element's kind. The vertices of a listed element are taken as they are stored:
one past the end has no location, but a negative one is counted from the end.
-/

namespace FieldSurvey

namespace Axes

theorem map_self {β : Type} (axes : Axes β) : axes.map (fun item => item) = axes := by
  obtain ⟨_, _, last⟩ := axes
  cases last <;> rfl

theorem prod_wholes (counts : Axes Nat) : counts.wholes.toList.prod = counts.total := by
  obtain ⟨width, height, layers⟩ := counts
  cases layers <;> simp [wholes, map, toList, total, depth, mul_assoc]

/-- The last corner of the last cell is the last point. -/
theorem exists_last_corner {counts : Axes Nat}
    (someCells : ∀ count ∈ counts.cells.toList, 1 ≤ count) :
    ∃ place, counts.cells.Holds place ∧
      ∃ corner ∈ counts.corners place, counts.number corner + 1 = counts.total := by
  obtain ⟨width, height, layers⟩ := counts
  obtain ⟨lastX, rfl⟩ : ∃ last, width = last + 2 := by
    have isCell : 1 ≤ width - 1 := someCells _ (x_mem _)
    exact ⟨width - 2, by omega⟩
  obtain ⟨lastY, rfl⟩ : ∃ last, height = last + 2 := by
    have isCell : 1 ≤ height - 1 := someCells _ (y_mem _)
    exact ⟨height - 2, by omega⟩
  cases layers with
  | none =>
      refine ⟨⟨lastX, lastY, 0⟩, ⟨Nat.lt_succ_self _, Nat.lt_succ_self _, Nat.one_pos⟩,
        ⟨lastX + 1, lastY + 1, 0⟩, by simp [corners, around, isThreeDimensional], ?_⟩
      simp only [number, total, depth, Option.getD_none]
      ring
  | some count =>
      obtain ⟨lastZ, rfl⟩ : ∃ last, count = last + 2 := by
        have isCell : 1 ≤ count - 1 := someCells _ (mem_of_third rfl)
        exact ⟨count - 2, by omega⟩
      refine ⟨⟨lastX, lastY, lastZ⟩,
        ⟨Nat.lt_succ_self _, Nat.lt_succ_self _, Nat.lt_succ_self _⟩,
        ⟨lastX + 1, lastY + 1, lastZ + 1⟩, by simp [corners, around, isThreeDimensional], ?_⟩
      simp only [number, total, depth, Option.getD_some]
      ring

end Axes

/-- The position is the mean of these; that of a single one is the position itself. -/
def Position.IsMean {α : Type} [Scalar α] (position : Position α) (positions : List (Position α)) :
    Prop :=
  positions = [position] ∨ position = average positions

namespace Mesh

section Elements

variable {α : Type}

/-- How many vertices each element of the mesh has. -/
def verticesPerElement (mesh : Mesh α) : Nat :=
  match mesh.elements with
  | .points => 1
  | .uniform => if mesh.coordinates.extents.isThreeDimensional then 8 else 4
  | .rectilinear => if mesh.coordinates.extents.isThreeDimensional then 8 else 4
  | .structured extents => if extents.isThreeDimensional then 8 else 4
  | .unstructured shape _ => (shapeVertices? shape).getD 0

def HasElement (mesh : Mesh α) (index : Int) : Prop :=
  ∃ count, mesh.elementCount = .ok count ∧ 0 ≤ index ∧ index < count

/-- The element names as many vertices as its kind has, and all of them are points of the mesh. -/
def NamesPoints (mesh : Mesh α) (index : Int) : Prop :=
  ∃ vertices, mesh.elementPoints (.ok index) = .ok vertices ∧
    vertices.length = mesh.verticesPerElement ∧
    ∀ vertex ∈ vertices, 0 ≤ vertex ∧ vertex < mesh.pointCount

variable {mesh : Mesh α} {index : Int} {vertices : List Int}

theorem HasElement.elementPoints_eq (has : mesh.HasElement index) :
    mesh.elementPoints (.ok index) = mesh.pointsAt index := by
  obtain ⟨count, counted, inRange⟩ := has
  rw [elementPoints, counted, ok_bind, checkedIndex_of_inRange inRange, ok_bind]

theorem length_cornersOf {extents : List Int} {corners : List Int}
    (found : cornersOf extents index = .ok corners) :
    corners.length = if extents.length = 3 then 8 else 4 := by
  unfold cornersOf at found
  obtain ⟨_, _, found⟩ := bind_eq_ok.mp found
  obtain ⟨_, _, found⟩ := bind_eq_ok.mp found
  obtain ⟨_, _, found⟩ := bind_eq_ok.mp found
  split at found
  · rename_i inSpace
    cases found
    rw [if_pos inSpace]
    rfl
  · rename_i inPlane
    cases found
    rw [if_neg inPlane]
    rfl

theorem eq_of_storedCorners {corners : List Int} (stored : storedCorners corners = .ok vertices) :
    vertices = corners := by
  unfold storedCorners at stored
  split at stored
  · exact (Except.ok.inj stored).symm
  · cases stored

theorem length_storedCorners {extents : Axes Int}
    (found : cornersOf extents.toList index >>= storedCorners = .ok vertices) :
    vertices.length = if extents.isThreeDimensional then 8 else 4 := by
  obtain ⟨corners, areCorners, stored⟩ := bind_eq_ok.mp found
  rw [eq_of_storedCorners stored, length_cornersOf areCorners]
  obtain ⟨_, _, layers⟩ := extents
  cases layers <;> rfl

/-- An element has as many vertices as its kind, whatever they are. -/
theorem length_pointsAt (has : mesh.HasElement index) (found : mesh.pointsAt index = .ok vertices) :
    vertices.length = mesh.verticesPerElement := by
  obtain ⟨count, counted, notBefore, isBelow⟩ := has
  obtain ⟨elements, coordinates⟩ := mesh
  have derived (isFound : cornersOf coordinates.elementExtents.toList index >>= storedCorners =
      .ok vertices) :
      vertices.length = if coordinates.extents.isThreeDimensional then 8 else 4 := by
    rw [length_storedCorners isFound, Coordinates.elementExtents, Axes.isThreeDimensional_map]
  cases elements with
  | points =>
      rw [eq_of_storedCorners found]
      rfl
  | uniform => exact derived found
  | rectilinear => exact derived found
  | structured extents => exact length_storedCorners found
  | unstructured shape connectivity =>
      obtain ⟨perElement, isShape, found⟩ := bind_eq_ok.mp found
      have isCount : count = (connectivity.length / perElement : Nat) := by
        obtain ⟨same, sameShape, isCount⟩ := bind_eq_ok.mp counted
        rw [isShape] at sameShape
        cases sameShape
        exact (Except.ok.inj isCount).symm
      have known : shapeVertices? shape = some perElement := by
        unfold verticesOfShape at isShape
        split at isShape
        · cases isShape
          assumption
        · cases isShape
      cases found
      have whole : (index.toNat + 1) * perElement ≤ connectivity.length := by
        have isRow : index.toNat < connectivity.length / perElement := by omega
        exact Nat.mul_le_of_le_div _ _ _ isRow
      rw [Nat.succ_mul] at whole
      simp only [verticesPerElement, known, Option.getD_some, List.length_map, List.length_take,
        List.length_drop]
      omega

theorem HasElement.namesPoints (has : mesh.HasElement index)
    (found : mesh.elementPoints (.ok index) = .ok vertices)
    (inMesh : ∀ vertex ∈ vertices, 0 ≤ vertex ∧ vertex < mesh.pointCount) :
    mesh.NamesPoints index :=
  ⟨vertices, found, length_pointsAt has (has.elementPoints_eq ▸ found), inMesh⟩

end Elements

section Locations

variable {α : Type} [Scalar α] {mesh : Mesh α} {index : Int} {vertices : List Int}

/-- What an element should be: it names points of the mesh, and if it has a location, that is the
mean of theirs. -/
def NamesVertices (mesh : Mesh α) (index : Int) : Prop :=
  mesh.NamesPoints index ∧ ∀ position, mesh.elementLocation (.ok index) = .ok position →
    ∃ vertices corners, mesh.elementPoints (.ok index) = .ok vertices ∧
      vertices.mapM (fun vertex => mesh.vertexLocation (.ok vertex)) = .ok corners ∧
      position.IsMean corners

theorem vertexLocation_of_inMesh {vertex : Int} (inMesh : 0 ≤ vertex ∧ vertex < mesh.pointCount) :
    mesh.vertexLocation (.ok vertex) = mesh.coordinates.vertex vertex := by
  rw [vertexLocation, checkedIndex_of_inRange inMesh, ok_bind]

theorem HasElement.elementLocation_eq (has : mesh.HasElement index)
    (notPoints : mesh.elements ≠ .points) :
    mesh.elementLocation (.ok index) =
      mesh.coordinates.elementCentre (mesh.elementPoints (.ok index)) index := by
  obtain ⟨count, counted, inRange⟩ := has
  rw [elementLocation, counted, ok_bind, checkedIndex_of_inRange inRange, ok_bind]
  split
  · rename_i arePoints
    exact absurd arePoints notPoints
  · rfl

theorem HasElement.elementLocation_eq_vertex (has : mesh.HasElement index)
    (arePoints : mesh.elements = .points) :
    mesh.elementLocation (.ok index) = mesh.coordinates.vertex index := by
  obtain ⟨count, counted, inRange⟩ := has
  rw [elementLocation, counted, ok_bind, checkedIndex_of_inRange inRange, ok_bind]
  simp only [arePoints]

/-- A listed element lies in the middle of the points that it names. -/
theorem HasElement.elementLocation_eq_mean (has : mesh.HasElement index)
    (notPoints : mesh.elements ≠ .points) {axes : Axes (List (LooseEntry α))}
    (listed : mesh.coordinates = .explicit axes)
    (found : mesh.elementPoints (.ok index) = .ok vertices) :
    mesh.elementLocation (.ok index) =
      vertices.mapM (Coordinates.listed axes) >>= fun corners =>
        .ok (Position.average corners) := by
  rw [has.elementLocation_eq notPoints, listed, found, ← Coordinates.meanOf_eq]
  rfl

/-- Single points and listed elements are what they should be if they name points of the mesh. -/
theorem namesVertices_iff (has : mesh.HasElement index)
    (isListed : mesh.elements = .points ∨ ∃ axes, mesh.coordinates = .explicit axes) :
    mesh.NamesVertices index ↔ mesh.NamesPoints index := by
  refine ⟨And.left, fun names => ⟨names, ?_⟩⟩
  obtain ⟨vertices, found, isCount, inMesh⟩ := names
  intro position located
  by_cases arePoints : mesh.elements = .points
  · rw [has.elementLocation_eq_vertex arePoints] at located
    have isSole : vertices = [index] := by
      rw [has.elementPoints_eq, pointsAt, arePoints] at found
      exact eq_of_storedCorners found
    subst isSole
    refine ⟨[index], [position], found, ?_, .inl rfl⟩
    rw [List.mapM_cons, List.mapM_nil,
      vertexLocation_of_inMesh (inMesh index List.mem_cons_self), located]
    rfl
  · obtain ⟨axes, listed⟩ := isListed.resolve_left arePoints
    rw [has.elementLocation_eq_mean arePoints listed found] at located
    obtain ⟨corners, areCorners, isMean⟩ := bind_eq_ok.mp located
    refine ⟨vertices, corners, found, ?_, .inr (Except.ok.inj isMean).symm⟩
    rw [mapM_eq_ok, List.forall₂_iff_zip] at areCorners ⊢
    refine ⟨areCorners.1, ?_⟩
    intro vertex corner isPair
    have inRange := inMesh vertex (List.of_mem_zip isPair).1
    rw [vertexLocation_of_inMesh inRange, listed]
    exact areCorners.2 isPair

end Locations

section Listed

variable {axes : Axes (List (LooseEntry Float))} {count : Nat}
  (readable : ∀ axis ∈ axes.toList, ∀ entry ∈ axis, entry.IsReadable)
  (even : ∀ axis ∈ axes.toList, axis.length = count)

theorem stored_ok_iff {axis : List (LooseEntry Float)}
    (areReadable : ∀ entry ∈ axis, entry.IsReadable) {index : Int} :
    (∃ number, Coordinates.stored axis index = .ok number) ↔
      -(axis.length : Int) ≤ index ∧ index < axis.length := by
  rw [← entryAt_ok_iff]
  constructor
  · rintro ⟨number, found⟩
    obtain ⟨entry, isEntry, _⟩ := bind_eq_ok.mp found
    exact ⟨entry, isEntry⟩
  · rintro ⟨entry, isEntry⟩
    obtain ⟨place, stands, _⟩ := entryAt_eq_ok.mp isEntry
    obtain ⟨number, rfl⟩ := areReadable entry (List.mem_of_getElem? stands)
    refine ⟨number, ?_⟩
    rw [Coordinates.stored, isEntry]
    rfl

include readable even

theorem listed_ok_iff {index : Int} :
    (∃ position, Coordinates.listed axes index = .ok position) ↔
      -(count : Int) ≤ index ∧ index < count := by
  have along : ∀ axis ∈ axes.toList, ((∃ number, Coordinates.stored axis index = .ok number) ↔
      -(count : Int) ≤ index ∧ index < count) := by
    intro axis isAxis
    rw [stored_ok_iff (readable axis isAxis), even axis isAxis]
  constructor
  · rintro ⟨position, found⟩
    obtain ⟨number, isNumber, _⟩ := bind_eq_ok.mp found
    exact (along _ axes.x_mem).mp ⟨number, isNumber⟩
  · intro inRange
    apply Coordinates.choose_ok
    · exact (along _ axes.x_mem).mpr inRange
    · exact (along _ axes.y_mem).mpr inRange
    · intro axis isThird
      exact (along axis (Axes.mem_of_third isThird)).mpr inRange

/-- A listed element has a location exactly if all numbers of its points are subscripts, also if
some are negative. -/
theorem located_iff {mesh : Mesh Float} {index : Int} {vertices : List Int}
    (has : mesh.HasElement index) (notPoints : mesh.elements ≠ .points)
    (listed : mesh.coordinates = .explicit axes)
    (found : mesh.elementPoints (.ok index) = .ok vertices) :
    (∃ position, mesh.elementLocation (.ok index) = .ok position) ↔
      ∀ vertex ∈ vertices, -(count : Int) ≤ vertex ∧ vertex < count := by
  rw [has.elementLocation_eq_mean notPoints listed found]
  constructor
  · rintro ⟨position, located⟩ vertex isVertex
    obtain ⟨corners, areCorners, _⟩ := bind_eq_ok.mp located
    obtain ⟨corner, _, isCorner⟩ := exists_of_mapM_ok areCorners isVertex
    exact (listed_ok_iff readable even).mp ⟨corner, isCorner⟩
  · intro inRange
    obtain ⟨corner, isCorner⟩ : ∃ corner : Int → Position Float, ∀ vertex ∈ vertices,
        Coordinates.listed axes vertex = .ok (corner vertex) := by
      have : Nonempty (Position Float) := ⟨⟨0, 0, 0⟩⟩
      exact exists_results fun vertex isVertex =>
        (listed_ok_iff readable even).mpr (inRange vertex isVertex)
    rw [mapM_of_forall_ok isCorner]
    exact ⟨_, rfl⟩

end Listed

section Stored

variable {α : Type} {mesh : Mesh α}

/-- Single points name themselves, as long as their numbers fit a word. -/
theorem namesPoints_of_points (arePoints : mesh.elements = .points)
    (fits : mesh.pointCount ≤ 2 ^ 63) {index : Int} (has : mesh.HasElement index) :
    mesh.NamesPoints index := by
  have counted : mesh.elementCount = .ok mesh.pointCount := by
    simp only [elementCount, arePoints]
  obtain ⟨count, isCount, notBefore, isBelow⟩ := id has
  rw [counted] at isCount
  cases isCount
  have found : mesh.elementPoints (.ok index) = .ok [index] := by
    rw [has.elementPoints_eq, pointsAt, arePoints]
    exact storedCorners_singleton notBefore (isBelow.trans_le fits)
  apply has.namesPoints found
  rw [List.forall_mem_singleton]
  exact ⟨notBefore, isBelow⟩

theorem mem_take_mul {β : Type} {entries : List β} {entry : β} (rows width : Nat) :
    entry ∈ entries.take (rows * width) ↔
      ∃ row < rows, entry ∈ (entries.drop (row * width)).take width := by
  induction rows with
  | zero => simp
  | succ rows inductionHypothesis =>
      rw [Nat.succ_mul, List.take_add, List.mem_append, inductionHypothesis]
      constructor
      · rintro (⟨row, isRow, isEntry⟩ | isEntry)
        · exact ⟨row, Nat.lt_succ_of_lt isRow, isEntry⟩
        · exact ⟨rows, Nat.lt_succ_self rows, isEntry⟩
      · rintro ⟨row, isRow, isEntry⟩
        rcases Nat.lt_succ_iff_lt_or_eq.mp isRow with isEarlier | rfl
        · exact .inl ⟨row, isEarlier, isEntry⟩
        · exact .inr isEntry

/-- Stored elements name points of the mesh exactly if all stored numbers that belong to a whole
element are those of points. -/
theorem namesPoints_unstructured_iff {shape : String} {connectivity : List (BitVec 64)}
    (isUnstructured : mesh.elements = .unstructured shape connectivity) {perElement : Nat}
    (known : verticesOfShape shape = .ok perElement) :
    (∀ index, mesh.HasElement index → mesh.NamesPoints index) ↔
      ∀ word ∈ connectivity.take (connectivity.length / perElement * perElement),
        0 ≤ word.toInt ∧ word.toInt < mesh.pointCount := by
  have counted : mesh.elementCount = .ok ((connectivity.length / perElement : Nat) : Int) := by
    simp only [elementCount, isUnstructured, known, ok_bind]
    rfl
  have isElement (row : Nat) (isRow : row < connectivity.length / perElement) :
      mesh.HasElement row := ⟨_, counted, Int.natCast_nonneg _, Int.ofNat_lt.mpr isRow⟩
  have found (row : Nat) (isRow : row < connectivity.length / perElement) :
      mesh.elementPoints (.ok row) =
        .ok (((connectivity.drop (row * perElement)).take perElement).map BitVec.toInt) := by
    rw [(isElement row isRow).elementPoints_eq]
    simp only [pointsAt, isUnstructured, known, ok_bind]
    rfl
  constructor
  · intro allName word isWord
    obtain ⟨row, isRow, inRow⟩ := (mem_take_mul _ _).mp isWord
    obtain ⟨vertices, areVertices, _, inMesh⟩ := allName row (isElement row isRow)
    rw [found row isRow] at areVertices
    cases areVertices
    exact inMesh _ (List.mem_map_of_mem inRow)
  · intro allInMesh index has
    obtain ⟨count, isCount, notBefore, isBelow⟩ := has
    rw [counted] at isCount
    cases isCount
    obtain ⟨row, rfl⟩ := Int.eq_ofNat_of_zero_le notBefore
    have isRow := Int.ofNat_lt.mp isBelow
    apply (isElement row isRow).namesPoints (found row isRow)
    rw [List.forall_mem_map]
    intro word inRow
    exact allInMesh word ((mem_take_mul _ _).mpr ⟨row, isRow, inRow⟩)

end Stored

section Grids

variable {α : Type} {mesh : Mesh α} {counts : Axes Nat} {index : Int} {place : Position Nat}

/-- The elements are the cells between the points of a grid with these extents: there are as many,
and each names its corners. -/
structure HasCells (mesh : Mesh α) (counts : Axes Nat) : Prop where
  counted : mesh.elementCount = .ok (counts.cells.total : Int)
  corners : ∀ place, counts.cells.Holds place →
    mesh.elementPoints (.ok (counts.cells.number place)) =
      .ok ((counts.corners place).map fun corner => (counts.number corner : Int))

theorem hasCells_of_pointsAt (counted : mesh.elementCount = .ok (counts.cells.total : Int))
    (finds : ∀ index, mesh.pointsAt index =
      cornersOf counts.cells.wholes.toList index >>= storedCorners)
    (fits : counts.total < 2 ^ 63) : mesh.HasCells counts where
  counted := counted
  corners := by
    intro place isCell
    have has : mesh.HasElement (counts.cells.number place) := ⟨_, counted, isCell.number_inRange⟩
    rw [has.elementPoints_eq, finds, cornersOf_number isCell, ok_bind]
    exact storedCorners_numbers (fun corner => isCell.corners) fits

namespace HasCells

variable (hasCells : mesh.HasCells counts)

include hasCells

theorem hasElement (isCell : counts.cells.Holds place) :
    mesh.HasElement (counts.cells.number place) :=
  ⟨_, hasCells.counted, isCell.number_inRange⟩

theorem exists_cell (has : mesh.HasElement index) :
    ∃ place, counts.cells.Holds place ∧ index = counts.cells.number place := by
  obtain ⟨count, isCount, notBefore, isBelow⟩ := has
  rw [hasCells.counted] at isCount
  cases isCount
  obtain ⟨number, rfl⟩ := Int.eq_ofNat_of_zero_le notBefore
  obtain ⟨place, isCell, rfl⟩ := Axes.exists_place (Int.ofNat_lt.mp isBelow)
  exact ⟨place, isCell, rfl⟩

/-- If the mesh has all points of the grid, the cells name points of the mesh. -/
theorem namesPoints (enough : (counts.total : Int) ≤ mesh.pointCount)
    (has : mesh.HasElement index) : mesh.NamesPoints index := by
  obtain ⟨place, isCell, rfl⟩ := hasCells.exists_cell has
  apply has.namesPoints (hasCells.corners place isCell)
  rw [List.forall_mem_map]
  intro corner isCorner
  obtain ⟨notBefore, inGrid⟩ := (isCell.corners isCorner).number_inRange
  exact ⟨notBefore, inGrid.trans_le enough⟩

/-- The last cell names the last point of the grid. -/
theorem total_le (someCells : ∀ count ∈ counts.cells.toList, 1 ≤ count)
    (allName : ∀ index, mesh.HasElement index → mesh.NamesPoints index) :
    (counts.total : Int) ≤ mesh.pointCount := by
  obtain ⟨place, isCell, corner, isCorner, isLast⟩ := Axes.exists_last_corner someCells
  obtain ⟨vertices, areVertices, _, inMesh⟩ := allName _ (hasCells.hasElement isCell)
  rw [hasCells.corners place isCell] at areVertices
  cases areVertices
  have isBelow := (inMesh _ (List.mem_map_of_mem isCorner)).2
  omega

end HasCells

/-- Elements in rows name points of the mesh exactly if the mesh has all points of their grid. -/
theorem namesPoints_structured_iff {extents : Axes Int}
    (isStructured : mesh.elements = .structured extents)
    (positive : ∀ extent ∈ extents.toList, 1 ≤ extent)
    (fits : (extents.map (· + 1)).toList.prod < 2 ^ 63) :
    (∀ index, mesh.HasElement index → mesh.NamesPoints index) ↔
      (extents.map (· + 1)).toList.prod ≤ mesh.pointCount := by
  have fitsWord : (extents.map (· + 1)).FitsWord := by
    refine ⟨?_, fits⟩
    rw [Axes.toList_map, List.forall_mem_map]
    intro extent isExtent
    have isPositive := positive extent isExtent
    omega
  obtain ⟨counts, areCounts, areCells, _, cellsCounted, inWord⟩ := fitsWord.exists_counts
  have same : (extents.map (· + 1)).map (· - 1) = extents := by
    rw [Axes.map_map]
    simp only [add_sub_cancel_right]
    exact extents.map_self
  rw [same] at areCells cellsCounted
  have hasCells : mesh.HasCells counts := by
    refine hasCells_of_pointsAt ?_ ?_ inWord
    · simp only [elementCount, isStructured, cellsCounted]
    · intro index
      simp only [pointsAt, isStructured, areCells]
  have someCells : ∀ count ∈ counts.cells.toList, 1 ≤ count := by
    intro count isCount
    have isExtent : (count : Int) ∈ extents.toList := by
      rw [areCells, Axes.wholes, Axes.toList_map]
      exact List.mem_map_of_mem isCount
    exact_mod_cast positive _ isExtent
  rw [areCounts, Axes.prod_wholes]
  exact ⟨hasCells.total_le someCells, fun enough _ => hasCells.namesPoints enough⟩

end Grids

end Mesh

end FieldSurvey
