import Mathlib.Data.List.Nodup
import FieldSurvey.Proofs.Grid.Places

/-!
The lists of points that the cells of a grid name. A cell lists the flat indices of its corners; they
differ from each other, other cells list others, and together the cells list every point. A list is
kept in words, so a cell whose corners they do not hold is refused.
-/

namespace FieldSurvey

namespace Axes

/-- The extents of the grid of points around the cells of a grid. -/
def points (cells : Axes Nat) : Axes Nat := cells.map (· + 1)

@[simp] theorem cells_points (cells : Axes Nat) : cells.points.cells = cells := by
  rw [points, Axes.cells, map_map]
  obtain ⟨_, _, layers⟩ := cells
  cases layers <;> rfl

@[simp] theorem isThreeDimensional_points (cells : Axes Nat) :
    cells.points.isThreeDimensional = cells.isThreeDimensional :=
  isThreeDimensional_map _ cells

variable {extents cells : Axes Nat} {place other corner point : Position Nat}

theorem Holds.number_injective (holds : extents.Holds place) (otherHolds : extents.Holds other)
    (same : extents.number place = extents.number other) : place = other := by
  have stands := holds.getElem?_places
  rw [same, otherHolds.getElem?_places] at stands
  exact (Option.some.inj stands).symm

section Members

theorem mem_around_iff :
    corner ∈ around place ↔
      (corner.x = place.x ∨ corner.x = place.x + 1) ∧
        (corner.y = place.y ∨ corner.y = place.y + 1) ∧ corner.z = place.z := by
  obtain ⟨x, y, z⟩ := corner
  obtain ⟨i, j, k⟩ := place
  simp only [around, List.mem_cons, List.not_mem_nil, or_false, Position.mk.injEq]
  omega

theorem mem_corners_iff :
    corner ∈ extents.corners place ↔
      (corner.x = place.x ∨ corner.x = place.x + 1) ∧
        (corner.y = place.y ∨ corner.y = place.y + 1) ∧
        (corner.z = place.z ∨ (extents.isThreeDimensional = true ∧ corner.z = place.z + 1)) := by
  refine ⟨mem_corners, ?_⟩
  rintro ⟨alongX, alongY, alongZ⟩
  unfold corners
  rcases alongZ with isLower | ⟨inSpace, isUpper⟩
  · have isAround : corner ∈ around place := mem_around_iff.mpr ⟨alongX, alongY, isLower⟩
    split
    · exact List.mem_append_left _ isAround
    · exact isAround
  · rw [if_pos inSpace]
    exact List.mem_append_right _ (mem_around_iff.mpr ⟨alongX, alongY, isUpper⟩)

theorem nodup_around (place : Position Nat) : (around place).Nodup := by
  obtain ⟨x, y, z⟩ := place
  simp [around]

theorem nodup_corners (extents : Axes Nat) (place : Position Nat) :
    (extents.corners place).Nodup := by
  unfold corners
  split
  · refine List.nodup_append.mpr ⟨nodup_around _, nodup_around _, ?_⟩
    rintro corner isLower _ isUpper rfl
    have below : corner.z = place.z := (mem_around_iff.mp isLower).2.2
    have above : corner.z = place.z + 1 := (mem_around_iff.mp isUpper).2.2
    omega
  · exact nodup_around place

theorem head?_corners (extents : Axes Nat) (place : Position Nat) :
    (extents.corners place).head? = some place := by
  unfold corners
  split <;> rfl

end Members

/-- Along an axis with some cells every point begins or ends one of them. -/
theorem exists_cell_beside {count step : Nat} (someCells : 0 < count) (isPoint : step < count + 1) :
    ∃ cell < count, step = cell ∨ step = cell + 1 := by
  rcases Nat.lt_succ_iff_lt_or_eq.mp isPoint with isBefore | isLast
  · exact ⟨step, isBefore, .inl rfl⟩
  · exact ⟨count - 1, by omega, .inr (by omega)⟩

/-- Every point is a corner of some cell. -/
theorem exists_cell_at (positive : ∀ count ∈ cells.toList, 0 < count)
    (isPoint : cells.points.Holds point) :
    ∃ place, cells.Holds place ∧ point ∈ cells.points.corners place := by
  obtain ⟨x, inWidth, alongX⟩ := exists_cell_beside (positive _ cells.x_mem) isPoint.x
  obtain ⟨y, inHeight, alongY⟩ := exists_cell_beside (positive _ cells.y_mem) isPoint.y
  have alongZ : ∃ z < cells.depth,
      point.z = z ∨ (cells.points.isThreeDimensional = true ∧ point.z = z + 1) := by
    rw [isThreeDimensional_points]
    cases inSpace : cells.isThreeDimensional with
    | true =>
        obtain ⟨count, isCount⟩ := Option.isSome_iff_exists.mp inSpace
        have isDepth : cells.depth = count := by rw [depth, isCount, Option.getD_some]
        have pointDepth : cells.points.depth = count + 1 := by
          rw [depth, points, map, isCount, Option.map_some, Option.getD_some]
        have isLayer := isPoint.z
        rw [pointDepth] at isLayer
        obtain ⟨z, inDepth, alongZ⟩ :=
          exists_cell_beside (positive _ (mem_of_third isCount)) isLayer
        exact ⟨z, isDepth ▸ inDepth, alongZ.imp_right fun next => ⟨rfl, next⟩⟩
    | false =>
        have inBottom := isPoint.layer_eq_zero ((isThreeDimensional_points cells).trans inSpace)
        refine ⟨0, ?_, .inl inBottom⟩
        rw [depth, Option.isNone_iff_eq_none.mp (Option.isSome_eq_false_iff.mp inSpace)]
        exact Nat.one_pos
  obtain ⟨z, inDepth, alongZ⟩ := alongZ
  exact ⟨⟨x, y, z⟩, ⟨inWidth, inHeight, inDepth⟩, mem_corners_iff.mpr ⟨alongX, alongY, alongZ⟩⟩

end Axes

section Indices

open Axes

variable {extents : Axes Nat} {place : Position Nat}

/-- The flat index of a place is its number. -/
theorem flatIndex_number (holds : extents.Holds place) :
    flatIndex [place.x, place.y, place.z] extents.wholes.toList = .ok (extents.number place) := by
  have inPlane := holds.layer_eq_zero
  obtain ⟨width, height, layers⟩ := extents
  cases layers with
  | none =>
      have isNumber : (place.x : Int) + place.y * width =
          (number ⟨width, height, none⟩ place : Nat) := by
        rw [number, inPlane rfl]
        push_cast
        ring
      exact congrArg Except.ok isNumber
  | some count =>
      have isNumber : (place.x : Int) + place.y * width + place.z * width * height =
          (number ⟨width, height, some count⟩ place : Nat) := by
        rw [number]
        push_cast
        ring
      exact congrArg Except.ok isNumber

theorem int64_holds_iff {number : Nat} : IntType.int64.holds number = true ↔ number < 2 ^ 63 := by
  refine ⟨fun isHeld => ?_, int64_holds⟩
  have isWord : (BitVec.ofInt 64 (number : Int)).toInt = number := beq_iff_eq.mp isHeld
  have inWord := (BitVec.ofInt 64 (number : Int)).toInt_lt
  omega

/-- Corners are kept exactly if words hold all their numbers. -/
theorem storedCorners_eq (corners : List Nat) :
    storedCorners (corners.map Int.ofNat) =
      if ∀ corner ∈ corners, corner < 2 ^ 63 then .ok (corners.map Int.ofNat)
      else .error .overflow := by
  have allHeld : (corners.map Int.ofNat).all IntType.int64.holds = true ↔
      ∀ corner ∈ corners, corner < 2 ^ 63 := by
    rw [List.all_map, List.all_eq_true]
    exact forall₂_congr fun _ _ => int64_holds_iff
  exact if_congr allHeld rfl rfl

end Indices

section Cells

open Axes

variable {cells : Axes Nat}

/-- The numbers of a cell's corners among the points. -/
def cornerNumbers (cells : Axes Nat) (place : Position Nat) : List Nat :=
  (cells.points.corners place).map cells.points.number

variable {place other : Position Nat}

theorem holds_corners (isCell : cells.Holds place) {corner : Position Nat}
    (isCorner : corner ∈ cells.points.corners place) : cells.points.Holds corner := by
  rw [← cells_points cells] at isCell
  exact isCell.corners isCorner

theorem mapM_flatIndex_corners (isCell : cells.Holds place) :
    ((cells.points.corners place).mapM fun corner =>
      flatIndex [corner.x, corner.y, corner.z] cells.points.wholes.toList) =
        .ok ((cornerNumbers cells place).map Int.ofNat) := by
  rw [cornerNumbers, List.map_map]
  exact mapM_of_forall_ok fun corner isCorner => flatIndex_number (holds_corners isCell isCorner)

theorem cornersOf_cell (isCell : cells.Holds place) :
    cornersOf cells.wholes.toList (cells.number place) =
      .ok ((cornerNumbers cells place).map Int.ofNat) := by
  have isListed := cornersOf_number ((cells_points cells).symm ▸ isCell)
  rw [cells_points] at isListed
  rw [isListed, cornerNumbers, List.map_map]
  rfl

theorem nodup_cornerNumbers (isCell : cells.Holds place) : (cornerNumbers cells place).Nodup := by
  apply List.Nodup.map_on _ (nodup_corners _ place)
  intro first isFirst second isSecond same
  exact (holds_corners isCell isFirst).number_injective (holds_corners isCell isSecond) same

theorem cornerNumbers_lt (isCell : cells.Holds place) :
    ∀ number ∈ cornerNumbers cells place, number < cells.points.total := by
  rw [cornerNumbers, List.forall_mem_map]
  exact fun corner isCorner => (holds_corners isCell isCorner).number_lt

/-- A cell is told by its first corner. -/
theorem cornerNumbers_injective (isCell : cells.Holds place) (otherIsCell : cells.Holds other)
    (same : cornerNumbers cells place = cornerNumbers cells other) : place = other := by
  have firstOf (cell : Position Nat) :
      (cornerNumbers cells cell).head? = some (cells.points.number cell) := by
    rw [cornerNumbers, List.head?_map, head?_corners, Option.map_some]
  have sameFirst := firstOf place
  rw [same, firstOf other] at sameFirst
  have isCorner (cell : Position Nat) : cell ∈ cells.points.corners cell :=
    List.mem_of_head? (head?_corners _ cell)
  exact (holds_corners isCell (isCorner place)).number_injective
    (holds_corners otherIsCell (isCorner other)) (Option.some.inj sameFirst).symm

theorem exists_cornerNumbers (positive : ∀ count ∈ cells.toList, 0 < count) {point : Nat}
    (isPoint : point < cells.points.total) :
    ∃ place, cells.Holds place ∧ point ∈ cornerNumbers cells place := by
  obtain ⟨corner, isPlace, rfl⟩ := Axes.exists_place isPoint
  obtain ⟨place, isCell, isCorner⟩ := exists_cell_at positive isPlace
  exact ⟨place, isCell, List.mem_map_of_mem isCorner⟩

/-- What the cells of a grid list. Each lists the flat indices of its corners, counted on the grid of
points, provided that words hold them; if they do not, it is refused. The indices are those of
different points, no two cells list the same ones, and every point is listed. -/
theorem cells_list_their_corners (positive : ∀ count ∈ cells.toList, 0 < count) :
    ∃ listed : Nat → List Nat,
      (∀ index < cells.total, ∃ place : Position Nat,
        GridIndex.ofFlat index cells.wholes.toList = .ok ⟨place.x, place.y, place.z⟩ ∧
        ((cells.points.corners place).mapM fun corner =>
          flatIndex [corner.x, corner.y, corner.z] cells.points.wholes.toList) =
            .ok ((listed index).map Int.ofNat) ∧
        (cornersOf cells.wholes.toList index >>= storedCorners) =
          (if ∀ corner ∈ listed index, corner < 2 ^ 63 then .ok ((listed index).map Int.ofNat)
            else .error .overflow) ∧
        (listed index).Nodup ∧ ∀ corner ∈ listed index, corner < cells.points.total) ∧
      (∀ index < cells.total, ∀ other < cells.total,
        listed index = listed other → index = other) ∧
      ∀ point < cells.points.total, ∃ index < cells.total, point ∈ listed index := by
  have : Nonempty (Position Nat) := ⟨⟨0, 0, 0⟩⟩
  choose! placeOf areCells areNumbered using
    fun index (inRange : index < cells.total) => Axes.exists_place inRange
  refine ⟨fun index => cornerNumbers cells (placeOf index), ?_, ?_, ?_⟩
  · intro index inRange
    have isCell := areCells index inRange
    have isSplit := ofFlat_number isCell
    have isListed := cornersOf_cell isCell
    rw [areNumbered index inRange] at isSplit isListed
    refine ⟨placeOf index, isSplit, mapM_flatIndex_corners isCell, ?_, nodup_cornerNumbers isCell,
      cornerNumbers_lt isCell⟩
    rw [isListed, ok_bind, storedCorners_eq]
  · intro index inRange other otherInRange same
    have samePlace :=
      cornerNumbers_injective (areCells index inRange) (areCells other otherInRange) same
    rw [← areNumbered index inRange, samePlace, areNumbered other otherInRange]
  · intro point isPoint
    obtain ⟨place, isCell, isListed⟩ := exists_cornerNumbers positive isPoint
    have inRange := isCell.number_lt
    have samePlace : placeOf (cells.number place) = place :=
      (areCells _ inRange).number_injective isCell (areNumbered _ inRange)
    refine ⟨cells.number place, inRange, ?_⟩
    dsimp only
    rwa [samePlace]

/-- Three layers of two cells each. -/
def stackedCells : Axes Nat := ⟨2, 1, some 3⟩

theorem stackedCells_list_their_corners :
    (∀ count ∈ stackedCells.toList, 0 < count) ∧
      ∃ listed : Nat → List Nat,
        (cornersOf [2, 1, 3] 5 >>= storedCorners) = .ok ((listed 5).map Int.ofNat) ∧
          (listed 5).Nodup ∧ ∃ index < 6, 23 ∈ listed index := by
  have positive : ∀ count ∈ stackedCells.toList, 0 < count := by decide
  obtain ⟨listed, ofCells, _, ofPoints⟩ := cells_list_their_corners positive
  obtain ⟨place, _, _, outcome, distinct, inGrid⟩ := ofCells 5 (by decide)
  have inWords : ∀ corner ∈ listed 5, corner < 2 ^ 63 := fun corner isCorner =>
    (inGrid corner isCorner).trans (by decide)
  rw [if_pos inWords] at outcome
  exact ⟨positive, listed, outcome, distinct, ofPoints 23 (by decide)⟩

def singlePoint : Coordset := .explicit ⟨.int .int64 [0], .int .int64 [0], none⟩

def vastRow : Topology := ⟨"coords", .structured ⟨2 ^ 62, 1, none⟩⟩

/-- Words do not hold the corners of the last cell of so long a row, though they hold its number and
that of all cells. -/
theorem vast_row_is_refused :
    vastRow.elementCount singlePoint = .ok (2 ^ 62) ∧
      GridIndex.ofFlat (2 ^ 62 - 1) [2 ^ 62, 1] = .ok ⟨2 ^ 62 - 1, 0, 0⟩ ∧
      flatIndex [2 ^ 62 - 1, 0, 0] [2 ^ 62 + 1, 2] = .ok 4611686018427387903 ∧
      flatIndex [2 ^ 62, 0, 0] [2 ^ 62 + 1, 2] = .ok 4611686018427387904 ∧
      flatIndex [2 ^ 62, 1, 0] [2 ^ 62 + 1, 2] = .ok 9223372036854775809 ∧
      flatIndex [2 ^ 62 - 1, 1, 0] [2 ^ 62 + 1, 2] = .ok 9223372036854775808 ∧
      (cornersOf [2 ^ 62, 1] (2 ^ 62 - 1) >>= storedCorners) = .error .overflow ∧
      vastRow.elementPoints singlePoint (.ok (2 ^ 62 - 1)) = .error .overflow :=
  ⟨rfl, rfl, rfl, rfl, rfl, rfl, rfl, rfl⟩

end Cells

end FieldSurvey
