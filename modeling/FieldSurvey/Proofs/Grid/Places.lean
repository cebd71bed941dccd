import Mathlib.Tactic.Ring
import FieldSurvey.Mesh.Location
import FieldSurvey.Proofs.Outcome
import FieldSurvey.Proofs.Rows

/-!
Places of a grid and their numbers. Counted with the first axis fastest, the places have the numbers
below their count, and the logical index of a number is the place again. The corners of a cell are
places of the grid of points, which has one more along each axis.
-/

namespace FieldSurvey

namespace Axes

section Members

variable {β : Type} (axes : Axes β)

theorem x_mem : axes.x ∈ axes.toList := List.mem_cons_self

theorem y_mem : axes.y ∈ axes.toList := List.mem_cons_of_mem _ List.mem_cons_self

variable {axes} in
theorem mem_of_third {axis : β} (isThird : axis ∈ axes.z) : axis ∈ axes.toList := by
  simp [toList, Option.mem_def.mp isThird]

end Members

/-- How many layers a grid has; a grid in the plane has one. -/
def depth (extents : Axes Nat) : Nat := extents.z.getD 1

def total (extents : Axes Nat) : Nat := extents.x * extents.y * extents.depth

def wholes (extents : Axes Nat) : Axes Int := extents.map fun (extent : Nat) => (extent : Int)

theorem wholes_injective : Function.Injective wholes := by
  rintro ⟨width, height, layers⟩ ⟨otherWidth, otherHeight, otherLayers⟩ same
  obtain ⟨alongX, alongY, alongZ⟩ := Axes.mk.inj same
  rw [Axes.mk.injEq]
  exact ⟨Int.ofNat.inj alongX, Int.ofNat.inj alongY,
    Option.map_injective (fun _ _ => Int.ofNat.inj) alongZ⟩

structure Holds (extents : Axes Nat) (place : Position Nat) : Prop where
  x : place.x < extents.x
  y : place.y < extents.y
  z : place.z < extents.depth

/-- The number of a place, with the first axis counted fastest. -/
def number (extents : Axes Nat) (place : Position Nat) : Nat :=
  (place.z * extents.y + place.y) * extents.x + place.x

def row (extents : Axes Nat) (y z : Nat) : List (Position Nat) :=
  (List.range extents.x).map fun x => ⟨x, y, z⟩

def layer (extents : Axes Nat) (z : Nat) : List (Position Nat) :=
  (List.range extents.y).flatMap fun y => extents.row y z

/-- All places of a grid in the order of their numbers. -/
def places (extents : Axes Nat) : List (Position Nat) :=
  (List.range extents.depth).flatMap extents.layer

variable {extents : Axes Nat} {place : Position Nat}

theorem length_row (extents : Axes Nat) (y z : Nat) : (extents.row y z).length = extents.x := by
  rw [row, List.length_map, List.length_range]

theorem length_layer (extents : Axes Nat) (z : Nat) :
    (extents.layer z).length = extents.x * extents.y := by
  rw [layer, length_flatMap_of_forall fun y _ => extents.length_row y z, List.length_range]

theorem length_places (extents : Axes Nat) : extents.places.length = extents.total := by
  rw [places, length_flatMap_of_forall fun z _ => extents.length_layer z, List.length_range, total]

theorem Holds.getElem?_places (holds : extents.Holds place) :
    extents.places[extents.number place]? = some place := by
  have inLayer : place.y * extents.x + place.x < extents.x * extents.y := by
    have rowsBefore := Nat.mul_le_mul_left extents.x holds.y
    rw [Nat.mul_succ, Nat.mul_comm] at rowsBefore
    have inRow := holds.x
    omega
  have split : extents.number place =
      place.z * (extents.x * extents.y) + (place.y * extents.x + place.x) := by
    rw [number, Nat.add_mul, Nat.mul_assoc, Nat.mul_comm extents.y, Nat.add_assoc]
  rw [places, split, getElem?_flatMap (fun z _ => extents.length_layer z)
      (List.getElem?_range holds.z) inLayer, layer,
    getElem?_flatMap (fun y _ => extents.length_row y place.z) (List.getElem?_range holds.y)
      holds.x, row, List.getElem?_map, List.getElem?_range holds.x]
  rfl

theorem Holds.number_lt (holds : extents.Holds place) : extents.number place < extents.total := by
  rw [← length_places]
  exact (List.getElem?_eq_some_iff.mp holds.getElem?_places).1

theorem Holds.number_inRange (holds : extents.Holds place) :
    0 ≤ (extents.number place : Int) ∧ (extents.number place : Int) < extents.total :=
  ⟨Int.natCast_nonneg _, Int.ofNat_lt.mpr holds.number_lt⟩

/-- Every number below the total is that of a place. -/
theorem exists_place {index : Nat} (inRange : index < extents.total) :
    ∃ place, extents.Holds place ∧ extents.number place = index := by
  have somewhere : 0 < extents.x ∧ 0 < extents.y := by
    unfold total at inRange
    constructor <;> apply Nat.pos_of_ne_zero <;> intro isZero <;> simp [isZero] at inRange
  refine ⟨⟨index % extents.x, index / extents.x % extents.y, index / extents.x / extents.y⟩,
    ⟨Nat.mod_lt _ somewhere.1, Nat.mod_lt _ somewhere.2, ?_⟩, ?_⟩
  · rw [Nat.div_div_eq_div_mul]
    exact Nat.div_lt_of_lt_mul inRange
  · unfold number
    rw [Nat.div_add_mod', Nat.div_add_mod']

theorem Holds.number_mod (holds : extents.Holds place) :
    extents.number place % extents.x = place.x := by
  rw [number, Nat.mul_add_mod', Nat.mod_eq_of_lt holds.x]

/-- The rows before a place, in its layer and in those below. -/
theorem Holds.number_div (holds : extents.Holds place) :
    extents.number place / extents.x = place.z * extents.y + place.y := by
  rw [number, Nat.mul_comm, Nat.mul_add_div (Nat.zero_lt_of_lt holds.x),
    Nat.div_eq_of_lt holds.x, Nat.add_zero]

theorem Holds.rows_mod (holds : extents.Holds place) :
    (place.z * extents.y + place.y) % extents.y = place.y := by
  rw [Nat.mul_add_mod', Nat.mod_eq_of_lt holds.y]

theorem Holds.rows_div (holds : extents.Holds place) :
    (place.z * extents.y + place.y) / extents.y = place.z := by
  rw [Nat.mul_comm, Nat.mul_add_div (Nat.zero_lt_of_lt holds.y), Nat.div_eq_of_lt holds.y,
    Nat.add_zero]

theorem Holds.layer_eq_zero (holds : extents.Holds place)
    (inPlane : extents.isThreeDimensional = false) : place.z = 0 := by
  have noLayers : extents.z = none := Option.isNone_iff_eq_none.mp
    (Option.isSome_eq_false_iff.mp inPlane)
  have below := holds.z
  rw [depth, noLayers] at below
  exact Nat.lt_one_iff.mp below

end Axes

section Indices

open Axes

variable {extents : Axes Nat} {place : Position Nat}

theorem floorRemainder_of_pos (dividend : Int) {divisor : Int} (isDivisor : 0 < divisor) :
    floorRemainder dividend divisor = .ok (dividend % divisor) := by
  rw [floorRemainder, if_neg (Int.ne_of_gt isDivisor),
    Int.fmod_eq_emod_of_nonneg dividend (Int.le_of_lt isDivisor)]

theorem floorDivide_of_pos (dividend : Int) {divisor : Int} (isDivisor : 0 < divisor) :
    floorDivide dividend divisor = .ok (dividend / divisor) := by
  rw [floorDivide, if_neg (Int.ne_of_gt isDivisor),
    Int.fdiv_eq_ediv_of_nonneg dividend (Int.le_of_lt isDivisor)]

theorem ofFlat_plane {width : Nat} (height : Nat) (someWidth : 0 < width) (index : Int) :
    GridIndex.ofFlat index (wholes ⟨width, height, none⟩).toList =
      .ok ⟨index % width, index / width, 0⟩ := by
  have isDivisor : (0 : Int) < width := Int.natCast_pos.mpr someWidth
  have inPlane : GridIndex.ofFlat index (wholes ⟨width, height, none⟩).toList = (do
      let i ← floorRemainder index width
      let j ← floorDivide index width
      return ⟨i, j, 0⟩) := rfl
  rw [inPlane, floorRemainder_of_pos index isDivisor, floorDivide_of_pos index isDivisor]
  rfl

theorem ofFlat_space {width height : Nat} (layers : Nat) (someWidth : 0 < width)
    (someHeight : 0 < height) (index : Int) :
    GridIndex.ofFlat index (wholes ⟨width, height, some layers⟩).toList =
      .ok ⟨index % width, index / width % height, index / (width * height)⟩ := by
  have alongX : (0 : Int) < width := Int.natCast_pos.mpr someWidth
  have alongY : (0 : Int) < height := Int.natCast_pos.mpr someHeight
  have inSpace : GridIndex.ofFlat index (wholes ⟨width, height, some layers⟩).toList = (do
      let i ← floorRemainder index width
      let row ← floorDivide index width
      let j ← floorRemainder row height
      let k ← floorDivide index (width * height)
      return ⟨i, j, k⟩) := rfl
  rw [inSpace, floorRemainder_of_pos index alongX, floorDivide_of_pos index alongX, ok_bind,
    ok_bind, floorRemainder_of_pos _ alongY, floorDivide_of_pos index (Int.mul_pos alongX alongY)]
  rfl

/-- The logical index of a place's number is the place. -/
theorem ofFlat_number (holds : extents.Holds place) :
    GridIndex.ofFlat (extents.number place) extents.wholes.toList =
      .ok ⟨place.x, place.y, place.z⟩ := by
  have someWidth : 0 < extents.x := Nat.zero_lt_of_lt holds.x
  have someHeight : 0 < extents.y := Nat.zero_lt_of_lt holds.y
  have column := holds.number_mod
  have rows := holds.number_div
  have row := holds.rows_mod
  have layer := holds.rows_div
  have inBottom := holds.layer_eq_zero
  obtain ⟨width, height, layers⟩ := extents
  cases layers with
  | none =>
      rw [ofFlat_plane height someWidth, ← Int.natCast_mod, ← Int.natCast_ediv, column, rows,
        inBottom rfl, Nat.zero_mul, Nat.zero_add]
      rfl
  | some count =>
      rw [ofFlat_space count someWidth someHeight, ← Int.natCast_mul, ← Int.natCast_mod,
        ← Int.natCast_ediv, ← Int.natCast_mod, ← Int.natCast_ediv, ← Nat.div_div_eq_div_mul, column,
        rows, row, layer]

end Indices

section Corners

namespace Axes

/-- The extents of the grid of cells between the points of a grid. -/
def cells (extents : Axes Nat) : Axes Nat := extents.map (· - 1)

/-- The corners of a cell in the layer of its place. -/
def around (place : Position Nat) : List (Position Nat) :=
  [place, ⟨place.x + 1, place.y, place.z⟩, ⟨place.x + 1, place.y + 1, place.z⟩,
    ⟨place.x, place.y + 1, place.z⟩]

/-- The corners of a cell, around the lower layer and in space also around the upper one. -/
def corners (extents : Axes Nat) (place : Position Nat) : List (Position Nat) :=
  if extents.isThreeDimensional then around place ++ around ⟨place.x, place.y, place.z + 1⟩
  else around place

variable {extents : Axes Nat} {place corner : Position Nat}

theorem cells_depth_lt (inSpace : extents.isThreeDimensional = true)
    (isCell : place.z < extents.cells.depth) : place.z + 1 < extents.depth := by
  obtain ⟨width, height, layers⟩ := extents
  cases layers with
  | none => cases inSpace
  | some count =>
      have below : place.z < count - 1 := isCell
      exact Nat.add_lt_of_lt_sub below

theorem cells_depth_le (extents : Axes Nat) : extents.cells.depth ≤ extents.depth := by
  obtain ⟨width, height, layers⟩ := extents
  cases layers with
  | none => exact Nat.le_refl 1
  | some count => exact Nat.sub_le count 1

def cornerCount (extents : Axes Nat) : Nat := if extents.isThreeDimensional then 8 else 4

theorem length_corners (extents : Axes Nat) (place : Position Nat) :
    (extents.corners place).length = extents.cornerCount := by
  unfold corners cornerCount
  split <;> rfl

/-- A corner of a cell lies on a line before or after it along each axis. -/
theorem mem_corners (isCorner : corner ∈ extents.corners place) :
    (corner.x = place.x ∨ corner.x = place.x + 1) ∧
      (corner.y = place.y ∨ corner.y = place.y + 1) ∧
      (corner.z = place.z ∨ (extents.isThreeDimensional = true ∧ corner.z = place.z + 1)) := by
  have inLayer {z : Nat} (isAround : corner ∈ around ⟨place.x, place.y, z⟩) :
      (corner.x = place.x ∨ corner.x = place.x + 1) ∧
        (corner.y = place.y ∨ corner.y = place.y + 1) ∧ corner.z = z := by
    simp only [around, List.mem_cons, List.not_mem_nil, or_false] at isAround
    rcases isAround with rfl | rfl | rfl | rfl <;> simp
  unfold corners at isCorner
  split at isCorner
  · rename_i inSpace
    rcases List.mem_append.mp isCorner with isLower | isUpper
    · obtain ⟨alongX, alongY, alongZ⟩ := inLayer isLower
      exact ⟨alongX, alongY, .inl alongZ⟩
    · obtain ⟨alongX, alongY, alongZ⟩ := inLayer isUpper
      exact ⟨alongX, alongY, .inr ⟨inSpace, alongZ⟩⟩
  · obtain ⟨alongX, alongY, alongZ⟩ := inLayer isCorner
    exact ⟨alongX, alongY, .inl alongZ⟩

/-- The corners of a cell are places of the grid of points. -/
theorem Holds.corners (isCell : extents.cells.Holds place)
    (isCorner : corner ∈ extents.corners place) : extents.Holds corner := by
  have nextX : place.x + 1 < extents.x := Nat.add_lt_of_lt_sub isCell.x
  have nextY : place.y + 1 < extents.y := Nat.add_lt_of_lt_sub isCell.y
  obtain ⟨alongX, alongY, alongZ⟩ := mem_corners isCorner
  refine ⟨by omega, by omega, ?_⟩
  rcases alongZ with same | ⟨inSpace, next⟩
  · exact same ▸ Nat.lt_of_lt_of_le isCell.z extents.cells_depth_le
  · exact next ▸ cells_depth_lt inSpace isCell.z

/-- A step along an axis adds the number of points that lie before it. -/
theorem numbers_around (extents : Axes Nat) (place : Position Nat) :
    (around place).map (fun corner => (extents.number corner : Int)) =
      [(extents.number place : Int), extents.number place + 1,
        extents.number place + 1 + extents.x, extents.number place + extents.x] := by
  simp only [around, number, List.map_cons, List.map_nil, List.cons.injEq, and_true]
  push_cast
  exact ⟨trivial, by ring, by ring, by ring⟩

theorem numbers_above (extents : Axes Nat) (place : Position Nat) :
    ((around place).map fun corner => (extents.number corner : Int)).map
        (· + (extents.x : Int) * extents.y) =
      (around ⟨place.x, place.y, place.z + 1⟩).map
        fun corner => (extents.number corner : Int) := by
  simp only [around, number, List.map_cons, List.map_nil, List.cons.injEq, and_true]
  push_cast
  exact ⟨by ring, by ring, by ring, by ring⟩

end Axes

open Axes

variable {extents : Axes Nat} {place : Position Nat}

/-- The corner points of the cell with the number of a place are the points at its corners. -/
theorem cornersOf_number (isCell : extents.cells.Holds place) :
    cornersOf extents.cells.wholes.toList (extents.cells.number place) =
      .ok ((extents.corners place).map fun corner => (extents.number corner : Int)) := by
  have width : ((extents.x - 1 : Nat) : Int) + 1 = extents.x := by
    have isPoint : place.x < extents.x - 1 := isCell.x
    omega
  have height : ((extents.y - 1 : Nat) : Int) + 1 = extents.y := by
    have isPoint : place.y < extents.y - 1 := isCell.y
    omega
  have first : extentOf extents.cells.wholes.toList 0 = .ok ((extents.x - 1 : Nat) : Int) := rfl
  have second : extentOf extents.cells.wholes.toList 1 = .ok ((extents.y - 1 : Nat) : Int) := rfl
  have inSpace :
      (extents.cells.wholes.toList.length = 3) = (extents.isThreeDimensional = true) := by
    obtain ⟨_, _, layers⟩ := extents
    cases layers <;> simp [cells, wholes, Axes.map, Axes.toList, isThreeDimensional]
  have lowest : ((place.z : Int) * extents.y + place.y) * extents.x + place.x =
      extents.number place := by
    simp [number]
  simp only [cornersOf, first, second, ofFlat_number isCell, ok_bind, width, height, lowest,
    ← numbers_around, numbers_above, inSpace, corners]
  split
  · rw [List.map_append]
    rfl
  · rfl

end Corners

section Words

theorem int64_keeps {number : Nat} (fits : number < 2 ^ 63) :
    (BitVec.ofInt 64 number).toInt = number := by
  apply BitVec.toInt_ofInt_eq_self <;> omega

theorem int64_holds {number : Nat} (fits : number < 2 ^ 63) :
    IntType.int64.holds number = true := by
  rw [IntType.holds, beq_iff_eq]
  exact int64_keeps fits

section Products

variable {extents : Axes Nat} (each : ∀ extent ∈ extents.toList, extent < 2 ^ 63)

include each

theorem extentProduct_eq :
    extentProduct extents.wholes = (BitVec.ofInt 64 extents.total).toInt := by
  have areWords : ∀ extent ∈ extents.toList,
      (Value.whole (extent : Int)).scalarType = .int .int64 := by
    intro extent isExtent
    rw [Value.scalarType, if_pos (int64_holds (each extent isExtent))]
  have wordTypes : extents.wholes.toList.map (fun extent => (Value.whole extent).scalarType) =
      extents.toList.map fun _ => .int .int64 := by
    rw [Axes.wholes, Axes.toList_map, List.map_map]
    exact List.map_congr_left areWords
  have isWord : extentType extents.wholes.toList = .int .int64 := by
    rw [extentType, wordTypes]
    obtain ⟨_, _, layers⟩ := extents
    cases layers <;> rfl
  have product : extents.wholes.toList.foldl (· * ·) 1 = (extents.total : Int) := by
    obtain ⟨_, _, layers⟩ := extents
    cases layers <;> simp [Axes.wholes, Axes.map, Axes.toList, Axes.total, Axes.depth]
  unfold extentProduct
  simp only [isWord, product]
  rfl

/-- A product that does not fit a word is counted too low. -/
theorem extentProduct_le : extentProduct extents.wholes ≤ extents.total := by
  have notAbove : (extents.total : Int) % (2 ^ 64 : Nat) ≤ extents.total :=
    Int.ofNat_le.mpr (Nat.mod_le extents.total (2 ^ 64))
  rw [extentProduct_eq each, BitVec.toInt_ofInt, Int.bmod_def]
  split <;> omega

/-- As long as words hold them, extents have their exact product. -/
theorem extentProduct_wholes (fits : extents.total < 2 ^ 63) :
    extentProduct extents.wholes = extents.total := by
  rw [extentProduct_eq each, int64_keeps fits]

theorem Axes.cells_bound : ∀ extent ∈ extents.cells.toList, extent < 2 ^ 63 := by
  rw [cells, toList_map]
  intro extent isExtent
  obtain ⟨points, isPoints, rfl⟩ := List.mem_map.mp isExtent
  exact Nat.lt_of_le_of_lt (Nat.sub_le points 1) (each points isPoints)

end Products

theorem Axes.cells_total_le (extents : Axes Nat) : extents.cells.total ≤ extents.total :=
  Nat.mul_le_mul (Nat.mul_le_mul (Nat.sub_le _ 1) (Nat.sub_le _ 1)) extents.cells_depth_le

theorem Axes.cells_wholes {extents : Axes Nat} (positive : ∀ extent ∈ extents.toList, 1 ≤ extent) :
    extents.wholes.map (· - 1) = extents.cells.wholes := by
  obtain ⟨width, height, layers⟩ := extents
  have someWidth : 1 ≤ width := positive width (by simp [toList])
  have someHeight : 1 ≤ height := positive height (by simp [toList])
  cases layers with
  | none => simp [wholes, cells, map, someWidth, someHeight]
  | some count =>
      have someLayer : 1 ≤ count := positive count (by simp [toList])
      simp [wholes, cells, map, someWidth, someHeight, someLayer]

theorem storedCorners_singleton {number : Int} (natural : 0 ≤ number) (fits : number < 2 ^ 63) :
    storedCorners [number] = .ok [number] := by
  obtain ⟨count, rfl⟩ := Int.eq_ofNat_of_zero_le natural
  apply if_pos
  rw [List.all_cons, List.all_nil, Bool.and_true]
  exact int64_holds (by omega)

theorem storedCorners_numbers {extents : Axes Nat} {corners : List (Position Nat)}
    (inGrid : ∀ corner ∈ corners, extents.Holds corner) (fits : extents.total < 2 ^ 63) :
    storedCorners (corners.map fun corner => (extents.number corner : Int)) =
      .ok (corners.map fun corner => (extents.number corner : Int)) := by
  apply if_pos
  rw [List.all_map, List.all_eq_true]
  intro corner isCorner
  exact int64_holds (Nat.lt_trans (inGrid corner isCorner).number_lt fits)

end Words

end FieldSurvey
