import Mathlib.Data.Set.Function
import FieldSurvey.Proofs.Grid.CellCorners

/-!
Flat and logical indices are two forms of one thing. Since division rounds down, every whole number
is the flat index of its logical index, whether it counts a place of the grid or not. Between the
numbers below the count of the places and the places themselves, the two forms are inverse to each
other.
-/

namespace FieldSurvey

namespace GridIndex

/-- The flat indices of the places of a grid. -/
def numbers (extents : Axes Nat) : Set Int :=
  {index | 0 ≤ index ∧ index < extents.wholes.toList.prod}

/-- The logical indices of the places of a grid. A grid in the plane has one layer, so the third
place is 0 there. -/
def box (extents : Axes Nat) : Set GridIndex :=
  {index | (0 ≤ index.i ∧ index.i < extents.x) ∧ (0 ≤ index.j ∧ index.j < extents.y) ∧
    0 ≤ index.k ∧ index.k < extents.depth}

def ofPlace (place : Position Nat) : GridIndex := ⟨place.x, place.y, place.z⟩

variable {extents : Axes Nat}

theorem prod_wholes (extents : Axes Nat) : extents.wholes.toList.prod = extents.total := by
  obtain ⟨width, height, layers⟩ := extents
  cases layers with
  | none => simp [Axes.wholes, Axes.map, Axes.toList, Axes.total, Axes.depth]
  | some count => simp [Axes.wholes, Axes.map, Axes.toList, Axes.total, Axes.depth, Int.mul_assoc]

theorem mem_numbers_iff {index : Int} :
    index ∈ numbers extents ↔ ∃ place, extents.Holds place ∧ extents.number place = index := by
  rw [numbers, prod_wholes]
  constructor
  · rintro ⟨natural, below⟩
    lift index to Nat using natural
    obtain ⟨place, holds, rfl⟩ := Axes.exists_place (Int.ofNat_lt.mp below)
    exact ⟨place, holds, rfl⟩
  · rintro ⟨place, holds, rfl⟩
    exact holds.number_inRange

theorem mem_box_iff {index : GridIndex} :
    index ∈ box extents ↔ ∃ place, extents.Holds place ∧ ofPlace place = index := by
  constructor
  · obtain ⟨i, j, k⟩ := index
    rintro ⟨⟨iFrom, iBelow⟩, ⟨jFrom, jBelow⟩, kFrom, kBelow⟩
    lift i to Nat using iFrom
    lift j to Nat using jFrom
    lift k to Nat using kFrom
    exact ⟨⟨i, j, k⟩, ⟨Int.ofNat_lt.mp iBelow, Int.ofNat_lt.mp jBelow, Int.ofNat_lt.mp kBelow⟩, rfl⟩
  · rintro ⟨place, holds, rfl⟩
    exact ⟨⟨Int.natCast_nonneg _, Int.ofNat_lt.mpr holds.x⟩,
      ⟨Int.natCast_nonneg _, Int.ofNat_lt.mpr holds.y⟩,
      Int.natCast_nonneg _, Int.ofNat_lt.mpr holds.z⟩

/-- The rows before an index are those of whole layers and those before it in its own layer. -/
theorem place_in_layers (index : Int) {width : Int} (height : Int) (isWidth : 0 < width) :
    index % width + index / width % height * width + index / (width * height) * width * height =
      index := by
  have rowsBefore := Int.emod_add_mul_ediv (index / width) height
  calc index % width + index / width % height * width + index / (width * height) * width * height
      = index % width + width * (index / width % height + height * (index / width / height)) := by
        rw [Int.ediv_ediv_of_nonneg (Int.le_of_lt isWidth)]
        ring
    _ = index % width + width * (index / width) := by rw [rowsBefore]
    _ = index := Int.emod_add_mul_ediv index width

/-- Every whole number has a logical index, of which it is the flat index. -/
theorem exists_ofFlat (positive : ∀ extent ∈ extents.toList, 0 < extent) (index : Int) :
    ∃ place, ofFlat index extents.wholes.toList = .ok place ∧
      flatIndex place.toList extents.wholes.toList = .ok index := by
  have someWidth : 0 < extents.x := positive _ extents.x_mem
  have someHeight : 0 < extents.y := positive _ extents.y_mem
  obtain ⟨width, height, layers⟩ := extents
  cases layers with
  | none =>
      refine ⟨_, ofFlat_plane height someWidth index, congrArg Except.ok ?_⟩
      show index % width + index / width * width = index
      rw [Int.mul_comm, Int.emod_add_mul_ediv]
  | some count =>
      exact ⟨_, ofFlat_space count someWidth someHeight index,
        congrArg Except.ok (place_in_layers index height (Int.natCast_pos.mpr someWidth))⟩

theorem exists_flatIndex (extents : Axes Nat) (place : GridIndex) :
    ∃ index, flatIndex place.toList extents.wholes.toList = .ok index := by
  obtain ⟨width, height, layers⟩ := extents
  cases layers <;> exact ⟨_, rfl⟩

/-- Flat and logical indices are inverse to each other. From a flat index to the logical one and back
leads to where it started from every whole number; between the numbers below the product of the
extents and the places of the grid, the way is one-to-one in both directions. -/
theorem flat_and_logical_are_inverse (positive : ∀ extent ∈ extents.toList, 0 < extent) :
    ∃ (logical : Int → GridIndex) (flat : GridIndex → Int),
      (∀ index, ofFlat index extents.wholes.toList = .ok (logical index)) ∧
      (∀ place, flatIndex place.toList extents.wholes.toList = .ok (flat place)) ∧
      (∀ index, flat (logical index) = index) ∧
      Set.InvOn flat logical (numbers extents) (box extents) ∧
      Set.BijOn logical (numbers extents) (box extents) ∧
      Set.BijOn flat (box extents) (numbers extents) := by
  choose logical isLogical isBack using exists_ofFlat positive
  choose flat isFlat using exists_flatIndex extents
  have flat_logical (index : Int) : flat (logical index) = index :=
    Except.ok.inj ((isFlat (logical index)).symm.trans (isBack index))
  have logical_number {place : Position Nat} (holds : extents.Holds place) :
      logical (extents.number place) = ofPlace place :=
    Except.ok.inj ((isLogical _).symm.trans (ofFlat_number holds))
  have flat_place {place : Position Nat} (holds : extents.Holds place) :
      flat (ofPlace place) = extents.number place :=
    Except.ok.inj ((isFlat _).symm.trans (flatIndex_number holds))
  have inverse : Set.InvOn flat logical (numbers extents) (box extents) := by
    refine ⟨fun index _ => flat_logical index, fun index inBox => ?_⟩
    obtain ⟨place, holds, rfl⟩ := mem_box_iff.mp inBox
    rw [flat_place holds, logical_number holds]
  have toBox : Set.MapsTo logical (numbers extents) (box extents) := by
    intro index inNumbers
    obtain ⟨place, holds, rfl⟩ := mem_numbers_iff.mp inNumbers
    exact mem_box_iff.mpr ⟨place, holds, (logical_number holds).symm⟩
  have fromBox : Set.MapsTo flat (box extents) (numbers extents) := by
    intro index inBox
    obtain ⟨place, holds, rfl⟩ := mem_box_iff.mp inBox
    exact mem_numbers_iff.mpr ⟨place, holds, (flat_place holds).symm⟩
  exact ⟨logical, flat, isLogical, isFlat, flat_logical, inverse, inverse.bijOn toBox fromBox,
    inverse.symm.bijOn fromBox toBox⟩

/-- Two layers of three rows of four places, and an index before all of them. -/
theorem flat_and_logical_in_two_layers :
    (∀ extent ∈ (⟨4, 3, some 2⟩ : Axes Nat).toList, 0 < extent) ∧
      ∃ (logical : Int → GridIndex) (flat : GridIndex → Int),
        ofFlat (-7) [4, 3, 2] = .ok (logical (-7)) ∧
        flatIndex (logical (-7)).toList [4, 3, 2] = .ok (-7) ∧
        Set.BijOn logical {index | 0 ≤ index ∧ index < 24} (box ⟨4, 3, some 2⟩) ∧
        Set.BijOn flat (box ⟨4, 3, some 2⟩) {index | 0 ≤ index ∧ index < 24} := by
  have positive : ∀ extent ∈ (⟨4, 3, some 2⟩ : Axes Nat).toList, 0 < extent := by decide
  obtain ⟨logical, flat, isLogical, isFlat, isBack, _, toBox, fromBox⟩ :=
    flat_and_logical_are_inverse positive
  have returns := isFlat (logical (-7))
  rw [isBack] at returns
  exact ⟨positive, logical, flat, isLogical (-7), returns, toBox, fromBox⟩

end GridIndex

end FieldSurvey
