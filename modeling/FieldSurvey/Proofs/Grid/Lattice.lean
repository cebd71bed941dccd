import FieldSurvey.Proofs.Grid.ExactLocation
import FieldSurvey.Proofs.Grid.Places

/-!
Grids whose points lie where lines along the axes cross. Uniform and rectilinear grids are such
lattices, the lines of a uniform one evenly spaced. The centre of a cell is found along each axis
for itself; if nothing is rounded it is the mean of the cell's corners, also where a line lies at
infinity or nowhere.
-/

namespace FieldSurvey

namespace ExactNumber

/-- Halfway between a step and the next one lies half a step beyond the first. -/
theorem half_step (origin spacing : ExactNumber) (step : Nat) :
    origin + Scalar.ofInt step * spacing + Scalar.half * spacing =
      Scalar.half * (origin + Scalar.ofInt step * spacing +
        (origin + Scalar.ofInt (step + 1 : Nat) * spacing)) := by
  rw [half_eq, ofInt_eq, ofInt_eq]
  cases spacing with
  | undefined =>
      have noProduct (number : ℚ) : finite number * undefined = undefined := rfl
      rw [noProduct, noProduct, noProduct, add_undefined, add_undefined, add_undefined, noProduct]
  | infinite negative =>
      have halved : finite (1 / 2) * infinite negative = infinite negative :=
        finite_mul_infinite negative (by norm_num)
      have next : finite ((step + 1 : Nat) : Int) * infinite negative = infinite negative :=
        finite_mul_infinite negative (by exact_mod_cast Nat.succ_pos step)
      rw [halved, next]
      -- Zero infinite steps are undefined; any other number of them is infinite.
      rcases Nat.eq_zero_or_pos step with rfl | isPositive
      · have noProduct : finite ((0 : Nat) : Int) * infinite negative = undefined := rfl
        rw [noProduct, add_undefined]
        rfl
      · have here : finite ((step : Nat) : Int) * infinite negative = infinite negative :=
          finite_mul_infinite negative (by exact_mod_cast isPositive)
        rw [here, ExactNumber.add_assoc, infinite_add_self, ← half_eq, half_add_self]
  | finite number =>
      cases origin with
      | undefined => rfl
      | infinite negative =>
          have stays (distance : ℚ) : infinite negative + finite distance = infinite negative := rfl
          rw [finite_mul, finite_mul, finite_mul, stays, stays, stays, infinite_add_self,
            finite_mul_infinite negative (by norm_num)]
      | finite start =>
          simp only [finite_mul, finite_add, finite.injEq]
          push_cast
          ring

end ExactNumber

section Means

variable (x y z nextX nextY nextZ : ExactNumber)

/-- The corners of a cell in the plane: along each axis half of them lie on either line. -/
theorem average_square :
    Position.average [⟨x, y, z⟩, ⟨nextX, y, z⟩, ⟨nextX, nextY, z⟩, ⟨x, nextY, z⟩] =
      ⟨Scalar.half * (x + nextX), Scalar.half * (y + nextY), z⟩ := by
  have alongX : x + nextX + nextX + x = x + nextX + (x + nextX) := by ac_rfl
  have alongY : y + y + nextY + nextY = y + nextY + (y + nextY) := by ac_rfl
  have alongZ : z + z + z + z = z + z + (z + z) := by ac_rfl
  have isHeight := ExactNumber.half_eq_quarter (z + z)
  rw [ExactNumber.half_add_self] at isHeight
  simp only [Position.average, List.foldl_cons, List.foldl_nil, ExactNumber.zero_add,
    Position.map, List.length_cons, List.length_nil, alongX, alongY, alongZ, Position.mk.injEq]
  exact ⟨(ExactNumber.half_eq_quarter _).symm, (ExactNumber.half_eq_quarter _).symm,
    isHeight.symm⟩

theorem average_box :
    Position.average
        [⟨x, y, z⟩, ⟨nextX, y, z⟩, ⟨nextX, nextY, z⟩, ⟨x, nextY, z⟩,
          ⟨x, y, nextZ⟩, ⟨nextX, y, nextZ⟩, ⟨nextX, nextY, nextZ⟩, ⟨x, nextY, nextZ⟩] =
      ⟨Scalar.half * (x + nextX), Scalar.half * (y + nextY), Scalar.half * (z + nextZ)⟩ := by
  have alongX : x + nextX + nextX + x + x + nextX + nextX + x =
      x + nextX + (x + nextX) + (x + nextX + (x + nextX)) := by ac_rfl
  have alongY : y + y + nextY + nextY + y + y + nextY + nextY =
      y + nextY + (y + nextY) + (y + nextY + (y + nextY)) := by ac_rfl
  have alongZ : z + z + z + z + nextZ + nextZ + nextZ + nextZ =
      z + nextZ + (z + nextZ) + (z + nextZ + (z + nextZ)) := by ac_rfl
  simp only [Position.average, List.foldl_cons, List.foldl_nil, ExactNumber.zero_add,
    Position.map, List.length_cons, List.length_nil, alongX, alongY, alongZ, Position.mk.injEq]
  exact ⟨(ExactNumber.half_eq_eighth _).symm, (ExactNumber.half_eq_eighth _).symm,
    (ExactNumber.half_eq_eighth _).symm⟩

end Means

/-- Places of the crossing lines along each axis. In the plane all points lie on the first of the
lines along the third axis. -/
structure Lattice where
  extents : Axes Nat
  x : Nat → ExactNumber
  y : Nat → ExactNumber
  z : Nat → ExactNumber

namespace Lattice

variable (lattice : Lattice)

def point (place : Position Nat) : Position ExactNumber :=
  ⟨lattice.x place.x, lattice.y place.y, lattice.z place.z⟩

/-- The centre of a cell, halfway to the next line along each axis. -/
def centre (place : Position Nat) : Position ExactNumber where
  x := Scalar.half * (lattice.x place.x + lattice.x (place.x + 1))
  y := Scalar.half * (lattice.y place.y + lattice.y (place.y + 1))
  z := if lattice.extents.isThreeDimensional then
      Scalar.half * (lattice.z place.z + lattice.z (place.z + 1))
    else lattice.z place.z

variable {lattice}

theorem average_corners (place : Position Nat) :
    Position.average ((lattice.extents.corners place).map lattice.point) =
      lattice.centre place := by
  cases inSpace : lattice.extents.isThreeDimensional with
  | true =>
      simp only [Axes.corners, Axes.around, inSpace, if_true, List.cons_append, List.nil_append,
        List.map_cons, List.map_nil, point, average_box, centre]
  | false =>
      simp only [Axes.corners, Axes.around, inSpace, Bool.false_eq_true, if_false, List.map_cons,
        List.map_nil, point, average_square, centre]

/-- Wherever a cell is given a centre, that is the one of the lattice, and the corners of the cell
are points of the lattice. -/
def IsGivenBy (lattice : Lattice) (coordinates : Coordinates ExactNumber) : Prop :=
  ∀ points place position, lattice.extents.cells.Holds place →
    coordinates.elementCentre points (lattice.extents.cells.number place) = .ok position →
    position = lattice.centre place ∧ ∀ corner ∈ lattice.extents.corners place,
      coordinates.vertex (lattice.extents.number corner) = .ok (lattice.point corner)

section Uniform

/-- The lattice of a uniform grid: equal steps from the origin along each axis. -/
def ofSteps (extents : Axes Nat) (origin spacing : Position ExactNumber) : Lattice where
  extents := extents
  x := fun step => origin.x + Scalar.ofInt step * spacing.x
  y := fun step => origin.y + Scalar.ofInt step * spacing.y
  z := fun step =>
    if extents.isThreeDimensional then origin.z + Scalar.ofInt step * spacing.z else origin.z

@[simp] theorem extents_ofSteps (extents : Axes Nat) (origin spacing : Position ExactNumber) :
    (ofSteps extents origin spacing).extents = extents := rfl

theorem vertex_ofSteps {extents : Axes Nat} (origin spacing : Position ExactNumber)
    {place : Position Nat} (holds : extents.Holds place) :
    (Coordinates.uniform extents.wholes origin spacing).vertex (extents.number place) =
      .ok ((ofSteps extents origin spacing).point place) := by
  simp only [Coordinates.vertex, ofFlat_number holds, ok_bind]
  refine Coordinates.uniformPoint_eq_ok.mpr ⟨rfl, rfl, ?_, ?_⟩
  · intro inSpace
    rw [Axes.wholes, Axes.isThreeDimensional_map] at inSpace
    simp only [point, ofSteps, inSpace, if_true]
    rfl
  · intro inPlane
    rw [Axes.wholes, Axes.isThreeDimensional_map] at inPlane
    simp only [point, ofSteps, inPlane, Bool.false_eq_true, if_false]

theorem isGivenBy_uniform (extents : Axes Nat) (origin spacing : Position ExactNumber)
    (areCells : extents.wholes.map (· - 1) = extents.cells.wholes) :
    (ofSteps extents origin spacing).IsGivenBy (.uniform extents.wholes origin spacing) := by
  intro points place position isCell found
  rw [extents_ofSteps] at isCell found
  refine ⟨?_, fun corner isCorner => vertex_ofSteps origin spacing (isCell.corners isCorner)⟩
  simp only [Coordinates.elementCentre, areCells, ofFlat_number isCell, ok_bind] at found
  obtain ⟨alongX, alongY, alongZ, isHeight⟩ := Coordinates.uniformPoint_eq_ok.mp found
  rw [Axes.wholes, Axes.isThreeDimensional_map] at alongZ isHeight
  obtain ⟨x, y, z⟩ := position
  have isX := ExactNumber.half_step origin.x spacing.x place.x
  have isY := ExactNumber.half_step origin.y spacing.y place.y
  cases inSpace : extents.isThreeDimensional with
  | true =>
      have isZ := ExactNumber.half_step origin.z spacing.z place.z
      simp only [centre, ofSteps, inSpace, if_true, ← isX, ← isY, ← isZ, Position.mk.injEq]
      exact ⟨(Except.ok.inj alongX).symm, (Except.ok.inj alongY).symm,
        (Except.ok.inj (alongZ inSpace)).symm⟩
  | false =>
      simp only [centre, ofSteps, inSpace, Bool.false_eq_true, if_false, ← isX, ← isY,
        Position.mk.injEq]
      exact ⟨(Except.ok.inj alongX).symm, (Except.ok.inj alongY).symm, isHeight inSpace⟩

end Uniform

section Rectilinear

/-- The number that an entry is; what is no number lies nowhere. -/
def numberOf : Option (LooseEntry ExactNumber) → ExactNumber
  | some (.readable number) => number
  | _ => .undefined

/-- The lattice of a rectilinear grid, with lines where its axes say. -/
def ofAxes (axes : Axes (List (LooseEntry ExactNumber))) : Lattice where
  extents := axes.map List.length
  x := fun step => numberOf axes.x[step]?
  y := fun step => numberOf axes.y[step]?
  z := fun step =>
    match axes.z with
    | some axis => numberOf axis[step]?
    | none => Scalar.zero

theorem wholes_ofAxes (axes : Axes (List (LooseEntry ExactNumber))) :
    (axes.map fun axis => (axis.length : Int)) = (ofAxes axes).extents.wholes := by
  rw [ofAxes, Axes.wholes, Axes.map_map]

section Entries

variable {axis : List (LooseEntry ExactNumber)} {place : Nat} {number : ExactNumber}

theorem stored_numberOf (stands : axis[place]? = some (.readable number)) :
    Coordinates.stored axis place = .ok (numberOf axis[place]?) := by
  rw [Coordinates.stored, entryAt_ofNat stands, stands]
  rfl

theorem number?_eq_ok {entry : LooseEntry ExactNumber} (isNumber : entry.number? = .ok number) :
    entry = .readable number := by
  cases entry with
  | readable found => exact congrArg _ (Except.ok.inj isNumber)
  | _ => cases isNumber

/-- A cell has a middle along an axis only between two numbers. -/
theorem middle_eq_ok (found : Coordinates.middle axis place = .ok number) :
    Coordinates.stored axis place = .ok (numberOf axis[place]?) ∧
      Coordinates.stored axis (place + 1 : Nat) = .ok (numberOf axis[place + 1]?) ∧
      number = Scalar.half * (numberOf axis[place]? + numberOf axis[place + 1]?) := by
  obtain ⟨first, atFirst, found⟩ := bind_eq_ok.mp found
  obtain ⟨left, isLeft, found⟩ := bind_eq_ok.mp found
  obtain ⟨second, atSecond, found⟩ := bind_eq_ok.mp found
  obtain ⟨right, isRight, found⟩ := bind_eq_ok.mp found
  rw [← Int.natCast_succ] at atSecond
  have before := entryAt_natCast.mp atFirst
  have after := entryAt_natCast.mp atSecond
  rw [number?_eq_ok isLeft] at before
  rw [number?_eq_ok isRight] at after
  refine ⟨stored_numberOf before, stored_numberOf after, ?_⟩
  rw [before, after]
  exact (Except.ok.inj found).symm

end Entries

variable {axes : Axes (List (LooseEntry ExactNumber))}

theorem vertex_ofAxes {place : Position Nat} (holds : (ofAxes axes).extents.Holds place)
    (alongX : Coordinates.stored axes.x place.x = .ok ((ofAxes axes).x place.x))
    (alongY : Coordinates.stored axes.y place.y = .ok ((ofAxes axes).y place.y))
    (alongZ : ∀ axis ∈ axes.z, Coordinates.stored axis place.z = .ok (numberOf axis[place.z]?)) :
    (Coordinates.rectilinear axes).vertex ((ofAxes axes).extents.number place) =
      .ok ((ofAxes axes).point place) := by
  simp only [Coordinates.vertex, wholes_ofAxes, ofFlat_number holds, ok_bind]
  refine Coordinates.choose_eq_ok.mpr ⟨alongX, alongY, ?_, ?_⟩
  · intro axis isThird
    rw [alongZ axis isThird, point, ofAxes, Option.mem_def.mp isThird]
  · intro inPlane
    have noThird : axes.z = none := Option.isNone_iff_eq_none.mp
      (Option.isSome_eq_false_iff.mp inPlane)
    simp only [point, ofAxes, noThird]

theorem isGivenBy_rectilinear
    (areCells : (axes.map fun axis => (axis.length : Int) - 1) =
      (ofAxes axes).extents.cells.wholes) :
    (ofAxes axes).IsGivenBy (.rectilinear axes) := by
  intro points place position isCell found
  simp only [Coordinates.elementCentre, areCells, ofFlat_number isCell, ok_bind] at found
  obtain ⟨alongX, alongY, alongZ, isHeight⟩ := Coordinates.choose_eq_ok.mp found
  obtain ⟨beforeX, afterX, isX⟩ := middle_eq_ok alongX
  obtain ⟨beforeY, afterY, isY⟩ := middle_eq_ok alongY
  constructor
  · obtain ⟨x, y, z⟩ := position
    rw [centre, Position.mk.injEq]
    refine ⟨isX, isY, ?_⟩
    obtain ⟨first, second, third⟩ := axes
    cases third with
    | some axis => exact (middle_eq_ok (alongZ axis rfl)).2.2
    | none => exact isHeight rfl
  · intro corner isCorner
    obtain ⟨cornerX, cornerY, cornerZ⟩ := Axes.mem_corners isCorner
    apply vertex_ofAxes (isCell.corners isCorner)
    · rcases cornerX with same | next
      · rw [same]
        exact beforeX
      · rw [next]
        exact afterX
    · rcases cornerY with same | next
      · rw [same]
        exact beforeY
      · rw [next]
        exact afterY
    · intro axis isThird
      obtain ⟨beforeZ, afterZ, _⟩ := middle_eq_ok (alongZ axis isThird)
      rcases cornerZ with same | ⟨_, next⟩
      · rw [same]
        exact beforeZ
      · rw [next]
        exact afterZ

end Rectilinear

end Lattice

end FieldSurvey
