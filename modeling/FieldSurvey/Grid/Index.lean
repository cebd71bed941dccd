import FieldSurvey.Error

/-!
Flat and logical indices of a grid. A flat index counts with axis 0 varying fastest; the logical
index of a point is its place along each axis. Division rounds down, so the two agree for indices
outside the grid as well.
-/

namespace FieldSurvey

/-- Place along each axis. -/
structure GridIndex where
  i : Int
  j : Int
  k : Int
  deriving DecidableEq, Repr

/-- Quotient rounded down; there is none by zero. -/
def floorDivide (dividend divisor : Int) : Except Error Int :=
  if divisor = 0 then .error .zeroDivision else .ok (Int.fdiv dividend divisor)

def floorRemainder (dividend divisor : Int) : Except Error Int :=
  if divisor = 0 then .error .zeroDivision else .ok (Int.fmod dividend divisor)

/-- The extent of an axis of a grid given by the list of its extents. -/
def extentOf (extents : List Int) (axis : Nat) : Except Error Int :=
  match extents[axis]? with
  | some extent => .ok extent
  | none => .error .badSubscript

namespace GridIndex

/-- The logical index in a plane grid; only the first extent matters. -/
def inPlane (index : Int) (extents : List Int) : Except Error GridIndex := do
  let width ← extentOf extents 0
  let i ← floorRemainder index width
  let j ← floorDivide index width
  return ⟨i, j, 0⟩

/-- The logical index in a grid with three axes; the third extent does not matter. -/
def inSpace (index : Int) (extents : List Int) : Except Error GridIndex := do
  let width ← extentOf extents 0
  let i ← floorRemainder index width
  let row ← floorDivide index width
  let height ← extentOf extents 1
  let j ← floorRemainder row height
  let k ← floorDivide index (width * height)
  return ⟨i, j, k⟩

/-- The logical index in a grid: in space if it has three extents, else in the plane. -/
def ofFlat (index : Int) (extents : List Int) : Except Error GridIndex :=
  if extents.length = 3 then inSpace index extents else inPlane index extents

def toList (index : GridIndex) : List Int := [index.i, index.j, index.k]

end GridIndex

/-- The flat index of a logical one; the third place matters only with three extents. -/
def flatIndex (places extents : List Int) : Except Error Int := do
  let i ← extentOf places 0
  let j ← extentOf places 1
  let width ← extentOf extents 0
  let inLayer := i + j * width
  if extents.length = 3 then
    let k ← extentOf places 2
    let height ← extentOf extents 1
    return inLayer + k * width * height
  else return inLayer

/-- The corner points of an element of a grid of elements, counted on the grid of points that has
one more along each axis: around the lower layer, then around the upper one. -/
def cornersOf (elementExtents : List Int) (index : Int) : Except Error (List Int) := do
  let width := (← extentOf elementExtents 0) + 1
  let height := (← extentOf elementExtents 1) + 1
  let place ← GridIndex.ofFlat index elementExtents
  let lowest := (place.k * height + place.j) * width + place.i
  let layer := [lowest, lowest + 1, lowest + 1 + width, lowest + width]
  if elementExtents.length = 3 then
    return layer ++ layer.map (· + width * height)
  else return layer

end FieldSurvey
