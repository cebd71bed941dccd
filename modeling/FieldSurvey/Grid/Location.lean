import FieldSurvey.Grid.Axes
import FieldSurvey.Grid.Index
import FieldSurvey.Kernel.Entries
import FieldSurvey.Subscript

/-!
Where points and element centres lie. Coordinates are a uniform grid, a grid with given axes, or
listed points; all of it works over any type of numbers.
-/

namespace FieldSurvey

/-- The points of a mesh over numbers of type `α`. -/
inductive Coordinates (α : Type) where
  | uniform (extents : Axes Int) (origin spacing : Position α)
  | rectilinear (axes : Axes (List (LooseEntry α)))
  | explicit (axes : Axes (List (LooseEntry α)))

namespace Coordinates

variable {α : Type} [Scalar α]

/-- A uniform grid's place along one axis; there is none where the numbers do not reach. -/
def along (origin spacing : α) (place : Int) : Except Error α :=
  if Scalar.holds α place then .ok (origin + Scalar.ofInt place * spacing) else .error .overflow

/-- The point of a uniform grid at some places, given how to find it along one axis. In the plane
the third coordinate is that of the origin. -/
def uniformPoint (extents : Axes Int) (origin spacing : Position α)
    (find : α → α → Int → Except Error α) (place : GridIndex) : Except Error (Position α) := do
  let x ← find origin.x spacing.x place.i
  let y ← find origin.y spacing.y place.j
  if extents.isThreeDimensional then
    let z ← find origin.z spacing.z place.k
    return ⟨x, y, z⟩
  else return ⟨x, y, origin.z⟩

/-- The coordinates that a choice of an entry along each axis gives; without a third axis the third
coordinate is 0. -/
def choose (axes : Axes (List (LooseEntry α)))
    (entry : List (LooseEntry α) → Int → Except Error α) (i j k : Int) :
    Except Error (Position α) := do
  let x ← entry axes.x i
  let y ← entry axes.y j
  match axes.z with
  | some axis => do
      let z ← entry axis k
      return ⟨x, y, z⟩
  | none => return ⟨x, y, Scalar.zero⟩

def stored (axis : List (LooseEntry α)) (index : Int) : Except Error α := do
  let entry ← entryAt axis index
  entry.toReal

def middle (axis : List (LooseEntry α)) (index : Int) : Except Error α := do
  let left ← (← entryAt axis index).number?
  let right ← (← entryAt axis (index + 1)).number?
  return Scalar.half * (left + right)

def listed (axes : Axes (List (LooseEntry α))) (index : Int) : Except Error (Position α) :=
  choose axes stored index index index

def extents : Coordinates α → Axes Int
  | uniform extents _ _ => extents
  | rectilinear axes => axes.map fun axis => (axis.length : Int)
  | explicit axes => axes.map fun axis => (axis.length : Int)

def elementExtents (coordinates : Coordinates α) : Axes Int :=
  coordinates.extents.map (· - 1)

def vertex : Coordinates α → Int → Except Error (Position α)
  | uniform extents origin spacing, index => do
      let place ← GridIndex.ofFlat index extents.toList
      uniformPoint extents origin spacing along place
  | rectilinear axes, index => do
      let place ← GridIndex.ofFlat index (axes.map fun axis => (axis.length : Int)).toList
      choose axes stored place.i place.j place.k
  | explicit axes, index => listed axes index

def meanOf (axes : Axes (List (LooseEntry α))) (points : List Int) : Except Error (Position α) := do
  let origin : Position α := ⟨Scalar.zero, Scalar.zero, Scalar.zero⟩
  let total ← points.foldlM (fun (sum : Position α) point => do
    let position ← listed axes point
    return (⟨sum.x + position.x, sum.y + position.y, sum.z + position.z⟩ : Position α)) origin
  return total.map (· / Scalar.ofInt points.length)

/-- The centre of an element of the grid between the points, or of the element with the given points
where points are listed. -/
def elementCentre (points : Except Error (List Int)) :
    Coordinates α → Int → Except Error (Position α)
  | uniform extents origin spacing, index => do
      let place ← GridIndex.ofFlat index (extents.map (· - 1)).toList
      let centre (origin spacing : α) (step : Int) : Except Error α := do
        let corner ← along origin spacing step
        return corner + Scalar.half * spacing
      uniformPoint extents origin spacing centre place
  | rectilinear axes, index => do
      let place ← GridIndex.ofFlat index (axes.map fun axis => (axis.length : Int) - 1).toList
      choose axes middle place.i place.j place.k
  | explicit axes, _ => do
      let points ← points
      meanOf axes points

end Coordinates

end FieldSurvey
