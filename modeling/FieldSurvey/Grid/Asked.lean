import FieldSurvey.Grid.Index
import FieldSurvey.Subscript
import FieldSurvey.Value.Arithmetic

/-!
Flat and logical indices of grids given by values of any kind. Among whole numbers they are those of
`GridIndex`; for other values they are what the same arithmetic gives.
-/

namespace FieldSurvey

namespace Value

/-- How many items a container has; nothing else has any. -/
def itemCount : Value → Except Error Nat
  | text content => .ok content.length
  | bytes content => .ok content.length
  | list items => .ok items.length
  | map entries => .ok entries.length
  | array (rows :: _) _ => .ok rows
  | _ => .error .wrongType

def itemAt (place : Nat) : Value → Except Error Value
  | map entries =>
      match entries.find? fun entry => entry.1.sameKey (whole place) with
      | some entry => .ok entry.2
      | none => .error .missingKey
  | text content => text <$> (String.singleton <$> entryAt content.toList place)
  | container => do
      let _ ← container.itemCount
      let items ← container.items?
      entryAt items place

def wholes? : Value → Option (List Int)
  | list items => items.mapM fun item =>
      match item with
      | whole number => some number
      | _ => none
  | _ => none

end Value

/-- The number of axes that an index is split into. -/
inductive GridLayout where
  | plane
  | space
  | byExtents
  deriving DecidableEq, Repr

namespace GridLayout

def ofFlat (layout : GridLayout) (index : Int) (extents : List Int) : Except Error GridIndex :=
  match layout with
  | plane => GridIndex.inPlane index extents
  | space => GridIndex.inSpace index extents
  | byExtents => GridIndex.ofFlat index extents

def placesInPlane (index extents : Value) : Except Error (List Value) := do
  let width ← extents.itemAt 0
  let i ← index.operate .remainder width
  let j ← index.operate .floorDivide width
  return [i, j, .whole 0]

def placesInSpace (index extents : Value) : Except Error (List Value) := do
  let width ← extents.itemAt 0
  let i ← index.operate .remainder width
  let row ← index.operate .floorDivide width
  let height ← extents.itemAt 1
  let j ← row.operate .remainder height
  let layer ← width.operate .times height
  let k ← index.operate .floorDivide layer
  return [i, j, k]

def placesAsked (layout : GridLayout) (index extents : Value) : Except Error (List Value) := do
  match index, extents.wholes? with
  | .whole index, some extents =>
      let found ← layout.ofFlat index extents
      return found.toList.map .whole
  | _, _ =>
      match layout with
      | plane => placesInPlane index extents
      | space => placesInSpace index extents
      | byExtents =>
          if (← extents.itemCount) = 3 then placesInSpace index extents
          else placesInPlane index extents

end GridLayout

def flatIndexAsked (places extents : Value) : Except Error Int := do
  match places.wholes?, extents.wholes? with
  | some places, some extents => flatIndex places extents
  | _, _ =>
      let i ← places.itemAt 0
      let j ← places.itemAt 1
      let width ← extents.itemAt 0
      let inLayer ← i.operate .plus (← j.operate .times width)
      if (← extents.itemCount) = 3 then
        let k ← places.itemAt 2
        let below ← (← k.operate .times width).operate .times (← extents.itemAt 1)
        (← inLayer.operate .plus below).toWhole
      else inLayer.toWhole

end FieldSurvey
