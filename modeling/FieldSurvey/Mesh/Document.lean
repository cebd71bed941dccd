import FieldSurvey.Mesh.Domain
import FieldSurvey.Value.Cast
import FieldSurvey.Value.Comparison

/-!
Datasets as plain values. Reading fills in what a description leaves out and turns plain lists into
columns; writing gives every part of a domain in a fixed order, with all defaults spelled out.
-/

namespace FieldSurvey

namespace Value

def itemOr (key : String) (value default : Value) : Except Error Value := do
  let entries ← value.entries?
  return (find? key entries).getD default

def wholeItem (key : String) (value : Value) : Except Error Int := do
  let item ← value.item key
  item.toWhole

def realItemOr (key : String) (default : Float) (value : Value) : Except Error Double := do
  let item ← value.itemOr key (ofFloat default)
  item.toDouble

/-- Extents by the names of the axes; there are three if the third is named. -/
def toExtents (value : Value) : Except Error (Axes Int) := do
  let hasThird ← value.contains "k"
  let i ← value.wholeItem "i"
  let j ← value.wholeItem "j"
  if hasThird then
    let k ← value.wholeItem "k"
    return ⟨i, j, some k⟩
  else return ⟨i, j, none⟩

/-- A column for each axis; there are three if the third is named. -/
def toAxisColumns (kind : CoordsetKind) (value : Value) : Except Error (Axes (Column Value)) := do
  if !(← value.contains "x") then throw (.axesRequired kind)
  if !(← value.contains "y") then throw (.axesRequired kind)
  let hasThird ← value.contains "z"
  let x ← (← value.item "x").toColumn
  let y ← (← value.item "y").toColumn
  if hasThird then
    let z ← (← value.item "z").toColumn
    return ⟨x, y, some z⟩
  else return ⟨x, y, none⟩

def ofExtents (extents : Axes Int) : Value :=
  record ([("i", whole extents.x), ("j", whole extents.y)] ++
    extents.z.toList.map fun extent => ("k", whole extent))

def ofAxisColumns (axes : Axes (Column Value)) : Value :=
  record ([("x", row axes.x), ("y", row axes.y)] ++ axes.z.toList.map fun axis => ("z", row axis))

end Value

namespace Coordset

def ofValue (value : Value) : Except Error Coordset := do
  let kind ← value.itemOr "type" .null
  if ← kind.equals (.text "uniform") then
    let extents ← (← value.item "dims").toExtents
    let origin ← value.itemOr "origin" (.map [])
    let spacing ← value.itemOr "spacing" (.map [])
    let x ← origin.realItemOr "x" 0.0
    let y ← origin.realItemOr "y" 0.0
    let z ← origin.realItemOr "z" 0.0
    let dx ← spacing.realItemOr "dx" 1.0
    let dy ← spacing.realItemOr "dy" 1.0
    let dz ← spacing.realItemOr "dz" 1.0
    return .uniform extents ⟨x, y, z⟩ ⟨dx, dy, dz⟩
  else if ← kind.equals (.text "rectilinear") then
    let axes ← (← value.item "values").toAxisColumns .rectilinear
    return .rectilinear axes
  else if ← kind.equals (.text "explicit") then
    let axes ← (← value.item "values").toAxisColumns .explicit
    if axes.toList.all fun axis => axis.size == axes.x.size then return .explicit axes
    else throw .unevenAxes
  else throw (.unknownCoordsetKind kind.putInto)

/-- A coordinate along each axis that there is, under the given names. -/
def writePosition (names : Position String) (extents : Axes Int) (position : Position Double) :
    Value :=
  .record ([(names.x, .real position.x), (names.y, .real position.y)] ++
    extents.z.toList.map fun _ => (names.z, .real position.z))

def toValue : Coordset → Value
  | uniform extents origin spacing =>
      .record [("type", .text "uniform"), ("dims", .ofExtents extents),
        ("origin", writePosition ⟨"x", "y", "z"⟩ extents origin),
        ("spacing", writePosition ⟨"dx", "dy", "dz"⟩ extents spacing)]
  | rectilinear axes =>
      .record [("type", .text "rectilinear"), ("values", .ofAxisColumns axes)]
  | explicit axes => .record [("type", .text "explicit"), ("values", .ofAxisColumns axes)]

end Coordset

def Column.toWords (column : Column Value) : Except Error (List (BitVec 64)) := do
  match ← column.castInto (.int .int64) with
  | .int .int64 words => return words
  | _ => return []

namespace Topology

def ofValue (value : Value) : Except Error Topology := do
  let kind ← value.itemOr "type" .null
  let coordset := (← value.itemOr "coordset" (.text "")).spelled
  if ← kind.equals (.text "points") then return ⟨coordset, .points⟩
  else if ← kind.equals (.text "uniform") then return ⟨coordset, .uniform⟩
  else if ← kind.equals (.text "rectilinear") then return ⟨coordset, .rectilinear⟩
  else if ← kind.equals (.text "structured") then
    let extents ← (← (← value.item "elements").item "dims").toExtents
    return ⟨coordset, .structured extents⟩
  else if ← kind.equals (.text "unstructured") then
    let elements ← value.item "elements"
    let connectivity ← (← (← elements.item "connectivity").toColumn).toWords
    let shape := (← elements.item "shape").spelled
    return ⟨coordset, .unstructured shape connectivity⟩
  else throw (.unknownTopologyKind kind.putInto)

def toValue (topology : Topology) : Value :=
  let elements : List (String × Value) :=
    match topology.elements with
    | .structured extents => [("elements", .record [("dims", .ofExtents extents)])]
    | .unstructured shape connectivity =>
        [("elements", .record [("shape", .text shape),
          ("connectivity", .row (.int .int64 connectivity))])]
    | _ => []
  .record ([("type", .text topology.kind.name), ("coordset", .text topology.coordset)] ++ elements)

end Topology

namespace Field

/-- Reads the values of a field: a mapping gives its components. -/
def readValues : Value → Except Error FieldValues
  | .map entries => do
      let columns ← entries.mapM fun entry => do
        let column ← entry.2.toColumn
        return (entry.1.spelled, column)
      return .components (Registry.ofEntries columns)
  | value => do
      let column ← value.toColumn
      return .scalar column

def ofValue (name : String) (value : Value) : Except Error Field := do
  let values ← readValues (← value.item "values")
  let association ← value.itemOr "association" (.text "")
  let topology ← value.itemOr "topology" (.text "")
  return ⟨name, association.spelled, topology.spelled, values⟩

def valuesToValue (field : Field) : Value :=
  match field.values with
  | .scalar column => .row column
  | .components columns => .record (columns.map fun entry => (entry.1, .row entry.2))

/-- Writes a field; its name is the key it stands under. -/
def toValue (field : Field) : Value :=
  .record [("association", .text field.association), ("topology", .text field.topology),
    ("values", field.valuesToValue)]

end Field

namespace Domain

def readSection {β : Type} (read : String → Value → Except Error β) (name : String)
    (value : Value) : Except Error (Registry β) := do
  let part ← value.itemOr name (.map [])
  let entries ← part.entries?
  let read ← entries.mapM fun entry => do
    let result ← read entry.1.spelled entry.2
    return (entry.1.spelled, result)
  return Registry.ofEntries read

/-- Reads a domain; a section that is left out is empty. -/
def ofValue (value : Value) : Except Error Domain := do
  let coordsets ← readSection (fun _ => Coordset.ofValue) "coordsets" value
  let topologies ← readSection (fun _ => Topology.ofValue) "topologies" value
  let fields ← readSection Field.ofValue "fields" value
  let state ← (← value.itemOr "state" (.map [])).toEntries
  return ⟨coordsets, topologies, fields, state⟩

def toValue (domain : Domain) : Value :=
  .record [("state", .map domain.state),
    ("coordsets", .record (domain.coordsets.map fun entry => (entry.1, entry.2.toValue))),
    ("topologies", .record (domain.topologies.map fun entry => (entry.1, entry.2.toValue))),
    ("fields", .record (domain.fields.map fun entry => (entry.1, entry.2.toValue)))]

/-- Whether a mapping describes a domain, by the sections that one may have. -/
def isDescription (entries : List (Value × Value)) : Bool :=
  ["coordsets", "topologies", "fields", "state"].any fun name => (Value.find? name entries).isSome

end Domain

namespace Dataset

/-- The descriptions of the domains of a dataset: one domain alone, a mapping of names to domains,
or a list of them. -/
def descriptions : Value → Except Error (List Value)
  | .map entries =>
      if Domain.isDescription entries then .ok [.map entries] else .ok (entries.map Prod.snd)
  | value => value.items?

def ofValue (value : Value) : Except Error Dataset := do
  let descriptions ← descriptions value
  descriptions.mapM Domain.ofValue

end Dataset

end FieldSurvey
