import FieldSurvey.Packed.ElementCode

/-!
Arrays as mappings of plain values: a mark, a code for the element type, the lengths of the axes,
and the entries as bytes, the lowest byte of a word first. Reading takes words in either byte order,
and the entries of another array in place of bytes.
-/

namespace FieldSurvey

/-- The key that marks the mapping of an array. -/
def arrayMark : String := "__ndarray__"

/-- A text as code points of four bytes each, filled up to a length with zeros. -/
def textCells (length : Nat) (content : String) : Bytes :=
  let points := content.toList.map Char.toNat
  (points ++ List.replicate (length - points.length) 0).flatMap (littleEndian 4)

namespace Column

/-- The entries as bytes. -/
def toBytes : Column Value → Bytes
  | .truth entries => entries.map fun entry => if entry then 1 else 0
  | .int type entries => entries.flatMap fun word => littleEndian type.byteCount word.toNat
  | .float width entries => entries.flatMap fun word => littleEndian width.byteCount word.toNat
  | .complex width entries => entries.flatMap fun parts =>
      littleEndian width.byteCount parts.1.toNat ++ littleEndian width.byteCount parts.2.toNat
  | .text length entries => entries.flatMap (textCells length)
  | .bytes length entries => entries.flatMap fun content =>
      content ++ List.replicate (length - content.length) 0
  | .mixed entries => entries.flatMap fun _ => littleEndian 8 0

def ofBytes (type : ElementType) (isHighFirst : Bool) (count : Nat) (bytes : Bytes) :
    Except Error (Column Value) :=
  let number (word : Bytes) : Nat :=
    if isHighFirst then fromBigEndian word else fromLittleEndian word
  let cells := groupsOf type.byteCount count bytes
  match type with
  | .truth => .ok (.truth (cells.map fun cell => number cell != 0))
  | .int type => .ok (.int type (cells.map fun cell => BitVec.ofNat _ (number cell)))
  | .float width => .ok (.float width (cells.map fun cell => BitVec.ofNat _ (number cell)))
  | .complex width =>
      .ok (.complex width (cells.map fun cell =>
        (BitVec.ofNat _ (number (cell.take width.byteCount)),
          BitVec.ofNat _ (number (cell.drop width.byteCount)))))
  | .text length =>
      .ok (.text length (cells.map fun cell =>
        dropTrailingNulls (String.ofList ((groupsOf 4 length cell).map fun point =>
          Char.ofNat (number point)))))
  | .bytes length => .ok (.bytes length (cells.map dropTrailingNullBytes))
  | .mixed => .error .badValue

end Column

namespace Value

/-- The mapping of an array; one without axes is written with one axis of length 1. -/
def arrayForm (shape : List Nat) (column : Column Value) : List (Value × Value) :=
  let shape := if shape.isEmpty then [1] else shape
  [(.text arrayMark, .truth true), (.text "dtype", .text column.elementType.code),
   (.text "shape", .list (shape.map fun (length : Nat) => .whole length)),
   (.text "data", .bytes column.toBytes)]

/-- The lengths of axes over `count` entries; one of them may be -1 and is then worked out. -/
def resolveShape (count : Nat) (lengths : List Int) : Except Error (List Nat) :=
  let known := lengths.filter (· != -1)
  let product : Int := known.foldl (· * ·) 1
  if known.any (· < 0) then .error .badValue
  else if known.length = lengths.length then
    if product = (count : Int) then .ok (lengths.map Int.toNat) else .error .badValue
  else if known.length + 1 = lengths.length then
    if product ≠ 0 ∧ (count : Int) % product = 0 then
      .ok (lengths.map fun length =>
        if length = -1 then ((count : Int) / product).toNat else length.toNat)
    else .error .badValue
  else .error .badValue

/-- The bytes that entries can be read from. -/
def toContent : Value → Except Error Bytes
  | bytes content => .ok content
  | array _ column => .ok column.toBytes
  | _ => .error .wrongType

def ofArrayForm (entries : List (Value × Value)) : Except Error Value := do
  let form := map entries
  let data ← form.item "data"
  let (type, isHighFirst) ← ElementType.ofValue (← form.item "dtype")
  if type = .mixed ∨ type.byteCount = 0 then throw .badValue
  let content ← data.toContent
  if content.length % type.byteCount ≠ 0 then throw .badValue
  let count := content.length / type.byteCount
  let column ← Column.ofBytes type isHighFirst count content
  let lengths ← (← (← form.item "shape").items?).mapM toPlace
  if axisLimit < lengths.length then throw .badValue
  let shape ← resolveShape count lengths
  return .array shape column

/-- What a mapping stands for: an array if it is marked as one, else itself. -/
def restore (entries : List (Value × Value)) : Except Error Value := do
  match find? arrayMark entries with
  | some mark => if ← mark.isTrue then ofArrayForm entries else return .map entries
  | none => return .map entries

end Value

end FieldSurvey
