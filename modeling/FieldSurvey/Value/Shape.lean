import FieldSurvey.Value.Spelling

/-!
Plain values as arrays. A scalar is an array without axes, a list of equally shaped items adds an
axis in front of theirs, and the entries take the least element type that all of them fit.
-/

namespace FieldSurvey

namespace IntType

def ofSign (isSigned : Bool) (bits : Nat) : IntType :=
  match isSigned, bits with
  | true, 8 => int8
  | true, 16 => int16
  | true, 32 => int32
  | true, _ => int64
  | false, 8 => uint8
  | false, 16 => uint16
  | false, 32 => uint32
  | false, _ => uint64

/-- Characters that the longest number of the type may take as text. -/
def textLength : IntType → Nat
  | int8 => 4
  | int16 => 6
  | int32 => 11
  | int64 => 21
  | uint8 => 3
  | uint16 => 5
  | uint32 => 10
  | uint64 => 20

/-- The least width of real numbers that holds all numbers of the type; 64 bits are taken to be
enough for all. -/
def realWidth (type : IntType) : FloatWidth :=
  if type.bits ≤ 8 then .half else if type.bits ≤ 16 then .single else .double

/-- The least type that holds the numbers of both: between a sign and none the signed type of twice
the width, and real numbers once that would pass 64 bits. -/
def join (left right : IntType) : ElementType :=
  if left.isSigned = right.isSigned then
    .int (ofSign left.isSigned (max left.bits right.bits))
  else
    let signedBits := if left.isSigned then left.bits else right.bits
    let unsignedBits := if left.isSigned then right.bits else left.bits
    if unsignedBits < signedBits then .int (ofSign true signedBits)
    else if unsignedBits < 64 then .int (ofSign true (2 * unsignedBits))
    else .float .double

end IntType

namespace FloatWidth

def join (left right : FloatWidth) : FloatWidth := if left.bits < right.bits then right else left

end FloatWidth

namespace ElementType

def textLength : ElementType → Nat
  | truth => 5
  | int type => type.textLength
  | float _ => 32
  | complex _ => 64
  | text length => length
  | bytes length => length
  | mixed => 0

def join : ElementType → ElementType → ElementType
  | mixed, _ => mixed
  | _, mixed => mixed
  | text length, other => text (max length other.textLength)
  | other, text length => text (max other.textLength length)
  | bytes length, other => bytes (max length other.textLength)
  | other, bytes length => bytes (max other.textLength length)
  | truth, other => other
  | other, truth => other
  | int left, int right => left.join right
  | int type, float width => float (type.realWidth.join width)
  | float width, int type => float (width.join type.realWidth)
  | float left, float right => float (left.join right)
  | complex left, complex right => complex (left.join right)
  | complex width, float other => complex (width.join other)
  | float other, complex width => complex (other.join width)
  | complex width, int type => complex (width.join type.realWidth)
  | int type, complex width => complex (type.realWidth.join width)

end ElementType

/-- Drops the null characters at the end; fixed-length texts are filled up with them. -/
def dropTrailingNulls (content : String) : String :=
  String.ofList (content.toList.reverse.dropWhile (fun character => character.toNat == 0)).reverse

/-- Drops the null bytes at the end; fixed-length byte strings are filled up with them. -/
def dropTrailingNullBytes (content : List UInt8) : List UInt8 :=
  (content.reverse.dropWhile (· == 0)).reverse

def cutText (length : Nat) (content : String) : String :=
  dropTrailingNulls (String.ofList (content.toList.take length))

/-- The bytes of a text in ASCII; there are none for other characters. -/
def asciiBytes (content : String) : Except Error (List UInt8) :=
  if content.toList.all fun character => character.toNat < 128 then
    .ok (content.toList.map fun character => UInt8.ofNat character.toNat)
  else .error .textEncoding

namespace Value

mutual

/-- The lengths of the axes; items of different shapes have none in common. -/
def shape? : Value → Except Error (List Nat)
  | list items => listShape? items
  | array shape _ => .ok shape
  | _ => .ok []

def listShape? : List Value → Except Error (List Nat)
  | [] => .ok [0]
  | [item] => do
      let inner ← shape? item
      return 1 :: inner
  | item :: rest => do
      let inner ← shape? item
      match ← listShape? rest with
      | count :: others => if others = inner then return (count + 1) :: inner else throw .badValue
      | [] => throw .badValue

end

mutual

def leaves : Value → List Value
  | list items => listLeaves items
  | array _ column => column.values
  | value => [value]

def listLeaves : List Value → List Value
  | [] => []
  | item :: rest => leaves item ++ listLeaves rest

end

def scalarType : Value → ElementType
  | truth _ => .truth
  | whole number =>
      if IntType.int64.holds number then .int .int64
      else if IntType.uint64.holds number then .int .uint64
      else .mixed
  | real _ => .float .double
  | text content => .text (max 1 content.length)
  | bytes content => .bytes (max 1 content.length)
  | typed number => (Column.ofNumber number : Column Value).elementType
  | _ => .mixed

mutual

/-- The element types of all scalars and arrays inside. -/
def leafTypes : Value → List ElementType
  | list items => listLeafTypes items
  | array _ column => [column.elementType]
  | value => [value.scalarType]

def listLeafTypes : List Value → List ElementType
  | [] => []
  | item :: rest => leafTypes item ++ listLeafTypes rest

end

/-- A scalar as an entry of a text column; byte strings have to be ASCII. -/
def toTextEntry : Value → Except Error String
  | bytes content =>
      match asciiText? content with
      | some characters => .ok (dropTrailingNulls characters)
      | none => .error .textEncoding
  | value => .ok (dropTrailingNulls value.spelled)

/-- A scalar as an entry of a byte column; its text has to be ASCII. -/
def toBytesEntry : Value → Except Error (List UInt8)
  | bytes content => .ok (dropTrailingNullBytes content)
  | value => dropTrailingNullBytes <$> asciiBytes value.spelled

def toComplexEntry (width : FloatWidth) (value : Value) :
    Except Error (BitVec width.bits × BitVec width.bits) :=
  match value.complex? with
  | some (first, second) => .ok (width.ofFloat first, width.ofFloat second)
  | none => do
      let number ← value.scalarToReal
      return (width.ofFloat number, width.ofFloat 0.0)

def columnOf (type : ElementType) (scalars : List Value) : Except Error (Column Value) :=
  match type with
  | .truth => .ok (.truth (scalars.map scalarIsTrue))
  | .int type => do
      let numbers ← scalars.mapM scalarToWhole
      return .int type (numbers.map type.wrap)
  | .float width => do
      let numbers ← scalars.mapM scalarToReal
      return .float width (numbers.map width.ofFloat)
  | .complex width => do
      let entries ← scalars.mapM (toComplexEntry width)
      return .complex width entries
  | .text length => do
      let entries ← scalars.mapM toTextEntry
      return .text length (entries.map (cutText length))
  | .bytes length => do
      let entries ← scalars.mapM toBytesEntry
      return .bytes length (entries.map fun content => dropTrailingNullBytes (content.take length))
  | .mixed => .ok (.mixed scalars)

/-- Most axes that an array can have. -/
def axisLimit : Nat := 64

/-- Shape and entries of a value taken as an array; without any entry they are real. -/
def toArray : Value → Except Error (List Nat × Column Value)
  | array shape column => .ok (shape, column)
  | value => do
      let shape ← value.shape?
      if axisLimit < shape.length then throw .badValue
      let type :=
        match value.leafTypes with
        | [] => ElementType.float .double
        | first :: rest => rest.foldl ElementType.join first
      let column ← columnOf type value.leaves
      return (shape, column)

/-- The entries of a value taken as an array with all axes laid out in one. -/
def toColumn (value : Value) : Except Error (Column Value) := do
  let (_, column) ← value.toArray
  return column

end Value

end FieldSurvey
