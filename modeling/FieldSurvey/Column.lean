import FieldSurvey.Binary.Format

/-!
Typed columns: lists of entries that all have one element type. Numbers are kept as the words that
store them, so that nothing is lost in a column; the words are read as whole numbers or doubles
where a computation needs them.
-/

namespace FieldSurvey

/-- Whole-number types, by sign and width. -/
inductive IntType where
  | int8
  | int16
  | int32
  | int64
  | uint8
  | uint16
  | uint32
  | uint64
  deriving DecidableEq, Repr

namespace IntType

def bits : IntType → Nat
  | int8 | uint8 => 8
  | int16 | uint16 => 16
  | int32 | uint32 => 32
  | int64 | uint64 => 64

def isSigned : IntType → Bool
  | int8 | int16 | int32 | int64 => true
  | _ => false

def name : IntType → String
  | int8 => "int8"
  | int16 => "int16"
  | int32 => "int32"
  | int64 => "int64"
  | uint8 => "uint8"
  | uint16 => "uint16"
  | uint32 => "uint32"
  | uint64 => "uint64"

def read (type : IntType) (word : BitVec type.bits) : Int :=
  if type.isSigned then word.toInt else word.toNat

def wrap (type : IntType) (number : Int) : BitVec type.bits := BitVec.ofInt type.bits number

def holds (type : IntType) (number : Int) : Bool := type.read (type.wrap number) == number

end IntType

namespace FloatWidth

def name : FloatWidth → String
  | half => "float16"
  | single => "float32"
  | double => "float64"

/-- The name of the type of complex numbers whose parts have this width. -/
def complexName : FloatWidth → String
  | half => "complex32"
  | single => "complex64"
  | double => "complex128"

end FloatWidth

/-- The types of entries. A text or byte type has a length that no entry exceeds; mixed columns hold
values of any kind. -/
inductive ElementType where
  | truth
  | int (type : IntType)
  | float (width : FloatWidth)
  | complex (width : FloatWidth)
  | text (length : Nat)
  | bytes (length : Nat)
  | mixed
  deriving DecidableEq, Repr

/-- A text or byte type is named for its size in bits, a character taking 32 of them. -/
def ElementType.name : ElementType → String
  | truth => "bool"
  | int type => type.name
  | float width => width.name
  | complex width => width.complexName
  | text length => "str" ++ toString (32 * length)
  | bytes length => "bytes" ++ toString (8 * length)
  | mixed => "object"

/-- One number together with its type. -/
inductive TypedNumber where
  | truth (value : Bool)
  | int (type : IntType) (word : BitVec type.bits)
  | float (width : FloatWidth) (word : BitVec width.bits)
  | complex (width : FloatWidth) (parts : BitVec width.bits × BitVec width.bits)

/-- A list of entries of one type; `ω` is the type of the values in a mixed column. -/
inductive Column (ω : Type) where
  | truth (entries : List Bool)
  | int (type : IntType) (entries : List (BitVec type.bits))
  | float (width : FloatWidth) (entries : List (BitVec width.bits))
  | complex (width : FloatWidth) (entries : List (BitVec width.bits × BitVec width.bits))
  | text (length : Nat) (entries : List String)
  | bytes (length : Nat) (entries : List (List UInt8))
  | mixed (entries : List ω)

namespace Column

variable {ω : Type}

def elementType : Column ω → ElementType
  | truth _ => .truth
  | int type _ => .int type
  | float width _ => .float width
  | complex width _ => .complex width
  | text length _ => .text length
  | bytes length _ => .bytes length
  | mixed _ => .mixed

def size : Column ω → Nat
  | truth entries => entries.length
  | int _ entries => entries.length
  | float _ entries => entries.length
  | complex _ entries => entries.length
  | text _ entries => entries.length
  | bytes _ entries => entries.length
  | mixed entries => entries.length

def typeName (column : Column ω) : String := column.elementType.name

def rearrange (change : {β : Type} → List β → List β) : Column ω → Column ω
  | truth entries => .truth (change entries)
  | int type entries => .int type (change entries)
  | float width entries => .float width (change entries)
  | complex width entries => .complex width (change entries)
  | text length entries => .text length (change entries)
  | bytes length entries => .bytes length (change entries)
  | mixed entries => .mixed (change entries)

def slice (start count : Nat) (column : Column ω) : Column ω :=
  column.rearrange fun entries => (entries.drop start).take count

def pick (places : List Nat) (column : Column ω) : Column ω :=
  column.rearrange fun entries =>
    let cells := entries.toArray
    places.filterMap fun place => cells[place]?

def ofNumber : TypedNumber → Column ω
  | .truth value => .truth [value]
  | .int type word => .int type [word]
  | .float width word => .float width [word]
  | .complex width parts => .complex width [parts]

def ofFloats (numbers : List Float) : Column ω :=
  .float .double (numbers.map fun number => FloatWidth.double.ofFloat number)

def ofWholes (numbers : List Int) : Column ω :=
  .int .int64 (numbers.map IntType.int64.wrap)

end Column

end FieldSurvey
