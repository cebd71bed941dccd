import FieldSurvey.Value.Broadcast
import FieldSurvey.Value.Shape

/-!
Entries put into a place of another type: whole numbers wrap around, real ones lose their fraction,
complex ones their imaginary part, texts are cut off. What is read from a text or a mixed entry has
to fit.
-/

namespace FieldSurvey

namespace IntType

/-- The type whose words hold a real number on its way into a whole-number type: 32 bits for the
shorter types, 64 bits for the others. -/
def landing : IntType → IntType
  | int8 | int16 | int32 | uint8 | uint16 => int32
  | _ => int64

/-- The word of a double cut to its whole part; what does not fit becomes the least word. Numbers
from half the range on have a place in the longest type without a sign. -/
def ofReal (type : IntType) (number : Float) : BitVec type.bits :=
  let landing := type.landing
  let whole := wholePart number
  if Scalar.isFinite number && (landing.holds whole || (type == .uint64 && type.holds whole)) then
    type.wrap whole
  else type.wrap (-(2 ^ (landing.bits - 1)))

def ofWhole (type : IntType) (number : Int) : Except Error (BitVec type.bits) :=
  if type.holds number then .ok (type.wrap number) else .error .overflow

def ofEntry (type : IntType) (entry : Value) : Except Error (BitVec type.bits) :=
  match entry with
  | .typed (.truth value) => .ok (type.wrap (if value then 1 else 0))
  | .typed (.int own word) => .ok (type.wrap (own.read word))
  | .typed (.float width word) => .ok (type.ofReal (width.toFloat word))
  | .typed (.complex width parts) => .ok (type.ofReal (width.toFloat parts.1))
  | other => do
      let number ← other.toWhole
      type.ofWhole number

end IntType

namespace Column

def castInto (type : ElementType) (column : Column Value) : Except Error (Column Value) :=
  if column.elementType = type then .ok column
  else
    match type with
    | .int type => do
        let words ← column.values.mapM type.ofEntry
        return .int type words
    | other => Value.columnOf other column.values

end Column

namespace Value

/-- Drops axes of length 1 in front until no more than `count` are left. -/
def dropLeadingAxes (count : Nat) : List Nat → List Nat
  | 1 :: rest => if count ≤ rest.length then dropLeadingAxes count rest else 1 :: rest
  | shape => shape

/-- An array of a shape and type filled with the entries of a value, which are stretched to the
shape if they can be. -/
def fill (shape : List Nat) (type : ElementType) (content : Value) : Except Error Value := do
  let (contentShape, column) ← content.toArray
  let contentShape := dropLeadingAxes shape.length contentShape
  if commonShape? contentShape shape = some shape then
    let column ← (column.pick (sourcesOf contentShape shape)).castInto type
    return .array shape column
  else throw .badValue

end Value

end FieldSurvey
