import FieldSurvey.Binary.Format

/-!
The numbers that statistics and positions are computed in. Every computation below is written once,
over any type with these operations; the program runs it on doubles, and the same definitions can be
read over exact numbers.
-/

namespace FieldSurvey

/-- Arithmetic and order of a number type that has an undefined element and two infinities. The
order relations are false where an undefined element takes part. Whole numbers that the type does
not hold are too large for it. -/
class Scalar (α : Type) extends Add α, Sub α, Mul α, Div α where
  ofInt : Int → α
  holds : Int → Bool
  undefined : α
  infinity : α
  negativeInfinity : α
  isUndefined : α → Bool
  isFinite : α → Bool
  lt : α → α → Bool
  eq : α → α → Bool
  wholePart : α → Int

namespace Scalar

variable {α : Type} [Scalar α]

def le (left right : α) : Bool := lt left right || eq left right

def lesser (first second : α) : α := if lt second first then second else first

def greater (first second : α) : α := if lt first second then second else first

def minimum (left right : α) : α :=
  if isUndefined left then left else if isUndefined right then right
  else if lt right left then right else left

def maximum (left right : α) : α :=
  if isUndefined left then left else if isUndefined right then right
  else if lt left right then right else left

def zero : α := ofInt 0

def half : α := ofInt 1 / ofInt 2

end Scalar

/-- Doubles: comparison is that of the whole numbers their bits spell, arithmetic rounds to
nearest. -/
instance : Scalar Float where
  ofInt := Float.ofInt
  holds number :=
    match binaryParts (Float.ofInt number) with
    | .finite _ _ _ => true
    | _ => false
  undefined := 0.0 / 0.0
  infinity := 1.0 / 0.0
  negativeInfinity := -1.0 / 0.0
  isUndefined number := (orderRank? number).isNone
  isFinite number :=
    match binaryParts number with
    | .finite _ _ _ => true
    | _ => false
  lt left right :=
    match orderRank? left, orderRank? right with
    | some low, some high => decide (low < high)
    | _, _ => false
  eq left right :=
    match orderRank? left, orderRank? right with
    | some low, some high => decide (low = high)
    | _, _ => false
  wholePart := wholePart

end FieldSurvey
