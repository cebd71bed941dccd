import FieldSurvey.Value.Arithmetic

/-!
Comparisons of values. Two arrays are compared entry by entry; the answer can only be used if that
leaves a single one. What cannot be equal, such as a number and a text, is unequal, but has no
order.
-/

namespace FieldSurvey

/-- The comparisons. -/
inductive Relation where
  | equal
  | less
  | atMost
  | greater
  | atLeast
  deriving DecidableEq, Repr

namespace Relation

def holds (relation : Relation) (order : Option Ordering) : Bool :=
  match relation, order with
  | equal, some .eq => true
  | less, some .lt => true
  | atMost, some .lt => true
  | atMost, some .eq => true
  | greater, some .gt => true
  | atLeast, some .gt => true
  | atLeast, some .eq => true
  | _, _ => false

end Relation

namespace Column

/-- How two complex numbers compare: by the real parts, then by the imaginary ones. -/
def compareComplexes? (left right : Float × Float) : Option Ordering :=
  match compareReals? left.1 right.1, compareReals? left.2 right.2 with
  | some .eq, order => order
  | some order, some _ => some order
  | _, _ => none

/-- Compares two columns of one kind and length entry by entry; entries of mixed columns that have
no order are at least equal or not. -/
def compareEntries (relation : Relation) :
    Column Value → Column Value → Except Error (List Bool)
  | truth left, truth right =>
      .ok (List.zipWith (fun left right => relation.holds (some (compare left right)))
        (truthWholes left) (truthWholes right))
  | int leftType left, int rightType right =>
      .ok (List.zipWith (fun left right =>
        relation.holds (some (compare (leftType.read left) (rightType.read right)))) left right)
  | float leftWidth left, float rightWidth right =>
      .ok (List.zipWith (fun left right =>
        relation.holds (compareReals? (leftWidth.toFloat left) (rightWidth.toFloat right)))
        left right)
  | complex leftWidth left, complex rightWidth right =>
      .ok (List.zipWith (fun left right =>
        relation.holds (compareComplexes? (leftWidth.toFloat left.1, leftWidth.toFloat left.2)
          (rightWidth.toFloat right.1, rightWidth.toFloat right.2))) left right)
  | text _ left, text _ right =>
      .ok (List.zipWith (fun left right => relation.holds (some (compare left right))) left right)
  | bytes _ left, bytes _ right =>
      .ok (List.zipWith (fun left right => relation.holds (some (compareOfLessAndEq left right)))
        left right)
  | mixed left, mixed right =>
      zipEntries (fun left right =>
        if relation = .equal then .ok (left.sameKey right)
        else do return relation.holds (← left.comparePlain right)) left right
  | _, _ => .error .wrongType

end Column

namespace Operand

/-- A plain number that the type of the other side cannot hold, to be compared as it is. -/
def widened (type : ElementType) : Operand → Operand
  | whole number =>
      match type with
      | .float _ => .whole number
      | .complex _ => .whole number
      | _ => .stored [] (.mixed [.whole number])
  | real number =>
      match type with
      | .text _ => .stored [] (.mixed [.real number])
      | .bytes _ => .stored [] (.mixed [.real number])
      | _ => .real number
  | other => other

/-- Signed and unsigned words of 64 bits have no common whole-number type; as plain numbers they
compare exactly. -/
def exact (left right : Column Value) : Column Value × Column Value :=
  match left, right with
  | .int _ _, .int _ _ => (.mixed left.values, .mixed right.values)
  | _, _ => (left, right)

end Operand

namespace Value

/-- Compares two values of which at least one is an array or typed; the answers stand in the common
shape. -/
def compareStored (relation : Relation) (left right : Value) :
    Except Error (List Nat × List Bool) := do
  let left ← left.toOperand
  let right ← right.toOperand
  let type := left.guideType right
  let ((leftShape, left), (rightShape, right)) ← (left.widened type).columns (right.widened type)
  let (left, right) := Operand.exact left right
  match commonShape? leftShape rightShape with
  | none => throw .badValue
  | some shape =>
      let left := left.pick (sourcesOf leftShape shape)
      let right := right.pick (sourcesOf rightShape shape)
      match Operand.unify left right with
      | .ok (left, right) => return (shape, ← left.compareEntries relation right)
      | .error cause =>
          if relation = .equal then return (shape, List.replicate (sizeOfShape shape) false)
          else throw cause

/-- Whether all entries of a list are equal to those of another at the same places. -/
def sameItems (left right : List Value) : Bool :=
  left.length == right.length && (left.zip right).all fun pair => pair.1.sameKey pair.2

/-- Whether two values that are neither arrays nor typed are equal. -/
def equalPlain (left right : Value) : Bool :=
  match left, right with
  | list left, list right => sameItems left right
  | left, right => left.sameKey right

def holds (relation : Relation) (left right : Value) : Except Error Bool :=
  if left.isStored || right.isStored then do
    match ← left.compareStored relation right with
    | (_, [answer]) => return answer
    | _ => throw .badValue
  else
    match relation with
    | .equal => .ok (left.equalPlain right)
    | _ => do
        let order ← match left, right with
          | list left, list right => compareItems? comparePlain left right
          | left, right => left.comparePlain right
        return relation.holds order

def equals (left right : Value) : Except Error Bool := left.holds .equal right

def isPartOf (part whole : List Char) : Bool :=
  match whole with
  | [] => part.isEmpty
  | _ :: rest => part.isPrefixOf whole || isPartOf part rest

/-- Whether some item of a list is equal to a value; items after the first such one are not looked
at. -/
def anyEquals (wanted : Value) : List Value → Except Error Bool
  | [] => .ok false
  | item :: rest => do if ← item.equals wanted then return true else anyEquals wanted rest

/-- Whether a text is a key of a mapping, an item of a list, an entry of an array or a part of a
text. -/
def contains (key : String) : Value → Except Error Bool
  | map entries => .ok (find? key entries).isSome
  | list items => anyEquals (.text key) items
  | text content => .ok (isPartOf key.toList content.toList)
  | array shape column => do
      let (_, answers) ← (array shape column).compareStored .equal (.text key)
      return answers.contains true
  | _ => .error .wrongType

end Value

end FieldSurvey
