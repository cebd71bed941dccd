import FieldSurvey.Binary.Remainder
import FieldSurvey.Value.Broadcast
import FieldSurvey.Value.Shape

/-!
Arithmetic on values. Plain numbers are exact as long as both sides are whole, and texts, byte
strings and lists are joined and repeated. As soon as one side is an array or has a type, both sides
are stretched to a common shape and brought to a common type, and whole numbers wrap around in it; a
plain number takes on the type of the other side if that is of its kind.
-/

namespace FieldSurvey

/-- The operations on two numbers. -/
inductive Operation where
  | plus
  | minus
  | times
  | divide
  | floorDivide
  | remainder
  | lesser
  | greater
  deriving DecidableEq, Repr

/-- The double nearest to a ratio of whole numbers: enough quotient bits for any rounding, and one
more that tells whether there is a remainder. -/
def ratioToReal (numerator denominator : Nat) : Float :=
  let shift := 1200 + Nat.log2 denominator
  let scaled := numerator * 2 ^ shift
  let sticky := if scaled % denominator = 0 then 0 else 1
  let significand := 2 * (scaled / denominator) + sticky
  (Double.mk (FloatWidth.double.encode (.finite false significand (-(shift : Int) - 1)))).toFloat

/-- A whole number divided by another, rounded once; the result has to be a double. -/
def divideWholes (dividend divisor : Int) : Except Error Float :=
  if divisor = 0 then .error .zeroDivision
  else
    let magnitude := ratioToReal dividend.natAbs divisor.natAbs
    if !Scalar.isFinite magnitude then .error .overflow
    else .ok (if (dividend < 0) = (divisor < 0) then magnitude else -magnitude)

namespace Operation

/-- The operation on doubles; divisions by zero give infinities and undefined numbers. -/
def onReals (operation : Operation) (left right : Float) : Float :=
  match operation with
  | plus => left + right
  | minus => left - right
  | times => left * right
  | divide => left / right
  | floorDivide => (flooredDivision left right).1
  | remainder => (flooredDivision left right).2
  | lesser => Scalar.minimum left right
  | greater => Scalar.maximum left right

/-- The operation on whole numbers that stays among them; by zero quotient and remainder are 0. -/
def onWholes (operation : Operation) (left right : Int) : Int :=
  match operation with
  | plus => left + right
  | minus => left - right
  | times => left * right
  | divide => Int.fdiv left right
  | floorDivide => Int.fdiv left right
  | remainder => if right = 0 then 0 else Int.fmod left right
  | lesser => min left right
  | greater => max left right

/-- Whether the operation needs a second operand other than zero. -/
def isDivision : Operation → Bool
  | divide | floorDivide | remainder => true
  | _ => false

def onNumbers (operation : Operation) (left right : Number) : Except Error Number := do
  if operation.isDivision && !right.isNonzero then throw .zeroDivision
  match left, right with
  | .whole left, .whole right =>
      if operation = .divide then return .real (.ofFloat (← divideWholes left right))
      else return .whole (operation.onWholes left right)
  | left, right =>
      let left ← left.toReal
      let right ← right.toReal
      return .real (.ofFloat (operation.onReals left right))

/-- The operation on truth values, where it stays among them: addition and the greater is "or",
multiplication and the lesser is "and". -/
def onTruths? : Operation → Option (Bool → Bool → Bool)
  | plus | greater => some (· || ·)
  | times | lesser => some (· && ·)
  | _ => none

/-- Whether a complex number stands at or before another: by the real parts, then by the imaginary
ones. -/
def complexAtMost (left right : Float × Float) : Bool :=
  (Scalar.lt left.1 right.1 && !Scalar.isUndefined left.2 && !Scalar.isUndefined right.2) ||
    (Scalar.eq left.1 right.1 && Scalar.le left.2 right.2)

/-- The operation on complex numbers; they have no division here. -/
def onComplexes? (operation : Operation) (left right : Float × Float) : Option (Float × Float) :=
  let isUndefined := Scalar.isUndefined left.1 || Scalar.isUndefined left.2
  match operation with
  | plus => some (left.1 + right.1, left.2 + right.2)
  | minus => some (left.1 - right.1, left.2 - right.2)
  | times =>
      some (left.1 * right.1 - left.2 * right.2, left.1 * right.2 + left.2 * right.1)
  | lesser => some (if isUndefined || complexAtMost left right then left else right)
  | greater => some (if isUndefined || complexAtMost right left then left else right)
  | _ => none

end Operation

namespace Value

def ofNumber : Number → Value
  | .whole number => .whole number
  | .real number => .real number

/-- Longer lists and texts are not made by repetition. -/
def repetitionLimit : Nat := 2 ^ 31

/-- Something repeated, as often as a word says; not at all if the word is negative. -/
def repeated {β : Type} (items : List β) (count : Int) : Except Error (List β) :=
  if !IntType.int64.holds count then .error .overflow
  else if items.isEmpty then .ok []
  else if (repetitionLimit : Int) < count * items.length then .error .overflow
  else .ok (List.replicate count.toNat items).flatten

/-- A text, byte string or list repeated as often as a whole number says. -/
def repeatedValue? (items count : Value) : Option (Except Error Value) :=
  match items, count.toPlace with
  | text content, .ok number =>
      some ((fun characters => text (String.ofList characters)) <$>
        repeated content.toList number)
  | bytes content, .ok number => some (bytes <$> repeated content number)
  | list entries, .ok number => some (list <$> repeated entries number)
  | _, _ => none

/-- The operation on two values that are neither arrays nor typed: numbers, and joining and
repeating where the operands are no numbers. -/
def operatePlain (operation : Operation) (left right : Value) : Except Error Value :=
  match operation, left, right with
  | .plus, text left, text right => .ok (text (left ++ right))
  | .plus, bytes left, bytes right => .ok (bytes (left ++ right))
  | .plus, list left, list right => .ok (list (left ++ right))
  | operation, left, right =>
      match left.number?, right.number? with
      | some left, some right => ofNumber <$> operation.onNumbers left right
      | _, _ =>
          if operation = .times then
            (repeatedValue? left right).getD
              ((repeatedValue? right left).getD (.error .wrongType))
          else .error .wrongType

/-- Texts, byte strings and lists in the order of their characters, bytes and items. -/
def compareItems? (compareEntries : Value → Value → Except Error (Option Ordering)) :
    List Value → List Value → Except Error (Option Ordering)
  | [], [] => .ok (some .eq)
  | [], _ :: _ => .ok (some .lt)
  | _ :: _, [] => .ok (some .gt)
  | left :: leftRest, right :: rightRest => do
      if left.sameKey right then compareItems? compareEntries leftRest rightRest
      else compareEntries left right

/-- How two plain values compare. Numbers compare with numbers and texts with texts; other values
have no order, and undefined numbers have none among the numbers. -/
def comparePlain (left right : Value) : Except Error (Option Ordering) :=
  match left, right with
  | text left, text right => .ok (some (compare left right))
  | bytes left, bytes right => .ok (some (compareOfLessAndEq left right))
  | left, right =>
      match left.number?, right.number? with
      | some left, some right => .ok (left.compare? right)
      | _, _ => .error .wrongType

end Value

namespace Column

def cast (type : ElementType) (column : Column Value) : Except Error (Column Value) :=
  if column.elementType = type then .ok column else Value.columnOf type column.values

/-- The lesser or greater of two entries of a mixed column: the first unless the second stands
strictly before it, or after it. -/
def chooseMixed (operation : Operation) (left right : Value) : Except Error Value := do
  let order ← left.comparePlain right
  let wanted : Ordering := if operation = .lesser then .lt else .gt
  return if order = some .eq || order = some wanted then left else right

def operateMixed (operation : Operation) (left right : Value) : Except Error Value :=
  match operation with
  | .lesser => chooseMixed operation left right
  | .greater => chooseMixed operation left right
  | _ => left.operatePlain operation right

def zipEntries {β γ : Type} (combine : β → β → Except Error γ) (left right : List β) :
    Except Error (List γ) :=
  (left.zip right).mapM fun pair => combine pair.1 pair.2

def zipReals (operation : Operation) (width : FloatWidth) (left right : List Float) :
    Column Value :=
  .float width (List.zipWith (fun left right => width.ofFloat (operation.onReals left right))
    left right)

/-- Whole numbers of a type combined entry by entry; they divide into doubles. -/
def zipWholes (operation : Operation) (type : IntType) (left right : List Int) : Column Value :=
  if operation = .divide then
    zipReals .divide .double (left.map Float.ofInt) (right.map Float.ofInt)
  else .int type (List.zipWith (fun left right => type.wrap (operation.onWholes left right))
    left right)

def truthWholes (entries : List Bool) : List Int := entries.map fun entry => if entry then 1 else 0

def zip (operation : Operation) : Column Value → Column Value → Except Error (Column Value)
  | truth left, truth right =>
      match operation.onTruths? with
      | some onTruths => .ok (.truth (List.zipWith onTruths left right))
      | none =>
          if operation = .minus then .error .wrongType
          else .ok (zipWholes operation .int8 (truthWholes left) (truthWholes right))
  | int leftType left, int rightType right =>
      .ok (zipWholes operation leftType (left.map leftType.read) (right.map rightType.read))
  | float leftWidth left, float rightWidth right =>
      .ok (zipReals operation leftWidth (left.map leftWidth.toFloat) (right.map rightWidth.toFloat))
  | complex leftWidth left, complex rightWidth right => do
      let entries ← (left.zip right).mapM fun (left, right) =>
        match operation.onComplexes? (leftWidth.toFloat left.1, leftWidth.toFloat left.2)
          (rightWidth.toFloat right.1, rightWidth.toFloat right.2) with
        | some result => .ok (leftWidth.ofFloat result.1, leftWidth.ofFloat result.2)
        | none => .error .wrongType
      return .complex leftWidth entries
  | text leftLength left, text rightLength right =>
      if operation = .plus then
        .ok (.text (leftLength + rightLength) (List.zipWith (· ++ ·) left right))
      else .error .wrongType
  | bytes leftLength left, bytes rightLength right =>
      if operation = .plus then
        .ok (.bytes (leftLength + rightLength) (List.zipWith (· ++ ·) left right))
      else .error .wrongType
  | mixed left, mixed right => do
      let entries ← zipEntries (operateMixed operation) left right
      return .mixed entries
  | _, _ => .error .wrongType

end Column

/-- What one side of an operation brings along: entries of a type, or a plain number that takes on
the type of the other side. -/
inductive Operand where
  | stored (shape : List Nat) (column : Column Value)
  | whole (number : Int)
  | real (number : Double)

namespace Value

def toOperand : Value → Except Error Operand
  | whole number => .ok (.whole number)
  | real number => .ok (.real number)
  | truth value => .ok (.stored [] (.truth [value]))
  | typed number => .ok (.stored [] (.ofNumber number))
  | array shape column => .ok (.stored shape column)
  | text content => .ok (.stored [] (.text (max 1 content.length) [content]))
  | bytes content => .ok (.stored [] (.bytes (max 1 content.length) [content]))
  | list items => do
      let (shape, column) ← (list items).toArray
      return .stored shape column
  | other => .ok (.stored [] (.mixed [other]))

end Value

namespace Operand

def wholeColumn (type : IntType) (number : Int) : Except Error (Column Value) :=
  if type.holds number then .ok (.int type [type.wrap number]) else .error .overflow

def realColumn (width : FloatWidth) (number : Int) : Except Error (Column Value) := do
  let nearest ← realOfWhole number
  return .float width [width.ofFloat nearest]

/-- A plain number in a column beside entries of a type; beside whole numbers a real one is a
double, beside truth values a whole one has 64 bits. -/
def beside (type : ElementType) : Operand → Except Error (List Nat × Column Value)
  | stored shape column => .ok (shape, column)
  | whole number => do
      let column ←
        match type with
        | .int type => wholeColumn type number
        | .float width => realColumn width number
        | .complex width => realColumn width number
        | .mixed => .ok (.mixed [.whole number])
        | .truth => wholeColumn .int64 number
        | _ => .error .wrongType
      return ([], column)
  | real number =>
      match type with
      | .float width => .ok ([], .float width [width.ofFloat number.toFloat])
      | .complex width => .ok ([], .float width [width.ofFloat number.toFloat])
      | .mixed => .ok ([], .mixed [.real number])
      | .truth => .ok ([], .float .double [number.bits])
      | .int _ => .ok ([], .float .double [number.bits])
      | _ => .error .wrongType

/-- The type that the other side of an operation looks to; plain numbers among themselves are whole
numbers of 64 bits, or doubles if one is real. -/
def guideType : Operand → Operand → ElementType
  | stored _ column, _ => column.elementType
  | _, stored _ column => column.elementType
  | whole _, whole _ => .int .int64
  | _, _ => .float .double

def columns (left right : Operand) :
    Except Error ((List Nat × Column Value) × (List Nat × Column Value)) := do
  let type := guideType left right
  let left ← left.beside type
  let right ← right.beside type
  return (left, right)

/-- Whether two types have operations in common: numbers with numbers, texts with texts, byte
strings with byte strings, and all with mixed entries. -/
def areAkin : ElementType → ElementType → Bool
  | .mixed, _ => true
  | _, .mixed => true
  | .text _, .text _ => true
  | .bytes _, .bytes _ => true
  | .text _, _ => false
  | _, .text _ => false
  | .bytes _, _ => false
  | _, .bytes _ => false
  | _, _ => true

/-- Two columns in one type. Texts and byte strings keep their lengths. -/
def unify (left right : Column Value) : Except Error (Column Value × Column Value) :=
  if !areAkin left.elementType right.elementType then .error .wrongType
  else
    match left, right with
    | .text _ _, .text _ _ => .ok (left, right)
    | .bytes _ _, .bytes _ _ => .ok (left, right)
    | _, _ => do
        let type := left.elementType.join right.elementType
        let left ← left.cast type
        let right ← right.cast type
        return (left, right)

/-- Both sides as columns of one type and as many entries, and their common shape. -/
def aligned (left right : Operand) :
    Except Error (List Nat × Column Value × Column Value) := do
  let ((leftShape, left), (rightShape, right)) ← left.columns right
  let (left, right) ← unify left right
  match commonShape? leftShape rightShape with
  | some shape =>
      return (shape, left.pick (sourcesOf leftShape shape), right.pick (sourcesOf rightShape shape))
  | none => throw .badValue

end Operand

namespace Value

/-- Entries in a shape; a single entry without axes is no array. -/
def ofEntries (shape : List Nat) (column : Column Value) : Value :=
  match shape, column.values with
  | [], [entry] => entry
  | _, _ => .array shape column

/-- The operation on two values of which at least one is an array or typed. -/
def operateStored (operation : Operation) (left right : Value) : Except Error Value := do
  let left ← left.toOperand
  let right ← right.toOperand
  let (shape, left, right) ← left.aligned right
  let column ← left.zip operation right
  return ofEntries shape column

def isStored : Value → Bool
  | array _ _ => true
  | typed _ => true
  | _ => false

/-- The operation on two values. The lesser and the greater are always taken entry by entry. -/
def operate (operation : Operation) (left right : Value) : Except Error Value :=
  if left.isStored || right.isStored || operation == .lesser || operation == .greater then
    left.operateStored operation right
  else left.operatePlain operation right

end Value

end FieldSurvey
