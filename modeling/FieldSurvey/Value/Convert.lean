import FieldSurvey.Decimal.Read
import FieldSurvey.Error
import FieldSurvey.Scalar
import FieldSurvey.Value.Basic

/-!
Reading a value as a whole number, a real number or a truth value, and looking into containers. Of
the arrays only one without axes is a number; one with a single entry is as true as that entry.
-/

namespace FieldSurvey

/-- The entries of a column as values; numbers keep their type. -/
def Column.values : Column Value → List Value
  | .truth entries => entries.map fun entry => .typed (.truth entry)
  | .int type entries => entries.map fun word => .typed (.int type word)
  | .float width entries => entries.map fun word => .typed (.float width word)
  | .complex width entries => entries.map fun parts => .typed (.complex width parts)
  | .text _ entries => entries.map .text
  | .bytes _ entries => entries.map .bytes
  | .mixed entries => entries

/-- The whole part of a double; only finite numbers have one. -/
def wholeOfReal (number : Float) : Except Error Int :=
  match binaryParts number with
  | .undefined => .error .badValue
  | .infinite _ => .error .overflow
  | .finite _ _ _ => .ok (wholePart number)

/-- The nearest double of a whole number, if it lies in their range. -/
def realOfWhole (number : Int) : Except Error Float :=
  if Scalar.holds Float number then .ok (Float.ofInt number) else .error .overflow

def orBadValue {β : Type} : Option β → Except Error β
  | some result => .ok result
  | none => .error .badValue

namespace Number

def toWhole : Number → Except Error Int
  | whole number => .ok number
  | real stored => wholeOfReal stored.toFloat

def toReal : Number → Except Error Float
  | whole number => realOfWhole number
  | real stored => .ok stored.toFloat

/-- Whether a number is not zero; an undefined one is not. -/
def isNonzero : Number → Bool
  | whole number => number != 0
  | real stored => !Scalar.eq stored.toFloat 0.0

end Number

namespace TypedNumber

/-- The real number; of a complex one that is the real part. -/
def toReal : TypedNumber → Except Error Float
  | truth value => .ok (if value then 1.0 else 0.0)
  | int type word => .ok (Float.ofInt (type.read word))
  | float width word => .ok (width.toFloat word)
  | complex width parts => .ok (width.toFloat parts.1)

/-- The whole part; of a complex number that of the real part. -/
def toWhole : TypedNumber → Except Error Int
  | truth value => .ok (if value then 1 else 0)
  | int type word => .ok (type.read word)
  | float width word => wholeOfReal (width.toFloat word)
  | complex width parts => wholeOfReal (width.toFloat parts.1)

/-- Whether a number is not zero; a complex one is zero if both of its parts are. -/
def isNonzero : TypedNumber → Bool
  | truth value => value
  | int _ word => word.toNat != 0
  | float width word => !Scalar.eq (width.toFloat word) 0.0
  | complex width parts =>
      !Scalar.eq (width.toFloat parts.1) 0.0 || !Scalar.eq (width.toFloat parts.2) 0.0

end TypedNumber

namespace Value

/-- Reads a value that is no array as a whole number: reals lose their fraction. -/
def scalarToWhole : Value → Except Error Int
  | truth value => .ok (if value then 1 else 0)
  | whole number => .ok number
  | real stored => wholeOfReal stored.toFloat
  | text content => orBadValue (readWhole? content)
  | bytes content => orBadValue (readWholeBytes? content)
  | typed number => number.toWhole
  | _ => .error .wrongType

def scalarToDouble : Value → Except Error Double
  | truth value => .ok (.ofFloat (if value then 1.0 else 0.0))
  | whole number => Double.ofFloat <$> realOfWhole number
  | real stored => .ok stored
  | text content => orBadValue (readDouble? content)
  | bytes content => orBadValue (readDoubleBytes? content)
  | typed number => Double.ofFloat <$> number.toReal
  | _ => .error .wrongType

def scalarToReal (value : Value) : Except Error Float := Double.toFloat <$> value.scalarToDouble

/-- The entry of an array without axes; other values stand for themselves. An entry that is a
complex number is no number of any other kind. -/
def soleEntry : Value → Except Error Value
  | array [] column =>
      match column.values with
      | [.typed (.complex _ _)] => .error .wrongType
      | [entry] => .ok entry
      | _ => .error .wrongType
  | array _ _ => .error .wrongType
  | value => .ok value

def toWhole (value : Value) : Except Error Int := do
  let entry ← value.soleEntry
  entry.scalarToWhole

def toDouble (value : Value) : Except Error Double := do
  let entry ← value.soleEntry
  entry.scalarToDouble

def toReal (value : Value) : Except Error Float := Double.toFloat <$> value.toDouble

/-- Whether a value that is no array counts as true: nothing, zero and the empty do not. -/
def scalarIsTrue : Value → Bool
  | null => false
  | truth value => value
  | whole number => number != 0
  | real stored => !Scalar.eq stored.toFloat 0.0
  | text content => !content.isEmpty
  | bytes content => !content.isEmpty
  | list items => !items.isEmpty
  | map entries => !entries.isEmpty
  | typed number => number.isNonzero
  | _ => true

/-- Whether a value counts as true; of an array that cannot be said unless it has one entry. -/
def isTrue : Value → Except Error Bool
  | array _ column =>
      match column.values with
      | [entry] => .ok entry.scalarIsTrue
      | _ => .error .badValue
  | value => .ok value.scalarIsTrue

/-- A value that a count or a place can be given by: whole numbers and truth values, also as the
entry of an array without axes. -/
def toPlace : Value → Except Error Int
  | whole number => .ok number
  | truth value => .ok (if value then 1 else 0)
  | typed (.int type word) => .ok (type.read word)
  | array [] (.int type [word]) => .ok (type.read word)
  | _ => .error .wrongType

/-- The entries of a mapping; nothing else has them. -/
def entries? : Value → Except Error (List (Value × Value))
  | map entries => .ok entries
  | _ => .error .noAttribute

def item (key : String) : Value → Except Error Value
  | map entries =>
      match find? key entries with
      | some value => .ok value
      | none => .error .missingKey
  | array _ _ => .error .badSubscript
  | typed _ => .error .badSubscript
  | _ => .error .wrongType

/-- The items of something that can be gone through: a mapping yields its keys, a text its
characters, an array its rows. -/
def items? : Value → Except Error (List Value)
  | list items => .ok items
  | map entries => .ok (entries.map Prod.fst)
  | text content => .ok (content.toList.map fun character => .text (String.singleton character))
  | bytes content => .ok (content.map fun byte => .whole byte.toNat)
  | array [] _ => .error .wrongType
  | array [_] column => .ok column.values
  | array (rows :: inner) column =>
      let width := inner.foldl (· * ·) 1
      .ok ((List.range rows).map fun row => .array inner (column.slice (row * width) width))
  | _ => .error .wrongType

def pairsToEntries (items : List Value) : Except Error (List (Value × Value)) := do
  let pairs ← items.mapM fun item => do
    match ← item.items? with
    | [key, value] => if key.isKey then return (key, value) else throw .wrongType
    | _ => throw .badValue
  match mapOf pairs with
  | map entries => return entries
  | _ => return []

def toEntries : Value → Except Error (List (Value × Value))
  | map entries => .ok entries
  | value => do
      let items ← value.items?
      pairsToEntries items

end Value

end FieldSurvey
