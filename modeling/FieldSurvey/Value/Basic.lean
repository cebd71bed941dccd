import FieldSurvey.Column

/-!
Values of any kind, as they stand in dataset descriptions, state variables, packed bytes and
arguments. A mapping keeps its entries in order and never holds two equal keys; numbers of
different kinds are equal keys when they are equal numbers.
-/

namespace FieldSurvey

/-- A value. An array has a shape and its entries in the order in which the last index varies
fastest, and a single entry of one is a typed number. With a foreign value nothing can be done; its
type has a name and it has a text. -/
inductive Value where
  | null
  | truth (value : Bool)
  | whole (number : Int)
  | real (number : Double)
  | text (content : String)
  | bytes (content : List UInt8)
  | list (items : List Value)
  | map (entries : List (Value × Value))
  | array (shape : List Nat) (column : Column Value)
  | typed (number : TypedNumber)
  | foreign (typeName spelling : String)

instance : Inhabited Value := ⟨.null⟩

namespace Value

def ofFloat (number : Float) : Value := .real (Double.ofFloat number)

def row (column : Column Value) : Value := .array [column.size] column

def record (entries : List (String × Value)) : Value :=
  .map (entries.map fun entry => (.text entry.1, entry.2))

end Value

/-- How a whole number compares with a stored double, both taken exactly; an undefined number
compares with none. -/
def compareWholeReal? (number : Int) (stored : Double) : Option Ordering :=
  match FloatWidth.double.decode stored.bits with
  | .undefined => none
  | .infinite negative => some (if negative then .gt else .lt)
  | .finite negative significand exponent =>
      let signed : Int := if negative then -(significand : Int) else significand
      some (if 0 ≤ exponent then compare number (signed * 2 ^ exponent.natAbs)
        else compare (number * 2 ^ exponent.natAbs) signed)

/-- How two doubles compare; an undefined one compares with none. -/
def compareReals? (left right : Float) : Option Ordering :=
  match orderRank? left, orderRank? right with
  | some low, some high => some (compare low high)
  | _, _ => none

/-- A number as a caller gave it: whole, of any size, or real. -/
inductive Number where
  | whole (number : Int)
  | real (number : Double)

namespace Number

/-- How two numbers compare exactly. -/
def compare? : Number → Number → Option Ordering
  | whole left, whole right => some (compare left right)
  | whole left, real right => compareWholeReal? left right
  | real left, whole right => (compareWholeReal? right left).map Ordering.swap
  | real left, real right => compareReals? left.toFloat right.toFloat

end Number

namespace TypedNumber

/-- The number without its type; only a complex one is none. -/
def number? : TypedNumber → Option Number
  | truth value => some (.whole (if value then 1 else 0))
  | int type word => some (.whole (type.read word))
  | float .double word => some (.real ⟨word⟩)
  | float width word => some (.real (.ofFloat (width.toFloat word)))
  | complex _ _ => none

end TypedNumber

namespace Value

/-- The number that a value is; truth values are numbers too. -/
def number? : Value → Option Number
  | truth value => some (.whole (if value then 1 else 0))
  | whole number => some (.whole number)
  | real stored => some (.real stored)
  | typed number => number.number?
  | _ => none

def complex? : Value → Option (Float × Float)
  | typed (.complex width parts) => some (width.toFloat parts.1, width.toFloat parts.2)
  | _ => none

/-- Whether two values are the same key: texts and byte strings by content, numbers and truth values
by the number they stand for, and a foreign item, which is a list of its type number and content, by
both. -/
def sameKey (left right : Value) : Bool :=
  match left, right with
  | null, null => true
  | text left, text right => left == right
  | bytes left, bytes right => left == right
  | list [whole tag, bytes content], list [whole otherTag, bytes otherContent] =>
      tag == otherTag && content == otherContent
  | left, right =>
      match left.number?, right.number?, left.complex?, right.complex? with
      | some left, some right, _, _ => left.compare? right == some .eq
      | _, _, some left, some right =>
          compareReals? left.1 right.1 == some .eq && compareReals? left.2 right.2 == some .eq
      | _, _, _, _ => false

/-- Sets the value of a key: an old key keeps its place, a new one goes last. -/
def setEntry (key value : Value) : List (Value × Value) → List (Value × Value)
  | [] => [(key, value)]
  | entry :: rest =>
      if entry.1.sameKey key then (entry.1, value) :: rest else entry :: setEntry key value rest

/-- The mapping that arises when the entries are set one after the other. -/
def mapOf (entries : List (Value × Value)) : Value :=
  .map (entries.foldl (fun built entry => setEntry entry.1 entry.2 built) [])

def find? (key : String) (entries : List (Value × Value)) : Option Value :=
  (entries.find? fun entry => entry.1.sameKey (.text key)).map Prod.snd

/-- Removes a key; nothing happens if it is absent. -/
def eraseEntry (key : Value) (entries : List (Value × Value)) : List (Value × Value) :=
  entries.filter fun entry => !entry.1.sameKey key

/-- Whether a value may be a key of a mapping. -/
def isKey : Value → Bool
  | list _ | map _ | array _ _ => false
  | _ => true

end Value

end FieldSurvey
