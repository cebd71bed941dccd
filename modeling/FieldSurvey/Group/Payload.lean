import FieldSurvey.Grid.Axes
import FieldSurvey.Value.Arithmetic
import FieldSurvey.Value.Cast

/-!
What the processes of a group hand to each other, and the reductions that turn what all of them
handed in into one answer.
-/

namespace FieldSurvey

/-- One process's contribution to an exchange. Real numbers are of the type that a statistic is
computed in. -/
inductive Payload (α : Type) where
  | real (number : α)
  | whole (number : Int)
  | truth (holds : Bool)
  | counts (numbers : List Int)
  | candidate (number : α) (present : Bool)
  | place (position : Position α) (domain : Int)
  | value (content : Value)

/-- The reductions. -/
inductive Reduction where
  | sum
  | least
  | greatest
  | any
  | all
  deriving DecidableEq, Repr

namespace Reduction

def name : Reduction → String
  | sum => "sum"
  | least => "min"
  | greatest => "max"
  | any => "lor"
  | all => "land"

def every : List Reduction := [sum, least, greatest, any, all]

def ofValue (value : Value) : Except Error Reduction :=
  match every.find? fun reduction => value.sameKey (.text reduction.name) with
  | some reduction => .ok reduction
  | none => .error (.unsupportedReduction value.putInto)

end Reduction

/-- The sums of counts at equal places; a single count is added to all others. -/
def addCounts (left right : List Int) : Except Error (List Int) :=
  if left.length = right.length then .ok (List.zipWith (· + ·) left right)
  else
    match left, right with
    | [count], others => .ok (others.map (count + ·))
    | others, [count] => .ok (others.map (· + count))
    | _, _ => .error .badValue

namespace Payload

variable {α : Type} [Scalar α]

def add : Payload α → Payload α → Except Error (Payload α)
  | real left, real right => .ok (.real (left + right))
  | whole left, whole right => .ok (.whole (left + right))
  | counts left, counts right => do
      let sums ← addCounts left right
      return .counts sums
  | value left, value right => do
      let sum ← left.operate .plus right
      return .value sum
  | _, _ => .error .wrongType

def minimum : Payload α → Payload α → Except Error (Payload α)
  | real left, real right => .ok (.real (Scalar.minimum left right))
  | whole left, whole right => .ok (.whole (min left right))
  | value left, value right => do
      let chosen ← left.operate .lesser right
      return .value chosen
  | _, _ => .error .wrongType

def maximum : Payload α → Payload α → Except Error (Payload α)
  | real left, real right => .ok (.real (Scalar.maximum left right))
  | whole left, whole right => .ok (.whole (max left right))
  | value left, value right => do
      let chosen ← left.operate .greater right
      return .value chosen
  | _, _ => .error .wrongType

def isTrue : Payload α → Except Error Bool
  | real number => .ok (!Scalar.eq number Scalar.zero)
  | whole number => .ok (number != 0)
  | truth holds => .ok holds
  | counts numbers => .ok (!numbers.isEmpty)
  | candidate _ _ => .ok true
  | place _ _ => .ok true
  | value content => content.isTrue

end Payload

def foldFirst {β : Type} (step : β → β → Except Error β) : List β → Except Error β
  | [] => .error .wrongType
  | first :: rest => rest.foldlM step first

/-- Whether a test holds of some item; items after the first such one are not looked at. -/
def anyHolds {β : Type} (test : β → Except Error Bool) : List β → Except Error Bool
  | [] => .ok false
  | item :: rest => do if ← test item then return true else anyHolds test rest

/-- Whether a test holds of all items; items after the first exception are not looked at. -/
def allHold {β : Type} (test : β → Except Error Bool) : List β → Except Error Bool
  | [] => .ok true
  | item :: rest => do if ← test item then allHold test rest else return false

section

variable {α : Type} [Scalar α]

def combine (reduction : Reduction) (contributions : List (Payload α)) :
    Except Error (Payload α) :=
  match reduction with
  | .sum => foldFirst Payload.add contributions
  | .least => foldFirst Payload.minimum contributions
  | .greatest => foldFirst Payload.maximum contributions
  | .any => do return .truth (← anyHolds Payload.isTrue contributions)
  | .all => do return .truth (← allHold Payload.isTrue contributions)

def join (reduction : Reduction) (left right : Payload α) : Except Error (Payload α) :=
  match reduction with
  | .sum => left.add right
  | .least => left.minimum right
  | .greatest => left.maximum right
  | .any => do
      if ← left.isTrue then return .truth true
      return .truth (← right.isTrue)
  | .all => do
      if ← left.isTrue then return .truth (← right.isTrue)
      return .truth false

/-- How a message-passing library reduces: joining from process 0 on, so that a single contribution
comes back untouched. -/
def reduceInOrder (reduction : Reduction) (contributions : List (Payload α)) :
    Except Error (Payload α) :=
  foldFirst (join reduction) contributions

/-- What a message-passing library hands back to a process: one that contributed an array gets an
array like its own, with at least one axis, and the result has to fit into it. -/
def Payload.delivered (own result : Payload α) : Except Error (Payload α) :=
  match own, result with
  | .counts own, .counts [total] => .ok (.counts (List.replicate own.length total))
  | .counts own, .counts totals =>
      if own.length = totals.length then .ok (.counts totals) else .error .badValue
  | .value (.array shape column), result => do
      let shape := if shape.isEmpty then [1] else shape
      let content : Value :=
        match result with
        | .truth holds => .truth holds
        | .value content => content
        | _ => .null
      let filled ← content.fill shape column.elementType
      return .value filled
  | _, result => .ok result

end

end FieldSurvey
