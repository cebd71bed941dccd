import FieldSurvey.Error

/-!
Stretching arrays to a common shape. Shapes are aligned at their last axes; an axis of length 1, or
one that is missing, takes on the length that the other shape has there.
-/

namespace FieldSurvey

def sizeOfShape (shape : List Nat) : Nat := shape.foldl (· * ·) 1

def commonLength? (left right : Nat) : Option Nat :=
  if left = right then some left
  else if left = 1 then some right
  else if right = 1 then some left
  else none

/-- The shape that two shapes stretch to, all three with the last axis first. -/
def commonReversed? : List Nat → List Nat → Option (List Nat)
  | [], right => some right
  | left, [] => some left
  | left :: leftRest, right :: rightRest => do
      let length ← commonLength? left right
      let rest ← commonReversed? leftRest rightRest
      return length :: rest

def commonShape? (left right : List Nat) : Option (List Nat) :=
  (commonReversed? left.reverse right.reverse).map List.reverse

/-- Where the entries of a stretched array come from, for two shapes with equally many axes. -/
def sourcesWithin : List Nat → List Nat → List Nat
  | own :: ownRest, wide :: wideRest =>
      let size := sizeOfShape ownRest
      let within := sourcesWithin ownRest wideRest
      (List.range wide).flatMap fun place =>
        within.map ((if own = 1 then 0 else place * size) + ·)
  | _, _ => [0]

/-- Where the entries of an array of a shape come from when it is stretched to a wider shape. -/
def sourcesOf (shape wide : List Nat) : List Nat :=
  sourcesWithin (List.replicate (wide.length - shape.length) 1 ++ shape) wide

end FieldSurvey
