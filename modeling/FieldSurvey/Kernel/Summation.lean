import FieldSurvey.Kernel.Entries

/-!
The sum of a list of numbers in a fixed blocked order: up to 128 numbers are added in eight running
sums, longer lists are halved. On exact numbers the order does not matter; on doubles it decides how
the rounding errors grow.
-/

namespace FieldSurvey

variable {α : Type} [Scalar α]

def runningSum : List α → α
  | [] => Scalar.zero
  | first :: rest => rest.foldl (· + ·) first

/-- Eight sums that run side by side. -/
structure EightSums (α : Type) where
  s0 : α
  s1 : α
  s2 : α
  s3 : α
  s4 : α
  s5 : α
  s6 : α
  s7 : α

namespace EightSums

def total (sums : EightSums α) : α :=
  ((sums.s0 + sums.s1) + (sums.s2 + sums.s3)) + ((sums.s4 + sums.s5) + (sums.s6 + sums.s7))

/-- Adds the numbers in blocks of eight; those left over are added to the total one by one. -/
def absorb (sums : EightSums α) : List α → α
  | x0 :: x1 :: x2 :: x3 :: x4 :: x5 :: x6 :: x7 :: rest =>
      absorb ⟨sums.s0 + x0, sums.s1 + x1, sums.s2 + x2, sums.s3 + x3, sums.s4 + x4, sums.s5 + x5,
        sums.s6 + x6, sums.s7 + x7⟩ rest
  | leftover => leftover.foldl (· + ·) sums.total

end EightSums

def blockSum : List α → α
  | x0 :: x1 :: x2 :: x3 :: x4 :: x5 :: x6 :: x7 :: rest =>
      EightSums.absorb ⟨x0, x1, x2, x3, x4, x5, x6, x7⟩ rest
  | few => runningSum few

/-- The sum of a list of any length: a long one is cut near its middle, at a multiple of eight. -/
def halvingSum (numbers : List α) : α :=
  if _short : numbers.length ≤ 128 then blockSum numbers
  else
    let middle := numbers.length / 2 - numbers.length / 2 % 8
    halvingSum (numbers.take middle) + halvingSum (numbers.drop middle)
termination_by numbers.length
decreasing_by
  all_goals simp only [List.length_take, List.length_drop]; omega

def blockedSum (numbers : List α) : α := Scalar.zero + halvingSum numbers

namespace Entries

/-- Sum and count of the entries that are not undefined; texts have no sum. -/
def sum : Entries α → Except Error (α × Nat)
  | reals entries =>
      let defined := entries.filter fun number => !Scalar.isUndefined number
      if defined.isEmpty then .ok (Scalar.zero, 0) else .ok (blockedSum defined, defined.length)
  | texts entries => if entries.isEmpty then .ok (Scalar.zero, 0) else .error .wrongType
  | entries =>
      if entries.count = 0 then .ok (Scalar.zero, 0)
      else do
        let numbers ← entries.toReals
        return (blockedSum numbers, entries.count)

end Entries

end FieldSurvey
