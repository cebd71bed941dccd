import Mathlib.Data.Rat.Cast.Order
import Mathlib.Data.Rat.Floor
import Mathlib.Tactic.NormNum
import Mathlib.Tactic.Ring
import FieldSurvey.Scalar

/-!
Exact numbers: rationals together with two infinities and an undefined element, which behave as
those of doubles do. Whatever is defined over any numbers can be read over these, and then nothing
is rounded.
-/

namespace FieldSurvey

inductive ExactNumber where
  | undefined
  | infinite (negative : Bool)
  | finite (number : ℚ)
  deriving DecidableEq

namespace ExactNumber

def negate : ExactNumber → ExactNumber
  | undefined => undefined
  | infinite negative => infinite !negative
  | finite number => finite (-number)

/-- Infinities of opposite signs have no sum. -/
def add : ExactNumber → ExactNumber → ExactNumber
  | finite left, finite right => finite (left + right)
  | infinite negative, finite _ => infinite negative
  | finite _, infinite negative => infinite negative
  | infinite negative, infinite other => if negative = other then infinite negative else undefined
  | _, _ => undefined

def isNegative : ExactNumber → Bool
  | undefined => false
  | infinite negative => negative
  | finite number => number < 0

/-- Zero and infinity have no product. -/
def multiply : ExactNumber → ExactNumber → ExactNumber
  | finite left, finite right => finite (left * right)
  | undefined, _ => undefined
  | _, undefined => undefined
  | left, right =>
      if left = finite 0 ∨ right = finite 0 then undefined
      else infinite (left.isNegative ^^ right.isNegative)

/-- A quotient by zero is infinite, unless zero is divided. -/
def divide : ExactNumber → ExactNumber → ExactNumber
  | finite left, finite right =>
      if right ≠ 0 then finite (left / right)
      else if left = 0 then undefined else infinite (left < 0)
  | finite _, infinite _ => finite 0
  | infinite negative, finite right => infinite (negative ^^ right < 0)
  | _, _ => undefined

def isBelow : ExactNumber → ExactNumber → Bool
  | finite left, finite right => left < right
  | infinite negative, finite _ => negative
  | finite _, infinite negative => !negative
  | infinite negative, infinite other => negative && !other
  | _, _ => false

/-- The whole part, toward zero; a number without one has whole part 0. -/
def wholePart : ExactNumber → Int
  | finite number => number.num.tdiv number.den
  | _ => 0

instance : Scalar ExactNumber where
  add := add
  sub left right := left.add right.negate
  mul := multiply
  div := divide
  ofInt number := finite number
  holds _ := true
  undefined := undefined
  infinity := infinite false
  negativeInfinity := infinite true
  isUndefined number := number = undefined
  isFinite
    | finite _ => true
    | _ => false
  lt := isBelow
  eq left right := left ≠ undefined && left = right
  wholePart := wholePart

@[simp] theorem finite_add (left right : ℚ) :
    finite left + finite right = finite (left + right) := rfl

@[simp] theorem finite_mul (left right : ℚ) :
    finite left * finite right = finite (left * right) := rfl

theorem finite_div (left : ℚ) {right : ℚ} (isNonzero : right ≠ 0) :
    finite left / finite right = finite (left / right) :=
  if_pos isNonzero

@[simp] theorem ofInt_eq (number : Int) : (Scalar.ofInt number : ExactNumber) = finite number := rfl

@[simp] theorem finite_sub (left right : ℚ) :
    finite left - finite right = finite (left - right) :=
  congrArg finite (sub_eq_add_neg left right).symm

@[simp] theorem zero_eq : (Scalar.zero : ExactNumber) = finite 0 := rfl

@[simp] theorem half_eq : (Scalar.half : ExactNumber) = finite (1 / 2) :=
  finite_div 1 two_ne_zero

theorem map_finite_inj {left right : List ℚ} : left.map finite = right.map finite ↔ left = right :=
  (List.map_injective_iff.mpr fun _ _ => finite.inj).eq_iff

section Order

@[simp] theorem isUndefined_finite (number : ℚ) : Scalar.isUndefined (finite number) = false := rfl

@[simp] theorem isUndefined_undefined : Scalar.isUndefined undefined = true := rfl

@[simp] theorem isFinite_finite (number : ℚ) : Scalar.isFinite (finite number) = true := rfl

@[simp] theorem lt_finite (left right : ℚ) :
    Scalar.lt (finite left) (finite right) = decide (left < right) := rfl

@[simp] theorem eq_finite (left right : ℚ) :
    Scalar.eq (finite left) (finite right) = decide (left = right) := by
  have same : (finite left = finite right) ↔ left = right := by rw [finite.injEq]
  exact decide_eq_decide.mpr same

@[simp] theorem le_finite (left right : ℚ) :
    Scalar.le (finite left) (finite right) = decide (left ≤ right) := by
  simp only [Scalar.le, lt_finite, eq_finite, le_iff_lt_or_eq, Bool.decide_or]

section Beyond

variable (number : ℚ) (negative : Bool)

@[simp] theorem lt_infinite : Scalar.lt (finite number) (infinite negative) = !negative := rfl

@[simp] theorem infinite_lt : Scalar.lt (infinite negative) (finite number) = negative := rfl

@[simp] theorem le_infinite : Scalar.le (finite number) (infinite negative) = !negative := by
  cases negative <;> rfl

@[simp] theorem undefined_lt : Scalar.lt undefined (finite number) = false := rfl

@[simp] theorem le_undefined : Scalar.le (finite number) undefined = false := rfl

end Beyond

@[simp] theorem lesser_finite (left right : ℚ) :
    Scalar.lesser (finite left) (finite right) = finite (min left right) := by
  rw [Scalar.lesser, lt_finite, min_comm, min_def_lt]
  by_cases isLess : right < left
  · rw [if_pos (decide_eq_true isLess), if_pos isLess]
  · rw [if_neg (by simpa using isLess), if_neg isLess]

theorem minimum_finite (left right : ℚ) :
    Scalar.minimum (finite left) (finite right) = finite (min left right) := by
  rw [← lesser_finite]
  rfl

theorem maximum_finite (left right : ℚ) :
    Scalar.maximum (finite left) (finite right) = finite (max left right) := by
  have chosen : Scalar.maximum (finite left) (finite right) =
      if Scalar.lt (finite left) (finite right) then finite right else finite left := rfl
  rw [chosen, lt_finite, max_def_lt]
  by_cases isLess : left < right
  · rw [if_pos (decide_eq_true isLess), if_pos isLess]
  · rw [if_neg (by simpa using isLess), if_neg isLess]

theorem wholePart_finite {number : ℚ} (isNatural : 0 ≤ number) :
    Scalar.wholePart (finite number) = ⌊number⌋ := by
  have whole : Scalar.wholePart (finite number) = number.num.tdiv number.den := rfl
  rw [whole, Int.tdiv_eq_ediv_of_nonneg (Rat.num_nonneg.mpr isNatural)]
  exact Rat.floor_def'.symm

end Order

section Sums

protected theorem add_comm (left right : ExactNumber) : left + right = right + left := by
  cases left with
  | undefined => cases right <;> rfl
  | infinite negative =>
      cases right with
      | infinite other => cases negative <;> cases other <;> rfl
      | _ => rfl
  | finite number =>
      cases right with
      | finite other => exact congrArg finite (Rat.add_comm number other)
      | _ => rfl

protected theorem add_assoc (first second third : ExactNumber) :
    first + second + third = first + (second + third) := by
  cases first with
  | undefined => cases second <;> cases third <;> rfl
  | infinite negative =>
      cases second with
      | infinite other =>
          cases third with
          | infinite last => cases negative <;> cases other <;> cases last <;> rfl
          | _ => cases negative <;> cases other <;> rfl
      | _ => cases third <;> rfl
  | finite number =>
      cases second with
      | finite other =>
          cases third with
          | finite last => exact congrArg finite (Rat.add_assoc number other last)
          | _ => rfl
      | infinite negative =>
          cases third with
          | infinite last => cases negative <;> cases last <;> rfl
          | _ => rfl
      | undefined => cases third <;> rfl

protected theorem zero_add (number : ExactNumber) : Scalar.zero + number = number := by
  cases number with
  | finite number => exact congrArg finite (Rat.zero_add number)
  | _ => rfl

theorem add_undefined (number : ExactNumber) : number + undefined = undefined := by
  cases number <;> rfl

instance : Std.Associative fun (left right : ExactNumber) => left + right := ⟨ExactNumber.add_assoc⟩

instance : Std.Commutative fun (left right : ExactNumber) => left + right := ⟨ExactNumber.add_comm⟩

end Sums

section Infinite

variable (negative : Bool) {number : ℚ}

theorem infinite_add_self : infinite negative + infinite negative = infinite negative := if_pos rfl

theorem finite_mul_infinite (isPositive : 0 < number) :
    finite number * infinite negative = infinite negative := by
  have sign : (finite number).isNegative = false := decide_eq_false isPositive.le.not_gt
  have notZero : ¬ (finite number = finite 0 ∨ infinite negative = finite 0) := by
    simp [isPositive.ne']
  have product : finite number * infinite negative =
      infinite ((finite number).isNegative ^^ negative) := if_neg notZero
  rw [product, sign, Bool.false_xor]

theorem infinite_mul_finite (isPositive : 0 < number) :
    infinite negative * finite number = infinite negative := by
  have sign : (finite number).isNegative = false := decide_eq_false isPositive.le.not_gt
  have notZero : ¬ (infinite negative = finite 0 ∨ finite number = finite 0) := by
    simp [isPositive.ne']
  have product : infinite negative * finite number =
      infinite (negative ^^ (finite number).isNegative) := if_neg notZero
  rw [product, sign, Bool.xor_false]

theorem infinite_div_finite (isPositive : 0 < number) :
    infinite negative / finite number = infinite negative := by
  have quotient : infinite negative / finite number = infinite (negative ^^ number < 0) := rfl
  rw [quotient, decide_eq_false isPositive.le.not_gt, Bool.xor_false]

end Infinite

section Halves

/-- Half of a sum is a quarter of the sum taken twice, also where it is not finite. -/
theorem half_eq_quarter (sum : ExactNumber) :
    Scalar.half * sum = (sum + sum) / Scalar.ofInt 4 := by
  rw [half_eq, ofInt_eq]
  cases sum with
  | undefined => rfl
  | infinite negative =>
      rw [infinite_add_self, finite_mul_infinite _ (by norm_num),
        infinite_div_finite _ (by norm_num)]
  | finite number =>
      rw [finite_add, finite_div _ (by norm_num), finite_mul, finite.injEq]
      push_cast
      ring

theorem half_eq_eighth (sum : ExactNumber) :
    Scalar.half * sum = (sum + sum + (sum + sum)) / Scalar.ofInt 8 := by
  rw [half_eq, ofInt_eq]
  cases sum with
  | undefined => rfl
  | infinite negative =>
      rw [infinite_add_self, infinite_add_self, finite_mul_infinite _ (by norm_num),
        infinite_div_finite _ (by norm_num)]
  | finite number =>
      rw [finite_add, finite_add, finite_div _ (by norm_num), finite_mul, finite.injEq]
      push_cast
      ring

theorem half_add_self (number : ExactNumber) : Scalar.half * (number + number) = number := by
  rw [half_eq]
  cases number with
  | undefined => rfl
  | infinite negative => rw [infinite_add_self, finite_mul_infinite _ (by norm_num)]
  | finite number =>
      rw [finite_add, finite_mul, finite.injEq]
      ring

end Halves

end ExactNumber

end FieldSurvey
