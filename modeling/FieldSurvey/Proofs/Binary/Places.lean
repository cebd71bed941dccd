import Mathlib.Algebra.Order.Ring.Abs
import Mathlib.Algebra.Order.Ring.Rat
import Mathlib.Data.Int.ConditionallyCompleteOrder
import Mathlib.Order.Monotone.Basic
import Mathlib.Tactic.Linarith
import Mathlib.Tactic.Positivity
import Mathlib.Tactic.Ring
import FieldSurvey.Binary.Format

/-!
Doubles as places on a scale. The magnitude bits of a double are its place among the doubles of its
sign, and every double is a whole number of steps, each as long as the smallest double. A number is
nearest to a place if it lies between the midpoints to the two neighbouring places; on a midpoint it
goes to the even one. So of two numbers the greater one never has the lower place.
-/

namespace FieldSurvey

/-- The number of steps from zero to a place. Up to the second power of two there is a place at
every step; from there on each power of two doubles the distance. The scale goes on past the largest
finite double. -/
def stepsAt (place : Nat) : Nat :=
  if place / 2 ^ 52 = 0 then place
  else (place % 2 ^ 52 + 2 ^ 52) * 2 ^ (place / 2 ^ 52 - 1)

section Scale

variable {significand lift place : Nat}

/-- The place of a significand that is scaled up by a power of two. One that is carried over to the
next power has its place there. -/
theorem stepsAt_add (fits : significand ≤ 2 ^ 53) (isFull : 2 ^ 52 ≤ significand ∨ lift = 0) :
    stepsAt (lift * 2 ^ 52 + significand) = significand * 2 ^ lift := by
  unfold stepsAt
  rcases Nat.lt_or_ge significand (2 ^ 52) with isShort | isLong
  · have notLifted : lift = 0 := by omega
    subst notLifted
    rw [if_pos (by omega)]
    omega
  · rw [if_neg (by omega)]
    rcases Nat.lt_or_eq_of_le fits with isUncarried | isCarried
    · have power : (lift * 2 ^ 52 + significand) / 2 ^ 52 - 1 = lift := by omega
      have rest : (lift * 2 ^ 52 + significand) % 2 ^ 52 + 2 ^ 52 = significand := by omega
      rw [power, rest]
    · have power : (lift * 2 ^ 52 + significand) / 2 ^ 52 - 1 = lift + 1 := by omega
      have rest : (lift * 2 ^ 52 + significand) % 2 ^ 52 + 2 ^ 52 = 2 ^ 52 := by omega
      rw [power, rest, isCarried]
      ring

theorem exists_significand (place : Nat) :
    ∃ lift significand, place = lift * 2 ^ 52 + significand ∧ significand < 2 ^ 53 ∧
      (2 ^ 52 ≤ significand ∨ lift = 0) :=
  ⟨place / 2 ^ 52 - 1, place - (place / 2 ^ 52 - 1) * 2 ^ 52, by omega, by omega, by omega⟩

theorem stepsAt_strictMono : StrictMono stepsAt := by
  refine strictMono_nat_of_lt_succ fun place => ?_
  obtain ⟨lift, significand, rfl, fits, isFull⟩ := exists_significand place
  rw [Nat.add_assoc, stepsAt_add fits.le isFull, stepsAt_add (by omega) (by omega)]
  exact Nat.mul_lt_mul_of_pos_right (Nat.lt_succ_self _) (Nat.two_pow_pos _)

@[simp]
theorem stepsAt_zero : stepsAt 0 = 0 := rfl

end Scale

/-- The whole number nearest to a number, the even one of two. -/
structure IsRounded (number : ℚ) (whole : Nat) : Prop where
  above : 2 * (whole : ℚ) - 1 < 2 * number ∨ 2 * (whole : ℚ) - 1 = 2 * number ∧ whole % 2 = 0
  below : 2 * number < 2 * (whole : ℚ) + 1 ∨ 2 * number = 2 * (whole : ℚ) + 1 ∧ whole % 2 = 0

/-- The place nearest to a number of steps, the even one of two. -/
structure IsNearest (steps : ℚ) (place : Nat) : Prop where
  above : ∀ lower, lower + 1 = place →
    (stepsAt lower : ℚ) + stepsAt place < 2 * steps ∨
      (stepsAt lower : ℚ) + stepsAt place = 2 * steps ∧ place % 2 = 0
  below : 2 * steps < stepsAt place + stepsAt (place + 1) ∨
    2 * steps = stepsAt place + stepsAt (place + 1) ∧ place % 2 = 0

namespace IsNearest

variable {steps otherSteps : ℚ} {place otherPlace : Nat}

/-- Rounding is monotone. Only one midpoint lies between two neighbouring places, and of these only
one is even. -/
theorem mono (isNearest : IsNearest steps place) (isOther : IsNearest otherSteps otherPlace)
    (isLess : steps ≤ otherSteps) : place ≤ otherPlace := by
  by_contra notLess
  obtain ⟨lower, rfl⟩ : ∃ lower, lower + 1 = place := ⟨place - 1, by omega⟩
  have atMost : otherPlace ≤ lower := by omega
  have belowLower : (stepsAt otherPlace : ℚ) ≤ stepsAt lower :=
    Nat.cast_le.mpr (stepsAt_strictMono.monotone atMost)
  have belowUpper : (stepsAt (otherPlace + 1) : ℚ) ≤ stepsAt (lower + 1) :=
    Nat.cast_le.mpr (stepsAt_strictMono.monotone (Nat.succ_le_succ atMost))
  rcases isNearest.above lower rfl with beyond | ⟨onMidpoint, isEven⟩
  · rcases isOther.below with under | ⟨onOther, _⟩
    · linarith
    · linarith
  · rcases isOther.below with under | ⟨onOther, otherEven⟩
    · linarith
    · have sameSteps : (stepsAt otherPlace : ℚ) = stepsAt lower := by linarith
      have samePlace : otherPlace = lower := stepsAt_strictMono.injective (Nat.cast_inj.mp sameSteps)
      omega

theorem unique (isNearest : IsNearest steps place) (isOther : IsNearest steps otherPlace) :
    place = otherPlace :=
  Nat.le_antisymm (isNearest.mono isOther le_rfl) (isOther.mono isNearest le_rfl)

/-- Every place is the one nearest to itself. -/
theorem self (place : Nat) : IsNearest (stepsAt place) place where
  above := by
    rintro lower rfl
    have isLess : (stepsAt lower : ℚ) < stepsAt (lower + 1) :=
      Nat.cast_lt.mpr (stepsAt_strictMono (Nat.lt_succ_self lower))
    exact .inl (by linarith)
  below := by
    have isLess : (stepsAt place : ℚ) < stepsAt (place + 1) :=
      Nat.cast_lt.mpr (stepsAt_strictMono (Nat.lt_succ_self place))
    exact .inl (by linarith)

/-- The next place is no closer than the next significand; after a carried one it is further. -/
theorem succ_mul_le_stepsAt {significand lift : Nat} (fits : significand ≤ 2 ^ 53)
    (isFull : 2 ^ 52 ≤ significand ∨ lift = 0) :
    ((significand : ℚ) + 1) * 2 ^ lift ≤ stepsAt (lift * 2 ^ 52 + significand + 1) := by
  rcases Nat.lt_or_eq_of_le fits with isUncarried | isCarried
  · rw [Nat.add_assoc, stepsAt_add (by omega) (by omega)]
    push_cast
    exact le_rfl
  · -- A carried significand is followed by a place of the next power of two.
    have carried : lift * 2 ^ 52 + significand + 1 = (lift + 1) * 2 ^ 52 + (2 ^ 52 + 1) := by
      omega
    have scale : (0 : ℚ) < 2 ^ lift := by positivity
    have doubled : (2 : ℚ) ^ (lift + 1) = 2 ^ lift * 2 := pow_succ 2 lift
    rw [carried, stepsAt_add (by omega) (.inl (by omega)), isCarried]
    push_cast
    rw [doubled]
    linarith

/-- A number of steps whose significand is rounded goes to the nearest place: the places around it
are as far apart as its significands, those below a power of two even closer. -/
theorem of_isRounded {number : ℚ} {significand lift : Nat} (isRounded : IsRounded number significand)
    (fits : significand ≤ 2 ^ 53) (isFull : 2 ^ 52 ≤ number ∧ 2 ^ 52 ≤ significand ∨ lift = 0) :
    IsNearest (number * 2 ^ lift) (lift * 2 ^ 52 + significand) := by
  have isLong : 2 ^ 52 ≤ significand ∨ lift = 0 := isFull.imp_left And.right
  have here : stepsAt (lift * 2 ^ 52 + significand) = significand * 2 ^ lift :=
    stepsAt_add fits isLong
  have scale : (0 : ℚ) < 2 ^ lift := by positivity
  constructor
  · intro lower isLower
    by_cases isPower : significand = 2 ^ 52 ∧ lift ≠ 0
    · -- At a power of two the midpoint is below the power, and the number is not.
      obtain ⟨power, isLifted⟩ := isPower
      obtain ⟨atLeast, _⟩ := isFull.resolve_right isLifted
      have isLess : (stepsAt lower : ℚ) < stepsAt (lift * 2 ^ 52 + significand) :=
        Nat.cast_lt.mpr (stepsAt_strictMono (by omega))
      have scaled : (2 ^ 52 : ℚ) * 2 ^ lift ≤ number * 2 ^ lift :=
        mul_le_mul_of_nonneg_right atLeast scale.le
      rw [here, power] at isLess ⊢
      push_cast at isLess ⊢
      exact .inl (by linarith)
    · obtain ⟨previous, rfl⟩ : ∃ previous, previous + 1 = significand := ⟨significand - 1, by omega⟩
      have isPrevious : lower = lift * 2 ^ 52 + previous := by omega
      rw [here, isPrevious, stepsAt_add (by omega) (by omega)]
      rcases isRounded.above with beyond | ⟨onMidpoint, isEven⟩
      · have scaled := mul_lt_mul_of_pos_right beyond scale
        push_cast at scaled ⊢
        exact .inl (by linarith)
      · have scaled := congrArg (· * (2 : ℚ) ^ lift) onMidpoint
        push_cast at scaled ⊢
        exact .inr ⟨by linarith, by omega⟩
  · have next := succ_mul_le_stepsAt fits isLong
    rw [here]
    push_cast
    rcases isRounded.below with under | ⟨onMidpoint, isEven⟩
    · have scaled := mul_lt_mul_of_pos_right under scale
      exact .inl (by linarith)
    · have scaled := congrArg (· * (2 : ℚ) ^ lift) onMidpoint
      rcases next.lt_or_eq with further | isNext
      · exact .inl (by linarith)
      · exact .inr ⟨by linarith, by omega⟩

end IsNearest

/-- The number of steps to a rank among all doubles; below zero it is negative. -/
def signedSteps (rank : Int) : Int := rank.sign * stepsAt rank.natAbs

section Ranks

@[simp]
theorem signedSteps_zero : signedSteps 0 = 0 := by
  simp [signedSteps]

theorem signedSteps_natCast (place : Nat) : signedSteps place = stepsAt place := by
  unfold signedSteps
  rcases Nat.eq_zero_or_pos place with rfl | isPositive
  · rfl
  · rw [Int.sign_natCast_of_ne_zero isPositive.ne', one_mul, Int.natAbs_natCast]

theorem signedSteps_neg (rank : Int) : signedSteps (-rank) = -signedSteps rank := by
  unfold signedSteps
  rw [Int.sign_neg, Int.natAbs_neg, neg_mul]

theorem signedSteps_strictMono : StrictMono signedSteps := by
  intro low high isLess
  have atLeast : ∀ place : Nat, place ≤ stepsAt place :=
    fun _ => stepsAt_strictMono.le_apply
  obtain ⟨lowPlace, rfl | rfl⟩ := low.eq_nat_or_neg
  · obtain ⟨highPlace, rfl⟩ := Int.eq_ofNat_of_zero_le (show 0 ≤ high by omega)
    rw [signedSteps_natCast, signedSteps_natCast, Int.ofNat_lt]
    exact stepsAt_strictMono (by omega)
  · obtain ⟨highPlace, rfl | rfl⟩ := high.eq_nat_or_neg
    · rw [signedSteps_neg, signedSteps_natCast, signedSteps_natCast]
      have lowSteps := atLeast lowPlace
      have highSteps := atLeast highPlace
      omega
    · have steps := stepsAt_strictMono (show highPlace < lowPlace by omega)
      rw [signedSteps_neg, signedSteps_neg, signedSteps_natCast, signedSteps_natCast]
      omega

/-- The rank that a number of steps is rounded to; past the largest finite double it is that of an
infinity. -/
def RoundsTo (steps : ℚ) (rank : Int) : Prop :=
  ∃ place, IsNearest |steps| place ∧
    rank = if steps < 0 then -((min place FloatWidth.double.infinityBits : Nat) : Int)
      else (min place FloatWidth.double.infinityBits : Nat)

variable {steps otherSteps : ℚ} {rank otherRank : Int}

theorem RoundsTo.mono (rounds : RoundsTo steps rank) (other : RoundsTo otherSteps otherRank)
    (isLess : steps ≤ otherSteps) : rank ≤ otherRank := by
  obtain ⟨place, isNearest, rfl⟩ := rounds
  obtain ⟨otherPlace, isOther, rfl⟩ := other
  rcases lt_or_ge steps 0 with isNegative | notNegative
  · rw [if_pos isNegative]
    rcases lt_or_ge otherSteps 0 with otherNegative | otherNotNegative
    · rw [if_pos otherNegative]
      have placed := isOther.mono isNearest (by
        rw [abs_of_neg isNegative, abs_of_neg otherNegative]
        exact neg_le_neg isLess)
      omega
    · rw [if_neg otherNotNegative.not_gt]
      omega
  · have otherNotNegative := notNegative.trans isLess
    rw [if_neg notNegative.not_gt, if_neg otherNotNegative.not_gt]
    have placed := isNearest.mono isOther (by
      rwa [abs_of_nonneg notNegative, abs_of_nonneg otherNotNegative])
    omega

theorem RoundsTo.natAbs_le (rounds : RoundsTo steps rank) :
    rank.natAbs ≤ FloatWidth.double.infinityBits := by
  obtain ⟨place, _, rfl⟩ := rounds
  split <;> omega

theorem RoundsTo.unique (rounds : RoundsTo steps rank) (other : RoundsTo steps otherRank) :
    rank = otherRank :=
  Int.le_antisymm (rounds.mono other le_rfl) (other.mono rounds le_rfl)

/-- What a rank stands for is rounded to that rank. -/
theorem RoundsTo.self (inRange : rank.natAbs ≤ FloatWidth.double.infinityBits) :
    RoundsTo (signedSteps rank) rank := by
  refine ⟨rank.natAbs, ?_, ?_⟩
  · have size : |(signedSteps rank : ℚ)| = stepsAt rank.natAbs := by
      obtain ⟨place, rfl | rfl⟩ := rank.eq_nat_or_neg
      · rw [signedSteps_natCast]
        simp
      · rw [signedSteps_neg, signedSteps_natCast]
        simp
    rw [size]
    exact IsNearest.self _
  · have sign : (signedSteps rank : ℚ) < 0 ↔ rank < 0 := by
      rw [← Int.cast_zero, Int.cast_lt]
      exact signedSteps_strictMono.lt_iff_lt (b := 0)
    rw [Nat.min_eq_left inRange]
    split
    · rename_i isNegative
      have := sign.mp isNegative
      omega
    · rename_i notNegative
      have := mt sign.mpr notNegative
      omega

theorem RoundsTo.zero : RoundsTo 0 0 := by
  have here : RoundsTo (signedSteps 0) 0 := RoundsTo.self (Nat.zero_le _)
  simpa [signedSteps] using here

/-- A number of at least one step is not rounded to zero. -/
theorem RoundsTo.one_le (rounds : RoundsTo steps rank) (atLeast : 1 ≤ steps) : 1 ≤ rank := by
  have one : RoundsTo (signedSteps 1) 1 := RoundsTo.self (by decide)
  refine one.mono rounds ?_
  have isOne : signedSteps 1 = 1 := rfl
  rw [isOne]
  exact_mod_cast atLeast

theorem RoundsTo.le_neg_one (rounds : RoundsTo steps rank) (atMost : steps ≤ -1) : rank ≤ -1 := by
  have one : RoundsTo (signedSteps (-1)) (-1) := RoundsTo.self (by decide)
  refine rounds.mono one ?_
  have isOne : signedSteps (-1) = -1 := rfl
  rw [isOne]
  exact_mod_cast atMost

end Ranks

end FieldSurvey
