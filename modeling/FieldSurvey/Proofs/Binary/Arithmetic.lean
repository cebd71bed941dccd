import FieldSurvey.Proofs.Binary.Ranks

/-!
The arithmetic of finite doubles. Each operation rounds the exact result, counted in steps, to a
rank: differences, sums, products, quotients by a double that is not zero, and whole numbers.
-/

namespace FieldSurvey

open Float.Model Float.Model.UnpackedFloat

/-- The rank of a finite double. -/
def IsFiniteRank (rank : Int) : Prop := rank.natAbs < FloatWidth.double.infinityBits

instance (rank : Int) : Decidable (IsFiniteRank rank) :=
  inferInstanceAs (Decidable (rank.natAbs < _))

/-- The number of steps that make up 1. -/
def stepsPerUnit : Nat := 2 ^ 1074

theorem two_pow_eq {power : Nat} (isUnit : power = 1074) : 2 ^ power = stepsPerUnit := by
  rw [isUnit, stepsPerUnit]

theorem stepsPerUnit_pos : 0 < stepsPerUnit := by
  unfold stepsPerUnit
  positivity

theorem cast_stepsPerUnit : (stepsPerUnit : ℚ) = 2 ^ (1074 : Int) := by
  obtain ⟨power, isUnit⟩ : ∃ power : Nat, power = 1074 := ⟨_, rfl⟩
  have same : (1074 : Int) = (power : Int) := by omega
  rw [← two_pow_eq isUnit, same, zpow_natCast]
  push_cast
  rfl

section Signs

variable {sign otherSign : Sign}

theorem apply_natCast (sign : Sign) (number : Nat) :
    sign.apply (number : Int) = sign.apply 1 * number := by
  cases sign with
  | negative => exact (neg_one_mul _).symm
  | positive => exact (one_mul _).symm

theorem apply_mul : (sign * otherSign).apply 1 = sign.apply 1 * otherSign.apply 1 := by
  cases sign <;> cases otherSign <;> rfl

theorem apply_div : (sign / otherSign).apply 1 = sign.apply 1 * otherSign.apply 1 := by
  cases sign <;> cases otherSign <;> rfl

theorem apply_mul_self (sign : Sign) : sign.apply 1 * sign.apply 1 = 1 := by
  cases sign <;> rfl

theorem abs_apply (sign : Sign) : |sign.apply 1| = 1 := by
  cases sign <;> rfl

end Signs

section Results

variable {sign : Sign} {number : UnpackedFloat} {rank : Int} {place : Nat} {size steps : ℚ}

/-- What stands at the place nearest to a size has the rank that the signed size is rounded to. -/
theorem exists_rank (isNearest : IsNearest size place) (stands : StandsAt sign number place)
    (notNegative : 0 ≤ size) (isSigned : steps = (sign.apply 1 : Int) * size) :
    ∃ rank, HasRank number rank ∧ RoundsTo steps rank := by
  refine ⟨_, ⟨sign, place, stands, rfl⟩, place, ?_, ?_⟩
  · have sameSize : |steps| = size := by
      rw [isSigned, abs_mul, ← Int.cast_abs, abs_apply, Int.cast_one, one_mul,
        abs_of_nonneg notNegative]
    rwa [sameSize]
  · cases sign with
    | positive =>
        have isPositive : steps = size := by
          rw [isSigned]
          simp [Sign.apply]
        rw [if_neg (by linarith)]
        rfl
    | negative =>
        have isNegative : steps = -size := by
          rw [isSigned]
          simp [Sign.apply]
        rcases notNegative.lt_or_eq with isPositive | isZero
        · rw [if_pos (by linarith)]
          rfl
        · have atZero : place = 0 := by
            have nearestToZero : IsNearest size 0 := by
              simpa [isZero] using IsNearest.self 0
            exact isNearest.unique nearestToZero
          rw [if_neg (by linarith), atZero]
          rfl

/-- What a finite rank stands for, as the arithmetic sees it: a zero or a significand. -/
theorem finite_cases (hasRank : HasRank number rank) (isFinite : IsFiniteRank rank) :
    (∃ sign, number = .zero sign ∧ rank = 0) ∨
      ∃ (sign : Sign) (lift significand : Nat) (isPositive : 0 < significand),
        number = .finite sign significand ((lift : Int) - 1074) isPositive ∧
        IsFull significand ((lift : Int) - 1074) ∧
        signedSteps rank = sign.apply 1 * (significand * 2 ^ lift : Nat) := by
  obtain ⟨sign, place, stands, rfl⟩ := hasRank
  cases stands with
  | infinity =>
      have notFinite : IsFiniteRank (sign.apply (FloatWidth.double.infinityBits : Int)) := by
        rwa [Nat.min_self] at isFinite
      unfold IsFiniteRank at notFinite
      cases sign with
      | positive => exact absurd notFinite (Nat.lt_irrefl _)
      | negative => exact absurd notFinite (by decide)
  | zero =>
      refine .inl ⟨sign, rfl, ?_⟩
      cases sign <;> rfl
  | finite lift significand isPositive fits isFull =>
      refine .inr ⟨sign, lift, significand, isPositive, rfl, ?_, ?_⟩
      · exact isFull.imp_right fun notLifted => by omega
      · have inRange : lift * 2 ^ 52 + significand ≤ FloatWidth.double.infinityBits := by
          by_contra isBeyond
          rw [Nat.min_eq_right (by omega)] at isFinite
          unfold IsFiniteRank at isFinite
          cases sign with
          | positive => exact absurd isFinite (Nat.lt_irrefl _)
          | negative => exact absurd isFinite (by decide)
        rw [Nat.min_eq_left inRange]
        cases sign with
        | positive =>
            show signedSteps ((lift * 2 ^ 52 + significand : Nat) : Int) = 1 * _
            rw [signedSteps_natCast, stepsAt_add fits.le isFull, one_mul]
        | negative =>
            show signedSteps (-((lift * 2 ^ 52 + significand : Nat) : Int)) = -1 * _
            rw [signedSteps_neg, signedSteps_natCast, stepsAt_add fits.le isFull, neg_one_mul]

/-- A zero has rank 0, whatever its sign. -/
theorem zero_rounds (sign : Sign) (isZero : steps = 0) :
    ∃ rank, HasRank (.zero sign) rank ∧ RoundsTo steps rank := by
  refine exists_rank (IsNearest.self 0) (.zero : StandsAt sign (.zero sign) 0) ?_ ?_
  · simp
  · rw [isZero]
    simp

theorem exact_rounds {sign : Sign} {mantissa : Nat} {exponent : Int}
    (isFull : IsFull mantissa exponent)
    (isSigned : steps = (sign.apply 1 : Int) * (mantissa * 2 ^ (exponent + 1074))) :
    ∃ rank, HasRank (roundWithAccuracy Format.binary64 sign mantissa exponent .exact) rank ∧
      RoundsTo steps rank := by
  obtain ⟨place, isNearest, stands⟩ :=
    exists_roundWithAccuracy sign (show CutsOff 0 .exact from rfl) isFull
  rw [add_zero] at isNearest
  exact exists_rank isNearest stands (by positivity) isSigned

end Results

section Operations

variable {left right : UnpackedFloat} {leftRank rightRank : Int}

theorem mul_rounds (hasLeft : HasRank left leftRank) (hasRight : HasRank right rightRank)
    (leftFinite : IsFiniteRank leftRank) (rightFinite : IsFiniteRank rightRank) :
    ∃ rank, HasRank (UnpackedFloat.mul Format.binary64 left right) rank ∧
      RoundsTo (signedSteps leftRank * signedSteps rightRank / stepsPerUnit) rank := by
  rcases finite_cases hasLeft leftFinite with ⟨sign, rfl, rfl⟩ |
    ⟨sign, lift, significand, isPositive, rfl, isFull, steps⟩
  · have isZero : (signedSteps 0 * signedSteps rightRank / stepsPerUnit : ℚ) = 0 := by
      rw [signedSteps_zero, Int.cast_zero, zero_mul, zero_div]
    rcases finite_cases hasRight rightFinite with ⟨other, rfl, rfl⟩ | ⟨other, _, _, _, rfl, _, _⟩
    · exact zero_rounds _ isZero
    · exact zero_rounds _ isZero
  rcases finite_cases hasRight rightFinite with ⟨other, rfl, rfl⟩ |
    ⟨other, otherLift, otherSignificand, otherPositive, rfl, otherFull, otherSteps⟩
  · refine zero_rounds _ ?_
    rw [signedSteps_zero, Int.cast_zero, mul_zero, zero_div]
  refine exact_rounds ?_ ?_
  · -- The product of two mantissas is long enough if either is; else both exponents are least.
    rcases isFull with isLong | isLow
    · exact .inl (isLong.trans (Nat.le_mul_of_pos_right _ otherPositive))
    · rcases otherFull with otherLong | otherLow
      · exact .inl (otherLong.trans (Nat.le_mul_of_pos_left _ isPositive))
      · exact .inr (by omega)
  · have powers : (2 : ℚ) ^ ((lift : Int) - 1074 + ((otherLift : Int) - 1074) + 1074) =
        2 ^ lift * 2 ^ otherLift / stepsPerUnit := by
      rw [cast_stepsPerUnit, ← zpow_natCast, ← zpow_natCast, ← zpow_add₀ two_ne_zero,
        ← zpow_sub₀ two_ne_zero]
      congr 1
      omega
    rw [steps, otherSteps, apply_mul, powers]
    push_cast
    ring

/-- What is left of a division tells how far the quotient lies above its whole part. -/
theorem cutsOff_accuracyOfFraction {remainder divisor : Nat} (isRest : remainder < divisor) :
    CutsOff ((remainder : ℚ) / divisor) (accuracyOfFraction remainder divisor) := by
  have isPositive : (0 : ℚ) < divisor := Nat.cast_pos.mpr (Nat.zero_lt_of_lt isRest)
  have belowOne : (remainder : ℚ) / divisor < 1 :=
    (div_lt_one isPositive).mpr (Nat.cast_lt.mpr isRest)
  unfold accuracyOfFraction
  split
  · rename_i isZero
    rw [isZero]
    simp [CutsOff]
  · rename_i notZero
    have above : (0 : ℚ) < remainder / divisor :=
      div_pos (Nat.cast_pos.mpr (Nat.pos_of_ne_zero notZero)) isPositive
    rcases Nat.lt_trichotomy (2 * remainder) divisor with isLess | isHalf | isMore
    · rw [Nat.compare_eq_lt.mpr isLess]
      have isLess : (2 * remainder : ℚ) < divisor := by exact_mod_cast isLess
      refine ⟨above, ?_⟩
      rw [div_lt_div_iff₀ isPositive two_pos]
      linarith
    · rw [Nat.compare_eq_eq.mpr isHalf]
      have isHalf : (2 * remainder : ℚ) = divisor := by exact_mod_cast isHalf
      show (remainder : ℚ) / divisor = 1 / 2
      rw [div_eq_div_iff isPositive.ne' two_ne_zero]
      linarith
    · rw [Nat.compare_eq_gt.mpr isMore]
      have isMore : (divisor : ℚ) < 2 * remainder := by exact_mod_cast isMore
      refine ⟨?_, belowOne⟩
      rw [div_lt_div_iff₀ two_pos isPositive]
      linarith

/-- The quotient of two mantissas has enough places to be rounded. -/
theorem isFull_divCore {mantissa divisor : Nat} (exponent divisorExponent : Int)
    (isPositive : 0 < mantissa) (divisorPositive : 0 < divisor) :
    ∃ shift : Nat, divCore Format.binary64 mantissa exponent divisor divisorExponent =
        (mantissa * 2 ^ shift / divisor, exponent - divisorExponent - shift,
          accuracyOfFraction (mantissa * 2 ^ shift % divisor) divisor) ∧
      IsFull (mantissa * 2 ^ shift / divisor) (exponent - divisorExponent - shift) := by
  have target : Format.binary64.targetExponent
      (totalExponent mantissa exponent - totalExponent divisor divisorExponent) =
        max ((mantissa.log2 : Int) + exponent - (divisor.log2 + divisorExponent) - 53) (-1074) := by
    unfold Format.targetExponent totalExponent
    show max ((mantissa.log2 : Int) + 1 + exponent - (divisor.log2 + 1 + divisorExponent) - (53 : Nat))
      (-1074) = _
    congr 1
    omega
  obtain ⟨shift, isShift⟩ : ∃ shift : Nat, exponent - divisorExponent -
      min (exponent - divisorExponent)
        (max ((mantissa.log2 : Int) + exponent - (divisor.log2 + divisorExponent) - 53) (-1074)) =
          shift :=
    Int.eq_ofNat_of_zero_le (by omega)
  refine ⟨shift, ?_, ?_⟩
  · unfold divCore
    rw [target]
    simp only [isShift, Int.toNat_natCast, Nat.shiftLeft_eq]
    congr 2
    omega
  · rcases Int.lt_or_le (-1074) (exponent - divisorExponent - shift) with isHigh | isLow
    · left
      rw [Nat.le_div_iff_mul_le divisorPositive]
      have places : 52 + (divisor.log2 + 1) ≤ mantissa.log2 + shift := by omega
      calc 2 ^ 52 * divisor ≤ 2 ^ 52 * 2 ^ (divisor.log2 + 1) :=
            Nat.mul_le_mul_left _ Nat.lt_log2_self.le
        _ ≤ 2 ^ mantissa.log2 * 2 ^ shift := by
            rw [← Nat.pow_add, ← Nat.pow_add]
            exact Nat.pow_le_pow_right two_pos places
        _ ≤ mantissa * 2 ^ shift := Nat.mul_le_mul_right _ (Nat.log2_self_le isPositive.ne')
    · exact .inr isLow

theorem div_rounds (hasLeft : HasRank left leftRank) (hasRight : HasRank right rightRank)
    (leftFinite : IsFiniteRank leftRank) (rightFinite : IsFiniteRank rightRank)
    (notZero : rightRank ≠ 0) :
    ∃ rank, HasRank (UnpackedFloat.div Format.binary64 left right) rank ∧
      RoundsTo (signedSteps leftRank / signedSteps rightRank * stepsPerUnit) rank := by
  rcases finite_cases hasRight rightFinite with ⟨other, rfl, rfl⟩ |
    ⟨other, otherLift, divisor, divisorPositive, rfl, _, otherSteps⟩
  · exact absurd rfl notZero
  rcases finite_cases hasLeft leftFinite with ⟨sign, rfl, rfl⟩ |
    ⟨sign, lift, significand, isPositive, rfl, _, steps⟩
  · refine zero_rounds _ ?_
    rw [signedSteps_zero, Int.cast_zero, zero_div, zero_mul]
  obtain ⟨shift, isQuotient, isFull⟩ := isFull_divCore ((lift : Int) - 1074) ((otherLift : Int) - 1074)
    isPositive divisorPositive
  obtain ⟨place, isNearest, stands⟩ := exists_roundWithAccuracy (sign / other)
    (cutsOff_accuracyOfFraction (Nat.mod_lt _ divisorPositive)) isFull
  have isResult : UnpackedFloat.div Format.binary64
      (.finite sign significand ((lift : Int) - 1074) isPositive)
      (.finite other divisor ((otherLift : Int) - 1074) divisorPositive) =
        roundWithAccuracy Format.binary64 (sign / other) (significand * 2 ^ shift / divisor)
          ((lift : Int) - 1074 - ((otherLift : Int) - 1074) - shift)
          (accuracyOfFraction (significand * 2 ^ shift % divisor) divisor) := by
    unfold UnpackedFloat.div
    simp only [isQuotient]
  rw [isResult]
  refine exists_rank isNearest stands (by positivity) ?_
  have hasDivisor : (divisor : ℚ) ≠ 0 := Nat.cast_ne_zero.mpr divisorPositive.ne'
  have quotient : ((significand * 2 ^ shift / divisor : Nat) : ℚ) +
      ((significand * 2 ^ shift % divisor : Nat) : ℚ) / divisor =
        significand * 2 ^ shift / divisor := by
    have whole : ((divisor * (significand * 2 ^ shift / divisor) + significand * 2 ^ shift % divisor :
        Nat) : ℚ) = ((significand * 2 ^ shift : Nat) : ℚ) := congrArg Nat.cast (Nat.div_add_mod _ _)
    rw [Nat.cast_add, Nat.cast_mul, Nat.cast_mul, Nat.cast_pow, Nat.cast_ofNat] at whole
    rw [← whole]
    field_simp
  have powers : (2 : ℚ) ^ ((lift : Int) - 1074 - ((otherLift : Int) - 1074) - shift + 1074) =
      2 ^ lift / 2 ^ otherLift / 2 ^ shift * stepsPerUnit := by
    rw [cast_stepsPerUnit, ← zpow_natCast, ← zpow_natCast, ← zpow_natCast, ← zpow_sub₀ two_ne_zero,
      ← zpow_sub₀ two_ne_zero, ← zpow_add₀ two_ne_zero]
    congr 1
    omega
  have squares : ((other.apply 1 : Int) : ℚ) * (other.apply 1 : Int) = 1 := by
    exact_mod_cast apply_mul_self other
  have hasSign : ((other.apply 1 : Int) : ℚ) ≠ 0 := left_ne_zero_of_mul_eq_one squares
  rw [steps, otherSteps, apply_div, quotient, powers]
  push_cast
  generalize (stepsPerUnit : ℚ) = unit
  field_simp
  rw [pow_two, squares, mul_one]

/-- Scaling a mantissa down to an exponent keeps what it stands for. -/
theorem exists_decreaseExponent (mantissa : Nat) (exponent target : Int) :
    ∃ shift : Nat, decreaseExponent mantissa exponent target =
        (mantissa * 2 ^ shift, exponent - shift) ∧ exponent - shift = min exponent target :=
  ⟨(exponent - target).toNat, by unfold decreaseExponent; simp only [Nat.shiftLeft_eq], by omega⟩

theorem normalize_rounds {number : Int} {exponent : Int} {sign : Sign} {steps : ℚ}
    (isScaled : steps = number * 2 ^ (exponent + 1074)) :
    ∃ rank, HasRank (normalize Format.binary64 number exponent sign) rank ∧ RoundsTo steps rank := by
  -- The rounding of a mantissa of either sign.
  have rounded : ∀ (sign : Sign) {mantissa : Nat}, 0 < mantissa →
      steps = (sign.apply 1 : Int) * (mantissa * 2 ^ (exponent + 1074)) →
      ∃ rank, HasRank (UnpackedFloat.round Format.binary64 sign mantissa exponent) rank ∧
        RoundsTo steps rank := by
    intro sign mantissa isPositive isSigned
    unfold UnpackedFloat.round
    rw [targetExponent_totalExponent]
    obtain ⟨shift, isDecreased, isTarget⟩ := exists_decreaseExponent mantissa exponent
      (max ((mantissa.log2 : Int) + exponent - 52) (-1074))
    simp only [isDecreased]
    refine exact_rounds ?_ ?_
    · rcases Int.lt_or_le (-1074) (exponent - shift) with isHigh | isLow
      · left
        have places : 52 ≤ mantissa.log2 + shift := by omega
        calc 2 ^ 52 ≤ 2 ^ mantissa.log2 * 2 ^ shift := by
              rw [← Nat.pow_add]
              exact Nat.pow_le_pow_right two_pos places
          _ ≤ mantissa * 2 ^ shift := Nat.mul_le_mul_right _ (Nat.log2_self_le isPositive.ne')
      · exact .inr isLow
    · have powers : (2 : ℚ) ^ shift * 2 ^ (exponent - shift + 1074) = 2 ^ (exponent + 1074) := by
        rw [← zpow_natCast, ← zpow_add₀ two_ne_zero]
        congr 1
        omega
      rw [isSigned, ← powers]
      push_cast
      ring
  unfold UnpackedFloat.normalize
  rcases Int.lt_trichotomy number 0 with isNegative | isZero | isPositive
  · rw [compare_lt_iff_lt.mpr isNegative]
    refine rounded .negative (by omega) ?_
    have size : (((-number).toNat : Nat) : ℚ) = -number := by
      rw [← Int.cast_natCast, Int.toNat_of_nonneg (by omega)]
      push_cast
      rfl
    rw [isScaled, size]
    simp [Sign.apply]
  · rw [compare_eq_iff_eq.mpr isZero]
    refine zero_rounds sign ?_
    rw [isScaled, isZero]
    simp
  · rw [compare_gt_iff_gt.mpr isPositive]
    refine rounded .positive (by omega) ?_
    have size : ((number.toNat : Nat) : ℚ) = number := by
      rw [← Int.cast_natCast, Int.toNat_of_nonneg (by omega)]
    rw [isScaled, size]
    simp [Sign.apply]

/-- A finite rank is its own double. -/
theorem self_rounds {number : UnpackedFloat} {rank : Int} {steps : ℚ} (hasRank : HasRank number rank)
    (isFinite : IsFiniteRank rank) (isSame : steps = signedSteps rank) :
    ∃ rank, HasRank number rank ∧ RoundsTo steps rank :=
  ⟨rank, hasRank, isSame ▸ RoundsTo.self isFinite.le⟩

/-- The other sign. -/
theorem HasRank.neg {number : UnpackedFloat} {rank : Int} (hasRank : HasRank number rank) :
    HasRank number.neg (-rank) := by
  have negated : ∀ (sign : Sign) (place : Int), -sign.apply place = (-sign).apply place := by
    intro sign place
    cases sign with
    | negative => exact Int.neg_neg _
    | positive => rfl
  obtain ⟨sign, place, stands, rfl⟩ := hasRank
  refine ⟨-sign, place, ?_, negated sign _⟩
  cases stands with
  | zero => exact .zero
  | infinity => exact .infinity
  | finite lift significand isPositive fits isFull =>
      exact .finite lift significand isPositive fits isFull

theorem add_rounds (hasLeft : HasRank left leftRank) (hasRight : HasRank right rightRank)
    (leftFinite : IsFiniteRank leftRank) (rightFinite : IsFiniteRank rightRank) :
    ∃ rank, HasRank (UnpackedFloat.add Format.binary64 left right) rank ∧
      RoundsTo (signedSteps leftRank + signedSteps rightRank) rank := by
  rcases finite_cases hasLeft leftFinite with ⟨sign, rfl, rfl⟩ |
    ⟨sign, lift, significand, isPositive, rfl, _, steps⟩
  · rcases finite_cases hasRight rightFinite with ⟨other, rfl, rfl⟩ |
      ⟨other, otherLift, otherSignificand, otherPositive, rfl, _, otherSteps⟩
    · have isZero : UnpackedFloat.add Format.binary64 (.zero sign) (.zero other) =
          .zero (if sign == other then sign else .positive) := by
        cases sign <;> cases other <;> rfl
      rw [isZero]
      exact zero_rounds _ (by simp)
    · exact self_rounds hasRight rightFinite (by simp)
  rcases finite_cases hasRight rightFinite with ⟨other, rfl, rfl⟩ |
    ⟨other, otherLift, otherSignificand, otherPositive, rfl, _, otherSteps⟩
  · exact self_rounds hasLeft leftFinite (by simp)
  unfold UnpackedFloat.add
  obtain ⟨shift, isDecreased, isLeast⟩ := exists_decreaseExponent significand ((lift : Int) - 1074)
    (min ((lift : Int) - 1074) ((otherLift : Int) - 1074))
  obtain ⟨otherShift, otherDecreased, otherLeast⟩ := exists_decreaseExponent otherSignificand
    ((otherLift : Int) - 1074) (min ((lift : Int) - 1074) ((otherLift : Int) - 1074))
  simp only [isDecreased, otherDecreased]
  refine normalize_rounds ?_
  have leftPower : (2 : ℚ) ^ lift =
      2 ^ shift * 2 ^ (min ((lift : Int) - 1074) ((otherLift : Int) - 1074) + 1074) := by
    rw [← zpow_natCast, ← zpow_natCast, ← zpow_add₀ two_ne_zero]
    congr 1
    omega
  have rightPower : (2 : ℚ) ^ otherLift =
      2 ^ otherShift * 2 ^ (min ((lift : Int) - 1074) ((otherLift : Int) - 1074) + 1074) := by
    rw [← zpow_natCast, ← zpow_natCast, ← zpow_add₀ two_ne_zero]
    congr 1
    omega
  rw [steps, otherSteps, apply_natCast, apply_natCast]
  push_cast
  rw [leftPower, rightPower]
  ring

/-- To take a number away is to add it with the other sign. -/
theorem sub_eq_add_negated (left right : UnpackedFloat) :
    UnpackedFloat.sub Format.binary64 left right =
      UnpackedFloat.add Format.binary64 left right.neg := by
  cases left with
  | finite sign significand exponent isPositive =>
      cases right with
      | finite other otherSignificand otherExponent otherPositive =>
          unfold UnpackedFloat.sub UnpackedFloat.add UnpackedFloat.neg
          cases other with
          | negative => simp only [Sign.apply, Int.sub_neg]
          | positive => rfl
      | _ => rfl
  | _ => cases right <;> rfl

theorem sub_rounds (hasLeft : HasRank left leftRank) (hasRight : HasRank right rightRank)
    (leftFinite : IsFiniteRank leftRank) (rightFinite : IsFiniteRank rightRank) :
    ∃ rank, HasRank (UnpackedFloat.sub Format.binary64 left right) rank ∧
      RoundsTo (signedSteps leftRank - signedSteps rightRank) rank := by
  have negFinite : IsFiniteRank (-rightRank) := by
    unfold IsFiniteRank at rightFinite ⊢
    rwa [Int.natAbs_neg]
  obtain ⟨rank, hasRank, rounds⟩ := add_rounds hasLeft hasRight.neg leftFinite negFinite
  rw [signedSteps_neg, Int.cast_neg, ← sub_eq_add_neg] at rounds
  rw [sub_eq_add_negated]
  exact ⟨rank, hasRank, rounds⟩

end Operations

end FieldSurvey
