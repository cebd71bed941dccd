import FieldSurvey.Proofs.Binary.Arithmetic
import FieldSurvey.Proofs.Kernel.Extremum

/-!
Arithmetic and order of doubles, told by their ranks. Finite operands give the rank that the exact
result is rounded to; with an infinite operand the rank of the result is read off the signs, or
there is none. Whole numbers up to the second power of 53 are held exactly.
-/

namespace FieldSurvey

open Float.Model Float.Model.UnpackedFloat

section Parts

/-- The parts of a finite double are the significand and the power of two of its place. -/
theorem exists_decode {word : BitVec 64}
    (isFinite : word.toNat % 2 ^ 63 < FloatWidth.double.infinityBits) :
    ∃ lift significand : Nat, FloatWidth.double.decode word =
        .finite (decide (2 ^ 63 ≤ word.toNat)) significand ((lift : Int) - 1074) ∧
      word.toNat % 2 ^ 63 = lift * 2 ^ 52 + significand ∧ significand < 2 ^ 53 ∧
      (2 ^ 52 ≤ significand ∨ lift = 0) := by
  unfold FloatWidth.decode
  simp only
  change ∃ lift significand : Nat, (if word.toNat % 2 ^ 63 = FloatWidth.double.infinityBits then _
    else if FloatWidth.double.infinityBits < word.toNat % 2 ^ 63 then _
    else if word.toNat % 2 ^ 63 / 2 ^ 52 = 0 then _ else _) = _ ∧ _
  rw [if_neg isFinite.ne, if_neg isFinite.not_gt]
  split
  · exact ⟨0, word.toNat % 2 ^ 63 % 2 ^ 52, rfl, by omega, by omega, .inr rfl⟩
  · refine ⟨word.toNat % 2 ^ 63 / 2 ^ 52 - 1, word.toNat % 2 ^ 63 % 2 ^ 52 + 2 ^ 52, ?_, by omega,
      by omega, .inl (by omega)⟩
    show BinaryNumber.finite (decide (2 ^ 63 ≤ word.toNat))
      (word.toNat % 2 ^ 63 % 2 ^ 52 + 2 ^ 52)
      (-1074 + ((word.toNat % 2 ^ 63 / 2 ^ 52 - 1 : Nat) : Int)) = _
    rw [Int.add_comm]
    rfl

end Parts

section Ranks

variable {number left right : Float} {rank leftRank rightRank : Int}

theorem isFinite_iff : Scalar.isFinite number = true ↔
    ∃ rank, orderRank? number = some rank ∧ IsFiniteRank rank := by
  constructor
  · intro isFinite
    obtain ⟨rank, hasRank, above, below⟩ := Extreme.orderRank?_of_isFinite isFinite
    exact ⟨rank, hasRank, by unfold IsFiniteRank; omega⟩
  · rintro ⟨rank, hasRank, isFinite⟩
    obtain ⟨_, rfl⟩ := exists_place hasRank
    have inRange :
        number.toModel.toBits.toBitVec.toNat % 2 ^ 63 < FloatWidth.double.infinityBits := by
      unfold IsFiniteRank at isFinite
      generalize Sign.ofBitVec _ = sign at isFinite
      cases sign with
      | negative => exact (Int.natAbs_neg _).symm.trans_lt isFinite
      | positive => exact isFinite
    obtain ⟨lift, significand, isDecoded, _, _, _⟩ := exists_decode inRange
    have parts : binaryParts number = _ := isDecoded
    simp only [Scalar.isFinite, parts]

/-- The whole part of a finite double that is not negative. -/
theorem wholePart_of_rank {place : Nat} (hasRank : orderRank? number = some (place : Int))
    (isFinite : place < FloatWidth.double.infinityBits) :
    wholePart number = (stepsAt place / stepsPerUnit : Nat) := by
  have isPlace : number.toModel.toBits.toBitVec.toNat % 2 ^ 63 = place ∧
      (2 ^ 63 ≤ number.toModel.toBits.toBitVec.toNat → place = 0) := by
    have bits : number.toBits.toNat = number.toModel.toBits.toBitVec.toNat := rfl
    unfold orderRank? at hasRank
    simp only [bits] at hasRank
    split at hasRank
    · cases hasRank
    split at hasRank
    · have same := Option.some.inj hasRank
      omega
    · have same := Option.some.inj hasRank
      omega
  obtain ⟨rfl, onlyZero⟩ := isPlace
  obtain ⟨lift, significand, isDecoded, isPlace, fits, isFull⟩ := exists_decode isFinite
  have parts : binaryParts number = _ := isDecoded
  have steps := stepsAt_add fits.le isFull
  have size : (if 0 ≤ (lift : Int) - 1074 then significand * 2 ^ ((lift : Int) - 1074).natAbs
      else significand / 2 ^ ((lift : Int) - 1074).natAbs) =
        stepsAt (number.toModel.toBits.toBitVec.toNat % 2 ^ 63) / stepsPerUnit := by
    rw [isPlace, steps]
    split
    · rename_i isHigh
      obtain ⟨excess, isExcess⟩ : ∃ excess : Nat, lift = excess + 1074 := ⟨lift - 1074, by omega⟩
      have amount : ((lift : Int) - 1074).natAbs = excess := by omega
      have power : 2 ^ lift = 2 ^ excess * stepsPerUnit := by
        rw [isExcess, Nat.pow_add, two_pow_eq rfl]
      rw [amount, power, ← Nat.mul_assoc, Nat.mul_div_cancel _ stepsPerUnit_pos]
    · rename_i isLow
      obtain ⟨deficit, isDeficit⟩ : ∃ deficit : Nat, 1074 = lift + deficit := ⟨1074 - lift, by omega⟩
      have amount : ((lift : Int) - 1074).natAbs = deficit := by omega
      have power : stepsPerUnit = 2 ^ deficit * 2 ^ lift := by
        rw [← Nat.pow_add, Nat.add_comm, ← isDeficit, two_pow_eq rfl]
      rw [amount, power, Nat.mul_div_mul_right _ _ (Nat.two_pow_pos _)]
  unfold wholePart
  rw [parts]
  simp only [size]
  split
  · rename_i isNegative
    have atZero := onlyZero (of_decide_eq_true isNegative)
    rw [atZero, stepsAt_zero, Nat.zero_div]
    rfl
  · rfl

theorem lt_eq (hasLeft : orderRank? left = some leftRank)
    (hasRight : orderRank? right = some rightRank) :
    Scalar.lt left right = decide (leftRank < rightRank) := by
  simp only [Scalar.lt, hasLeft, hasRight]

theorem eq_eq (hasLeft : orderRank? left = some leftRank)
    (hasRight : orderRank? right = some rightRank) :
    Scalar.eq left right = decide (leftRank = rightRank) := by
  simp only [Scalar.eq, hasLeft, hasRight]

theorem le_eq (hasLeft : orderRank? left = some leftRank)
    (hasRight : orderRank? right = some rightRank) :
    Scalar.le left right = decide (leftRank ≤ rightRank) := by
  rw [Scalar.le, lt_eq hasLeft hasRight, eq_eq hasLeft hasRight, ← Bool.decide_or]
  exact decide_eq_decide.mpr Int.le_iff_lt_or_eq.symm

theorem exists_ranks_of_le (isLess : Scalar.le left right = true) :
    ∃ leftRank rightRank, orderRank? left = some leftRank ∧ orderRank? right = some rightRank ∧
      leftRank ≤ rightRank := by
  cases hasLeft : orderRank? left with
  | none =>
      simp only [Scalar.le, Scalar.lt, Scalar.eq, hasLeft] at isLess
      cases isLess
  | some leftRank =>
      cases hasRight : orderRank? right with
      | none =>
          simp only [Scalar.le, Scalar.lt, Scalar.eq, hasLeft, hasRight] at isLess
          cases isLess
      | some rightRank =>
          rw [le_eq hasLeft hasRight] at isLess
          exact ⟨leftRank, rightRank, rfl, rfl, of_decide_eq_true isLess⟩

theorem le_trans_reals {middle : Float} (isLess : Scalar.le left middle = true)
    (isLater : Scalar.le middle right = true) : Scalar.le left right = true := by
  obtain ⟨leftRank, middleRank, hasLeft, hasMiddle, atMost⟩ := exists_ranks_of_le isLess
  obtain ⟨_, rightRank, sameMiddle, hasRight, atLeast⟩ := exists_ranks_of_le isLater
  cases sameMiddle.symm.trans hasMiddle
  rw [le_eq hasLeft hasRight]
  exact decide_eq_true (atMost.trans atLeast)

theorem orderRank?_minimum (hasLeft : orderRank? left = some leftRank)
    (hasRight : orderRank? right = some rightRank) :
    orderRank? (Scalar.minimum left right) = some (min leftRank rightRank) := by
  unfold Scalar.minimum
  rw [Extreme.isUndefined_eq_false.mpr ⟨_, hasLeft⟩, Extreme.isUndefined_eq_false.mpr ⟨_, hasRight⟩,
    lt_eq hasRight hasLeft]
  simp only [Bool.false_eq_true, if_false, decide_eq_true_eq]
  split
  · rw [hasRight]
    congr 1
    omega
  · rw [hasLeft]
    congr 1
    omega

theorem orderRank?_maximum (hasLeft : orderRank? left = some leftRank)
    (hasRight : orderRank? right = some rightRank) :
    orderRank? (Scalar.maximum left right) = some (max leftRank rightRank) := by
  unfold Scalar.maximum
  rw [Extreme.isUndefined_eq_false.mpr ⟨_, hasLeft⟩, Extreme.isUndefined_eq_false.mpr ⟨_, hasRight⟩,
    lt_eq hasLeft hasRight]
  simp only [Bool.false_eq_true, if_false, decide_eq_true_eq]
  split
  · rw [hasRight]
    congr 1
    omega
  · rw [hasLeft]
    congr 1
    omega

theorem isFiniteRank_or (hasRank : orderRank? number = some rank) :
    IsFiniteRank rank ∨ rank.natAbs = FloatWidth.double.infinityBits :=
  Nat.lt_or_eq_of_le (rank_le hasRank)

theorem isFinite_eq_false_iff (hasRank : orderRank? number = some rank) :
    Scalar.isFinite number = false ↔ rank.natAbs = FloatWidth.double.infinityBits := by
  constructor
  · intro notFinite
    refine (isFiniteRank_or hasRank).resolve_left fun isFinite => ?_
    rw [isFinite_iff.mpr ⟨rank, hasRank, isFinite⟩] at notFinite
    cases notFinite
  · intro isInfinite
    by_contra isFinite
    obtain ⟨other, hasOther, otherFinite⟩ := isFinite_iff.mp (by simpa using isFinite)
    rw [Option.some.inj (hasOther.symm.trans hasRank)] at otherFinite
    exact absurd otherFinite isInfinite.not_lt

theorem orderRank?_add (hasLeft : orderRank? left = some leftRank)
    (hasRight : orderRank? right = some rightRank) (leftFinite : IsFiniteRank leftRank)
    (rightFinite : IsFiniteRank rightRank) :
    ∃ rank, orderRank? (left + right) = some rank ∧
      RoundsTo (signedSteps leftRank + signedSteps rightRank) rank := by
  obtain ⟨rank, hasRank, rounds⟩ :=
    add_rounds (hasRank_unpack hasLeft) (hasRank_unpack hasRight) leftFinite rightFinite
  exact ⟨rank, orderRank?_pack hasRank, rounds⟩

theorem orderRank?_sub (hasLeft : orderRank? left = some leftRank)
    (hasRight : orderRank? right = some rightRank) (leftFinite : IsFiniteRank leftRank)
    (rightFinite : IsFiniteRank rightRank) :
    ∃ rank, orderRank? (left - right) = some rank ∧
      RoundsTo (signedSteps leftRank - signedSteps rightRank) rank := by
  obtain ⟨rank, hasRank, rounds⟩ :=
    sub_rounds (hasRank_unpack hasLeft) (hasRank_unpack hasRight) leftFinite rightFinite
  exact ⟨rank, orderRank?_pack hasRank, rounds⟩

theorem orderRank?_mul (hasLeft : orderRank? left = some leftRank)
    (hasRight : orderRank? right = some rightRank) (leftFinite : IsFiniteRank leftRank)
    (rightFinite : IsFiniteRank rightRank) :
    ∃ rank, orderRank? (left * right) = some rank ∧
      RoundsTo (signedSteps leftRank * signedSteps rightRank / stepsPerUnit) rank := by
  obtain ⟨rank, hasRank, rounds⟩ :=
    mul_rounds (hasRank_unpack hasLeft) (hasRank_unpack hasRight) leftFinite rightFinite
  exact ⟨rank, orderRank?_pack hasRank, rounds⟩

theorem orderRank?_div (hasLeft : orderRank? left = some leftRank)
    (hasRight : orderRank? right = some rightRank) (leftFinite : IsFiniteRank leftRank)
    (rightFinite : IsFiniteRank rightRank) (notZero : rightRank ≠ 0) :
    ∃ rank, orderRank? (left / right) = some rank ∧
      RoundsTo (signedSteps leftRank / signedSteps rightRank * stepsPerUnit) rank := by
  obtain ⟨rank, hasRank, rounds⟩ :=
    div_rounds (hasRank_unpack hasLeft) (hasRank_unpack hasRight) leftFinite rightFinite notZero
  exact ⟨rank, orderRank?_pack hasRank, rounds⟩

theorem hasRank_infinity (sign : Sign) :
    HasRank (.infinity sign) (sign.apply (FloatWidth.double.infinityBits : Int)) :=
  ⟨sign, _, .infinity, by rw [Nat.min_self]⟩

theorem hasRank_zero (sign : Sign) : HasRank (.zero sign) 0 :=
  ⟨sign, _, .zero, by cases sign <;> rfl⟩

/-- An infinity stays one, whatever finite double is taken from it. -/
theorem orderRank?_sub_of_infinite (hasLeft : orderRank? left = some leftRank)
    (hasRight : orderRank? right = some rightRank)
    (isInfinite : leftRank.natAbs = FloatWidth.double.infinityBits)
    (rightFinite : IsFiniteRank rightRank) : orderRank? (left - right) = some leftRank := by
  obtain ⟨sign, isUnpacked, rfl⟩ := unpack_of_infinite hasLeft isInfinite
  have stays : UnpackedFloat.sub Format.binary64 left.toModel.unpack right.toModel.unpack =
      .infinity sign := by
    rw [isUnpacked]
    rcases finite_cases (hasRank_unpack hasRight) rightFinite with ⟨other, isZero, _⟩ |
      ⟨other, _, _, _, isFinite, _, _⟩
    · rw [isZero]
      rfl
    · rw [isFinite]
      rfl
  refine orderRank?_pack ?_
  rw [stays]
  exact hasRank_infinity sign

/-- What a finite double is divided by, if that is infinite, leaves nothing. -/
theorem orderRank?_div_of_infinite (hasLeft : orderRank? left = some leftRank)
    (hasRight : orderRank? right = some rightRank) (leftFinite : IsFiniteRank leftRank)
    (isInfinite : rightRank.natAbs = FloatWidth.double.infinityBits) :
    orderRank? (left / right) = some 0 := by
  obtain ⟨other, isUnpacked, _⟩ := unpack_of_infinite hasRight isInfinite
  obtain ⟨sign, vanishes⟩ : ∃ sign,
      UnpackedFloat.div Format.binary64 left.toModel.unpack right.toModel.unpack = .zero sign := by
    rw [isUnpacked]
    rcases finite_cases (hasRank_unpack hasLeft) leftFinite with ⟨sign, isZero, _⟩ |
      ⟨sign, _, _, _, isFinite, _, _⟩
    · exact ⟨_, by rw [isZero]; rfl⟩
    · exact ⟨_, by rw [isFinite]; rfl⟩
  refine orderRank?_pack ?_
  rw [vanishes]
  exact hasRank_zero sign

theorem sign_apply (sign : Sign) {place : Nat} (isPositive : 0 < place) :
    (sign.apply (place : Int)).sign = sign.apply 1 := by
  cases sign with
  | negative => exact (Int.sign_neg _).trans (congrArg _ (Int.sign_natCast_of_ne_zero isPositive.ne'))
  | positive => exact Int.sign_natCast_of_ne_zero isPositive.ne'

theorem sign_signedSteps (rank : Int) : (signedSteps rank).sign = rank.sign := by
  rcases Int.lt_trichotomy rank 0 with isNegative | rfl | isPositive
  · rw [Int.sign_eq_neg_one_of_neg isNegative,
      Int.sign_eq_neg_one_of_neg (signedSteps_strictMono isNegative)]
  · rfl
  · rw [Int.sign_eq_one_of_pos isPositive, Int.sign_eq_one_of_pos (signedSteps_strictMono isPositive)]

/-- An operand is infinite, zero or finite and not zero; its sign bit is that of its rank. -/
theorem operand_cases {number : Float} {rank : Int} (hasRank : orderRank? number = some rank) :
    (∃ sign : Sign, number.toModel.unpack = .infinity sign ∧ rank.sign = sign.apply 1) ∨
    (∃ sign : Sign, number.toModel.unpack = .zero sign ∧ rank = 0) ∨
    ∃ sign significand exponent isPositive, number.toModel.unpack =
      .finite sign significand exponent isPositive ∧ rank.sign = sign.apply 1 ∧
        IsFiniteRank rank := by
  have someBits : 0 < FloatWidth.double.infinityBits := by decide
  rcases isFiniteRank_or hasRank with isFinite | isInfinite
  · rcases finite_cases (hasRank_unpack hasRank) isFinite with ⟨sign, isZero, atZero⟩ |
      ⟨sign, lift, significand, isPositive, isUnpacked, _, steps⟩
    · exact .inr (.inl ⟨sign, isZero, atZero⟩)
    · refine .inr (.inr ⟨sign, significand, _, isPositive, isUnpacked, ?_, isFinite⟩)
      rw [← sign_signedSteps, steps, ← apply_natCast, sign_apply]
      exact Nat.mul_pos isPositive (Nat.two_pow_pos _)
  · obtain ⟨sign, isUnpacked, rfl⟩ := unpack_of_infinite hasRank isInfinite
    exact .inl ⟨sign, isUnpacked, sign_apply sign someBits⟩

theorem orderRank?_mul_of_notANumber
    (isProduct : UnpackedFloat.mul Format.binary64 left.toModel.unpack right.toModel.unpack =
      .notANumber) : orderRank? (left * right) = none := by
  have packed := orderRank?_pack_notANumber
  rw [← isProduct] at packed
  exact packed

theorem orderRank?_mul_of_infinity {sign other : Sign}
    (isProduct : UnpackedFloat.mul Format.binary64 left.toModel.unpack right.toModel.unpack =
      .infinity (sign * other))
    (leftSign : leftRank.sign = sign.apply 1) (rightSign : rightRank.sign = other.apply 1) :
    orderRank? (left * right) = if leftRank = 0 ∨ rightRank = 0 then none
      else some (leftRank.sign * rightRank.sign * FloatWidth.double.infinityBits) := by
  have notZero : ∀ {rank : Int} {sign : Sign}, rank.sign = sign.apply 1 → rank ≠ 0 := by
    rintro _ sign isSign rfl
    cases sign <;> cases isSign
  have hasRank := hasRank_infinity (sign * other)
  rw [← isProduct, apply_natCast, apply_mul, ← leftSign, ← rightSign] at hasRank
  rw [if_neg (by simp [notZero leftSign, notZero rightSign])]
  exact orderRank?_pack hasRank

/-- An infinity times a finite number is infinite, except that times zero it is undefined. -/
theorem orderRank?_mul_of_infinite (hasLeft : orderRank? left = some leftRank)
    (hasRight : orderRank? right = some rightRank)
    (isInfinite : leftRank.natAbs = FloatWidth.double.infinityBits ∨
      rightRank.natAbs = FloatWidth.double.infinityBits) :
    orderRank? (left * right) = if leftRank = 0 ∨ rightRank = 0 then none
      else some (leftRank.sign * rightRank.sign * FloatWidth.double.infinityBits) := by
  have notBothFinite : ¬(IsFiniteRank leftRank ∧ IsFiniteRank rightRank) := by
    rintro ⟨leftFinite, rightFinite⟩
    rcases isInfinite with isInfinite | isInfinite
    · exact isInfinite.not_lt leftFinite
    · exact isInfinite.not_lt rightFinite
  rcases operand_cases hasLeft with ⟨sign, isLeft, leftSign⟩ | ⟨sign, isLeft, rfl⟩ |
    ⟨sign, _, _, _, isLeft, leftSign, leftFinite⟩
  · rcases operand_cases hasRight with ⟨other, isRight, rightSign⟩ | ⟨other, isRight, rfl⟩ |
      ⟨other, _, _, _, isRight, rightSign, _⟩
    · exact orderRank?_mul_of_infinity (by rw [isLeft, isRight]; rfl) leftSign rightSign
    · rw [if_pos (.inr rfl)]
      exact orderRank?_mul_of_notANumber (by rw [isLeft, isRight]; rfl)
    · exact orderRank?_mul_of_infinity (by rw [isLeft, isRight]; rfl) leftSign rightSign
  · rcases operand_cases hasRight with ⟨other, isRight, _⟩ | ⟨_, _, rfl⟩ |
      ⟨_, _, _, _, _, _, rightFinite⟩
    · rw [if_pos (.inl rfl)]
      exact orderRank?_mul_of_notANumber (by rw [isLeft, isRight]; rfl)
    · exact absurd ⟨by decide, by decide⟩ notBothFinite
    · exact absurd ⟨by decide, rightFinite⟩ notBothFinite
  · rcases operand_cases hasRight with ⟨other, isRight, rightSign⟩ | ⟨_, _, rfl⟩ |
      ⟨_, _, _, _, _, _, rightFinite⟩
    · exact orderRank?_mul_of_infinity (by rw [isLeft, isRight]; rfl) leftSign rightSign
    · exact absurd ⟨leftFinite, by decide⟩ notBothFinite
    · exact absurd ⟨leftFinite, rightFinite⟩ notBothFinite

end Ranks

section Wholes

/-- Every whole number up to the second power of 53 has a place. -/
theorem exists_place_of_whole {number : Nat} (fits : number ≤ 2 ^ 53) :
    ∃ place, stepsAt place = number * stepsPerUnit ∧ place < FloatWidth.double.infinityBits := by
  have limit : FloatWidth.double.infinityBits = 2047 * 2 ^ 52 := rfl
  rcases Nat.eq_zero_or_pos number with rfl | isPositive
  · exact ⟨0, by simp, by omega⟩
  rcases Nat.lt_or_eq_of_le fits with isUncarried | isCarried
  · have places : number.log2 ≤ 52 :=
      Nat.le_of_lt_succ ((Nat.log2_lt isPositive.ne').mpr isUncarried)
    obtain ⟨shift, isShift⟩ : ∃ shift, number.log2 + shift = 52 := ⟨52 - number.log2, by omega⟩
    obtain ⟨lift, isLift⟩ : ∃ lift, shift + lift = 1074 := ⟨1074 - shift, by omega⟩
    have isLong : 2 ^ 52 ≤ number * 2 ^ shift := by
      rw [← isShift, Nat.pow_add]
      exact Nat.mul_le_mul_right _ (Nat.log2_self_le isPositive.ne')
    have isShort : number * 2 ^ shift ≤ 2 ^ 53 := by
      have below : number ≤ 2 ^ (number.log2 + 1) := Nat.lt_log2_self.le
      calc number * 2 ^ shift ≤ 2 ^ (number.log2 + 1) * 2 ^ shift := Nat.mul_le_mul_right _ below
        _ = 2 ^ 53 := by
            rw [← Nat.pow_add]
            congr 1
            omega
    refine ⟨lift * 2 ^ 52 + number * 2 ^ shift, ?_, by omega⟩
    rw [stepsAt_add isShort (.inl isLong), Nat.mul_assoc, ← Nat.pow_add, two_pow_eq isLift]
  · refine ⟨1074 * 2 ^ 52 + 2 ^ 53, ?_, by omega⟩
    rw [stepsAt_add le_rfl (.inl (by omega)), two_pow_eq rfl, isCarried]

/-- A whole number that has a place is rounded to it. -/
theorem RoundsTo.whole {number : Nat} {rank : Int} (fits : number ≤ 2 ^ 53)
    (rounds : RoundsTo (number * stepsPerUnit) rank) :
    signedSteps rank = number * stepsPerUnit ∧ IsFiniteRank rank := by
  obtain ⟨place, steps, isFinite⟩ := exists_place_of_whole fits
  have atPlace : RoundsTo (number * stepsPerUnit) (place : Int) := by
    have here : RoundsTo (signedSteps place) place := RoundsTo.self isFinite.le
    rw [signedSteps_natCast, steps] at here
    push_cast at here
    exact here
  rw [rounds.unique atPlace]
  refine ⟨?_, isFinite⟩
  rw [signedSteps_natCast, steps]
  push_cast
  rfl

theorem orderRank?_one : orderRank? (Float.ofBits 0x3FF0000000000000) = some 0x3FF0000000000000 := by
  decide +kernel

theorem signedSteps_one : signedSteps 0x3FF0000000000000 = stepsPerUnit := by
  obtain ⟨lift, isLift⟩ : ∃ lift : Nat, lift = 1022 := ⟨_, rfl⟩
  have isOne : (0x3FF0000000000000 : Int) = ((lift * 2 ^ 52 + 2 ^ 52 : Nat) : Int) := by omega
  rw [isOne, signedSteps_natCast, stepsAt_add (by omega) (.inl le_rfl), ← Nat.pow_add,
    two_pow_eq (by omega)]

/-- A whole number in a machine word becomes the nearest double. -/
theorem orderRank?_toFloat {number : Nat} (inWord : number < 2 ^ 64) :
    ∃ rank, orderRank? number.toUInt64.toFloat = some rank ∧
      RoundsTo (number * stepsPerUnit) rank := by
  have normalized : ∃ rank, HasRank (normalize Format.binary64 number 0 .positive) rank ∧
      RoundsTo (number * stepsPerUnit) rank := by
    refine normalize_rounds ?_
    rw [cast_stepsPerUnit, Int.zero_add, Int.cast_natCast]
  obtain ⟨rank, hasRank, rounds⟩ := normalized
  refine ⟨rank, orderRank?_pack ?_, rounds⟩
  have isKept : number.toUInt64.toNat = number := Nat.mod_eq_of_lt inWord
  show HasRank (normalize Format.binary64 (number.toUInt64.toNat : Nat) 0 .positive) rank
  rwa [isKept]

/-- A long whole number, as a literal without decimals, becomes the nearest double. -/
theorem ofScientific_rounds {number : Nat} (isLong : 2 ^ 53 ≤ number) :
    ∃ rank, HasRank (UnpackedFloat.ofScientific Format.binary64 number 0) rank ∧
      RoundsTo (number * stepsPerUnit) rank := by
  have notZero : number ≠ 0 := by omega
  have isProduct : UnpackedFloat.ofScientific Format.binary64 number 0 =
      roundWithAccuracy Format.binary64 .positive (number <<< 53 * 10 ^ (0 : Int).toNat)
        (-(53 : Nat) + 0) .exact := by
    unfold UnpackedFloat.ofScientific
    have notSmall : ¬(0 : Int) < -((2 ^ 11 : Int) + number.log2) := by omega
    rw [dif_neg notZero, if_neg (by decide), if_neg notSmall, if_pos (Int.le_refl 0)]
    rfl
  rw [isProduct]
  refine exact_rounds (.inl ?_) ?_
  · rw [Nat.shiftLeft_eq]
    show 2 ^ 52 ≤ number * 2 ^ 53 * 1
    omega
  · have power : (2 : ℚ) ^ (53 : Nat) * 2 ^ (-((53 : Nat) : Int) + 0 + 1074) = stepsPerUnit := by
      rw [cast_stepsPerUnit, ← zpow_natCast, ← zpow_add₀ two_ne_zero]
      congr 1
    have mantissa : ((number <<< 53 * 10 ^ (0 : Int).toNat : Nat) : ℚ) = number * 2 ^ 53 := by
      rw [Nat.shiftLeft_eq, Int.toNat_zero, pow_zero, Nat.mul_one, Nat.cast_mul, Nat.cast_pow,
        Nat.cast_ofNat]
    rw [← power, mantissa, mul_assoc]
    exact (one_mul _).symm

/-- A whole number as a double is the nearest one to it. -/
theorem orderRank?_ofNat (number : Nat) : ∃ rank, orderRank? (Float.ofInt number) = some rank ∧
    RoundsTo (number * stepsPerUnit) rank := by
  show ∃ rank, orderRank? (Float.ofScientific number false 0) = some rank ∧ _
  unfold Float.ofScientific
  split
  · rename_i isShort
    -- A short number is converted without loss and multiplied by 1.
    obtain ⟨rank, converted, rounds⟩ := orderRank?_toFloat (show number < 2 ^ 64 by omega)
    obtain ⟨steps, isFinite⟩ := rounds.whole isShort.1.le
    obtain ⟨productRank, hasProduct, productRounds⟩ :=
      orderRank?_mul converted orderRank?_one isFinite (by decide)
    refine ⟨productRank, hasProduct, ?_⟩
    have isNonzero : (stepsPerUnit : ℚ) ≠ 0 := Nat.cast_ne_zero.mpr stepsPerUnit_pos.ne'
    rw [signedSteps_one, Int.cast_natCast, mul_div_cancel_right₀ _ isNonzero, steps] at productRounds
    push_cast at productRounds
    exact productRounds
  · rename_i isLong
    obtain ⟨rank, hasRank, rounds⟩ := ofScientific_rounds (show 2 ^ 53 ≤ number by omega)
    exact ⟨rank, orderRank?_pack hasRank, rounds⟩

/-- The doubles reach beyond every whole number in a machine word with a sign. -/
theorem holds_ofNat {number : Nat} (inWord : number < 2 ^ 63) :
    Scalar.holds Float number = true := by
  obtain ⟨rank, hasRank, rounds⟩ := orderRank?_ofNat number
  obtain ⟨lift, isLift⟩ : ∃ lift : Nat, lift = 1074 := ⟨_, rfl⟩
  obtain ⟨place, isPlace⟩ : ∃ place, place = (11 + lift) * 2 ^ 52 + 2 ^ 52 := ⟨_, rfl⟩
  have limit : FloatWidth.double.infinityBits = 2047 * 2 ^ 52 := rfl
  have steps : stepsAt place = 2 ^ 63 * stepsPerUnit := by
    rw [isPlace, stepsAt_add (by omega) (.inl le_rfl), Nat.pow_add, two_pow_eq isLift,
      ← Nat.mul_assoc, ← Nat.pow_add]
  have atPlace : RoundsTo ((stepsAt place : Nat) : ℚ) (place : Int) := by
    have here : RoundsTo (signedSteps place) place := RoundsTo.self (by omega)
    rw [signedSteps_natCast] at here
    exact here
  have isBelow : rank ≤ place := by
    apply rounds.mono atPlace
    rw [steps, ← Nat.cast_mul]
    exact Nat.cast_le.mpr (Nat.mul_le_mul_right _ inWord.le)
  have isNatural : 0 ≤ rank :=
    RoundsTo.zero.mono rounds (mul_nonneg (Nat.cast_nonneg _) (Nat.cast_nonneg _))
  have finiteRank : IsFiniteRank rank := by
    unfold IsFiniteRank
    omega
  exact isFinite_iff.mpr ⟨rank, hasRank, finiteRank⟩

end Wholes

end FieldSurvey
