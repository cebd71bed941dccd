import Mathlib.Algebra.Order.Field.Power
import Mathlib.Tactic.FieldSimp
import FieldSurvey.Proofs.Binary.Places

/-!
How arithmetic on doubles rounds. A result is a whole mantissa, a power of two and what is known of
the part below the last place of the mantissa. It is shifted to its power of two, rounded there, and
shifted once more if the rounding carried. What comes out stands at the place nearest to the exact
result.
-/

namespace FieldSurvey

open Float.Model Float.Model.UnpackedFloat

/-- What is known of the part of a number below the last place of its mantissa. -/
def CutsOff (rest : ℚ) : Accuracy → Prop
  | .exact => rest = 0
  | .inexact .lt => 0 < rest ∧ rest < 1 / 2
  | .inexact .eq => rest = 1 / 2
  | .inexact .gt => 1 / 2 < rest ∧ rest < 1

section Mantissas

theorem CutsOff.bounds {rest : ℚ} : ∀ {accuracy : Accuracy}, CutsOff rest accuracy →
    0 ≤ rest ∧ rest < 1
  | .exact, isExact => by rw [isExact]; norm_num
  | .inexact .lt, ⟨above, below⟩ => ⟨above.le, by linarith⟩
  | .inexact .eq, isHalf => by rw [isHalf]; norm_num
  | .inexact .gt, ⟨above, below⟩ => ⟨by linarith, below⟩

theorem accuracy_ofMantissaAndAccuracy (mantissa : Nat) : ∀ accuracy : Accuracy,
    (ExtendedMantissa.ofMantissaAndAccuracy mantissa accuracy).accuracy = accuracy
  | .exact => rfl
  | .inexact .lt => rfl
  | .inexact .eq => rfl
  | .inexact .gt => rfl

theorem mantissa_ofMantissaAndAccuracy (mantissa : Nat) : ∀ accuracy : Accuracy,
    (ExtendedMantissa.ofMantissaAndAccuracy mantissa accuracy).mantissa = mantissa
  | .exact => rfl
  | .inexact .lt => rfl
  | .inexact .eq => rfl
  | .inexact .gt => rfl

/-- A mantissa with its residual bits tells what is below its last place. -/
def Extends (number : ℚ) (extended : ExtendedMantissa) : Prop :=
  CutsOff (number - extended.mantissa) extended.accuracy

variable {number : ℚ} {extended : ExtendedMantissa}

theorem Extends.shiftRightOne (isExtended : Extends number extended) :
    Extends (number / 2) extended.shiftRightOne := by
  obtain ⟨mantissa, roundBit, stickyBit⟩ := extended
  obtain ⟨half, isEven | isOdd⟩ := mantissa.even_or_odd'
  · subst isEven
    have halved : 2 * half / 2 = half := by omega
    have lastBit : (2 * half % 2 != 0) = false := by simp
    cases roundBit <;> cases stickyBit <;>
      simp only [Extends, CutsOff, ExtendedMantissa.accuracy, ExtendedMantissa.shiftRightOne, halved,
        lastBit, Bool.or_false, Bool.or_true, Nat.cast_mul, Nat.cast_ofNat] at isExtended ⊢
    · linarith
    · exact ⟨by linarith, by linarith⟩
    · exact ⟨by linarith, by linarith⟩
    · exact ⟨by linarith, by linarith⟩
  · subst isOdd
    have halved : (2 * half + 1) / 2 = half := by omega
    have lastBit : ((2 * half + 1) % 2 != 0) = true := by simp
    cases roundBit <;> cases stickyBit <;>
      simp only [Extends, CutsOff, ExtendedMantissa.accuracy, ExtendedMantissa.shiftRightOne, halved,
        lastBit, Bool.or_false, Bool.or_true, Nat.cast_add, Nat.cast_mul, Nat.cast_ofNat,
        Nat.cast_one] at isExtended ⊢
    · linarith
    · exact ⟨by linarith, by linarith⟩
    · exact ⟨by linarith, by linarith⟩
    · exact ⟨by linarith, by linarith⟩

theorem Extends.shiftRight (isExtended : Extends number extended) (shift : Nat) :
    Extends (number / 2 ^ shift) (extended >>> shift) := by
  change Extends _ (shift.repeat ExtendedMantissa.shiftRightOne extended)
  induction shift with
  | zero => simpa [Nat.repeat] using isExtended
  | succ shift inductionHypothesis =>
      rw [pow_succ, ← div_div]
      exact inductionHypothesis.shiftRightOne

theorem Extends.isRounded (isExtended : Extends number extended) :
    IsRounded number extended.roundedMantissa := by
  obtain ⟨mantissa, roundBit, stickyBit⟩ := extended
  unfold Extends at isExtended
  unfold ExtendedMantissa.roundedMantissa
  cases accuracy : ExtendedMantissa.accuracy ⟨mantissa, roundBit, stickyBit⟩ with
  | exact =>
      simp only [accuracy, CutsOff] at isExtended
      exact ⟨.inl (by simp only [Accuracy.roundToNearestEven]; linarith),
        .inl (by simp only [Accuracy.roundToNearestEven]; linarith)⟩
  | inexact half =>
      cases half with
      | lt =>
          simp only [accuracy, CutsOff] at isExtended
          exact ⟨.inl (by simp only [Accuracy.roundToNearestEven]; linarith),
            .inl (by simp only [Accuracy.roundToNearestEven]; linarith)⟩
      | gt =>
          simp only [accuracy, CutsOff] at isExtended
          refine ⟨.inl ?_, .inl ?_⟩
          · simp only [Accuracy.roundToNearestEven]
            push_cast
            linarith
          · simp only [Accuracy.roundToNearestEven]
            push_cast
            linarith
      | eq =>
          simp only [accuracy, CutsOff] at isExtended
          simp only [Accuracy.roundToNearestEven]
          obtain ⟨half, isEven | isOdd⟩ := mantissa.even_or_odd'
          · have kept : mantissa + mantissa % 2 = mantissa := by omega
            rw [kept]
            exact ⟨.inl (by linarith), .inr ⟨by linarith, by omega⟩⟩
          · have raised : mantissa + mantissa % 2 = mantissa + 1 := by omega
            rw [raised]
            refine ⟨.inr ⟨?_, by omega⟩, .inl ?_⟩
            · push_cast
              linarith
            · push_cast
              linarith

end Mantissas

section Shifting

variable {mantissa : Nat} {exponent : Int} {accuracy : Accuracy} {rest : ℚ}

/-- The exponent that a double takes for a mantissa of up to 53 places; the smallest doubles have
one exponent in common. -/
theorem targetExponent_totalExponent (mantissa : Nat) (exponent : Int) :
    Format.binary64.targetExponent (totalExponent mantissa exponent) =
      max (mantissa.log2 + exponent - 52) (-1074) := by
  have split : totalExponent mantissa exponent - (Format.binary64.mantissaBits : Nat) =
      mantissa.log2 + exponent - 52 := by
    show ((mantissa.log2 : Int) + 1 + exponent) - (53 : Nat) = _
    omega
  unfold Format.targetExponent
  rw [split]
  rfl

/-- A mantissa with enough places to be rounded. -/
def IsFull (mantissa : Nat) (exponent : Int) : Prop := 2 ^ 52 ≤ mantissa ∨ exponent ≤ -1074

theorem shiftToTargetExponent_eq (shift : Nat)
    (amount : (max ((mantissa.log2 : Int) + exponent - 52) (-1074) - exponent).toNat = shift) :
    shiftToTargetExponent Format.binary64 mantissa exponent accuracy =
      (ExtendedMantissa.ofMantissaAndAccuracy mantissa accuracy >>> shift, exponent + shift) := by
  unfold shiftToTargetExponent shiftToExponent
  rw [targetExponent_totalExponent]
  simp only [amount]

/-- The mantissa of a number after the shift to its target exponent. -/
theorem exists_shifted (cutsOff : CutsOff rest accuracy) (isFull : IsFull mantissa exponent) :
    ∃ (extended : ExtendedMantissa) (lift : Nat) (number : ℚ),
      shiftToTargetExponent Format.binary64 mantissa exponent accuracy =
        (extended, (lift : Int) - 1074) ∧
      Extends number extended ∧
      (mantissa + rest) * (2 : ℚ) ^ (exponent + 1074) = number * 2 ^ lift ∧
      0 ≤ number ∧ number < 2 ^ 53 ∧ (2 ^ 52 ≤ number ∨ lift = 0) := by
  obtain ⟨notNegative, belowOne⟩ := cutsOff.bounds
  have longEnough : 2 ^ 52 ≤ mantissa → 52 ≤ mantissa.log2 := by
    intro isLong
    exact (Nat.le_log2 (by omega)).mpr isLong
  obtain ⟨shift, lift, isTarget, isLift, isShift⟩ : ∃ shift lift : Nat,
      max ((mantissa.log2 : Int) + exponent - 52) (-1074) = exponent + shift ∧
      exponent + shift = (lift : Int) - 1074 ∧
      mantissa.log2 ≤ shift + 52 ∧ (lift = 0 ∨ mantissa.log2 = shift + 52) := by
    refine ⟨(max ((mantissa.log2 : Int) + exponent - 52) (-1074) - exponent).toNat,
      (max ((mantissa.log2 : Int) + exponent - 52) (-1074) + 1074).toNat, ?_, ?_, ?_, ?_⟩ <;>
    · rcases isFull with isLong | isLow
      · have places := longEnough isLong
        omega
      · omega
  have scale : (0 : ℚ) < 2 ^ shift := by positivity
  have isExtended : Extends (mantissa + rest)
      (ExtendedMantissa.ofMantissaAndAccuracy mantissa accuracy) := by
    unfold Extends
    rw [mantissa_ofMantissaAndAccuracy, accuracy_ofMantissaAndAccuracy]
    simpa using cutsOff
  refine ⟨_, lift, (mantissa + rest) / 2 ^ shift, ?_, isExtended.shiftRight shift, ?_, ?_, ?_, ?_⟩
  · rw [shiftToTargetExponent_eq shift (by omega), isLift]
  · have powers : (2 : ℚ) ^ (exponent + 1074) * 2 ^ shift = 2 ^ lift := by
      rw [← zpow_natCast, ← zpow_natCast, ← zpow_add₀ two_ne_zero]
      congr 1
      omega
    rw [← powers]
    field_simp
  · positivity
  · rw [div_lt_iff₀ scale, ← pow_add]
    have inPlaces : mantissa + 1 ≤ 2 ^ (53 + shift) :=
      (Nat.lt_log2_self (n := mantissa)).trans_le (Nat.pow_le_pow_right two_pos (by omega))
    have inPlaces : (mantissa : ℚ) + 1 ≤ 2 ^ (53 + shift) := by exact_mod_cast inPlaces
    linarith
  · rcases isShift.2 with notLifted | places
    · exact .inr notLifted
    · left
      rw [le_div_iff₀ scale, ← pow_add]
      have isLong : 2 ^ (52 + shift) ≤ mantissa := by
        rw [Nat.add_comm, ← places]
        exact Nat.log2_self_le (by rintro rfl; simp at places)
      have isLong : (2 : ℚ) ^ (52 + shift) ≤ mantissa := by exact_mod_cast isLong
      linarith

end Shifting

/-- An unpacked number that stands at a place, on the side of zero that a sign tells. -/
inductive StandsAt (sign : Sign) : UnpackedFloat → Nat → Prop where
  | infinity : StandsAt sign (.infinity sign) FloatWidth.double.infinityBits
  | zero : StandsAt sign (.zero sign) 0
  | finite (lift significand : Nat) (isPositive : 0 < significand) (fits : significand < 2 ^ 53)
      (isFull : 2 ^ 52 ≤ significand ∨ lift = 0) :
      StandsAt sign (.finite sign significand ((lift : Int) - 1074) isPositive)
        (lift * 2 ^ 52 + significand)

theorem StandsAt.of_exponent {sign : Sign} {significand place : Nat} {exponent : Int}
    (isPositive : 0 < significand) (lift : Nat) (isExponent : exponent = (lift : Int) - 1074)
    (isPlace : place = lift * 2 ^ 52 + significand) (fits : significand < 2 ^ 53)
    (isFull : 2 ^ 52 ≤ significand ∨ lift = 0) :
    StandsAt sign (.finite sign significand exponent isPositive) place := by
  subst isExponent isPlace
  exact .finite lift significand isPositive fits isFull

/-- A rounded result stands at the place nearest to the exact one. -/
theorem exists_roundWithAccuracy (sign : Sign) {mantissa : Nat} {exponent : Int}
    {accuracy : Accuracy} {rest : ℚ} (cutsOff : CutsOff rest accuracy)
    (isFull : IsFull mantissa exponent) :
    ∃ place, IsNearest ((mantissa + rest) * 2 ^ (exponent + 1074)) place ∧
      StandsAt sign (roundWithAccuracy Format.binary64 sign mantissa exponent accuracy) place := by
  obtain ⟨extended, lift, number, shifted, isExtended, isNumber, notNegative, inPlaces, isLong⟩ :=
    exists_shifted cutsOff isFull
  have isRounded := isExtended.isRounded
  have fits : extended.roundedMantissa ≤ 2 ^ 53 := by
    by_contra beyond
    have beyond : (2 : ℚ) ^ 53 + 1 ≤ extended.roundedMantissa := by
      exact_mod_cast Nat.succ_le_of_lt (Nat.lt_of_not_le beyond)
    rcases isRounded.above with above | ⟨above, _⟩ <;> linarith
  have isFull : 2 ^ 52 ≤ number ∧ 2 ^ 52 ≤ extended.roundedMantissa ∨ lift = 0 := by
    refine isLong.imp_left fun isLong => ⟨isLong, ?_⟩
    by_contra isShort
    have isShort : (extended.roundedMantissa : ℚ) + 1 ≤ 2 ^ 52 := by
      exact_mod_cast Nat.succ_le_of_lt (Nat.lt_of_not_le isShort)
    rcases isRounded.below with below | ⟨below, _⟩ <;> linarith
  refine ⟨_, isNumber ▸ IsNearest.of_isRounded isRounded fits isFull, ?_⟩
  unfold roundWithAccuracy
  rw [shifted]
  dsimp only
  generalize extended.roundedMantissa = significand at fits isFull
  rcases Nat.lt_or_eq_of_le fits with isUncarried | isCarried
  · have places : significand.log2 ≤ 52 := by
      rcases Nat.eq_zero_or_pos significand with rfl | isPositive
      · decide
      · exact Nat.le_of_lt_succ ((Nat.log2_lt isPositive.ne').mpr isUncarried)
    rw [shiftToTargetExponent_eq 0 (by omega)]
    change StandsAt sign (if h : significand = 0 then .zero sign else
      .finite sign significand ((lift : Int) - 1074 + (0 : Nat)) (Nat.pos_of_ne_zero h)) _
    by_cases isZero : significand = 0
    · have notLifted : lift = 0 := by
        rcases isFull with ⟨_, isLong⟩ | notLifted
        · omega
        · exact notLifted
      rw [dif_pos isZero, isZero, notLifted]
      exact .zero
    · rw [dif_neg isZero]
      exact .of_exponent _ lift (by omega) rfl isUncarried (isFull.imp_left And.right)
  · have places : significand.log2 = 53 := by
      rw [isCarried]
      exact Nat.log2_two_pow
    rw [shiftToTargetExponent_eq 1 (by omega)]
    change StandsAt sign (if h : significand / 2 = 0 then .zero sign else
      .finite sign (significand / 2) ((lift : Int) - 1074 + (1 : Nat)) (Nat.pos_of_ne_zero h)) _
    rw [dif_neg (by omega)]
    exact .of_exponent _ (lift + 1) (by omega) (by omega) (by omega) (.inl (by omega))

end FieldSurvey
