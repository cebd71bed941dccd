import FieldSurvey.Proofs.Binary.Doubles
import FieldSurvey.Proofs.Kernel.Tally

/-!
Bins of doubles. The position of a number is its distance from the lower bound times the number of
bins per unit. Both are rounded, and as rounding is monotone, greater numbers have no lower bins.
Only a product of zero and an infinity is no position: that of an infinite distance where the range
is too wide for any bins per unit, and that of no distance where these are too many for a double.
-/

namespace FieldSurvey

/-- The number of bins per unit between two bounds. -/
def binsPerUnit (low high : Float) (binCount : Nat) : Float :=
  Scalar.ofInt binCount / (high - low)

/-- The number has no position between the bounds: the width of the range and its distance from the
lower bound are both beyond all doubles, or the bins per unit are and it is the lower bound. -/
def IsLost (low high : Float) (binCount : Nat) (number : Float) : Prop :=
  (Scalar.isFinite (high - low) = false ∧ Scalar.isFinite (number - low) = false) ∨
    (Scalar.isFinite (binsPerUnit low high binCount) = false ∧ Scalar.eq number low = true)

instance (low high : Float) (binCount : Nat) (number : Float) :
    Decidable (IsLost low high binCount number) :=
  inferInstanceAs (Decidable ((_ ∧ _) ∨ (_ ∧ _)))

/-- A range of finite doubles that is cut into bins, as many as doubles can count. -/
structure IsRange (low high : Float) (binCount : Nat) : Prop where
  lowFinite : Scalar.isFinite low = true
  highFinite : Scalar.isFinite high = true
  increasing : Scalar.lt low high = true
  someBins : 0 < binCount
  fits : binCount ≤ 2 ^ 53

section Ranks

variable {low number : Float}
  {lowRank rank otherRank distance otherDistance scale position otherPosition : Int}

/-- The rank of the distance of a number from a finite one. -/
def IsDistance (lowRank rank distance : Int) : Prop :=
  IsFiniteRank rank ∧ RoundsTo (signedSteps rank - signedSteps lowRank) distance ∨
    rank.natAbs = FloatWidth.double.infinityBits ∧ distance = rank

theorem exists_distance (hasLow : orderRank? low = some lowRank) (lowFinite : IsFiniteRank lowRank)
    (hasRank : orderRank? number = some rank) :
    ∃ distance, orderRank? (number - low) = some distance ∧ IsDistance lowRank rank distance := by
  rcases isFiniteRank_or hasRank with isFinite | isInfinite
  · obtain ⟨distance, hasDistance, rounds⟩ := orderRank?_sub hasRank hasLow isFinite lowFinite
    exact ⟨distance, hasDistance, .inl ⟨isFinite, rounds⟩⟩
  · exact ⟨rank, orderRank?_sub_of_infinite hasRank hasLow isInfinite lowFinite,
      .inr ⟨isInfinite, rfl⟩⟩

theorem IsDistance.natAbs_le (isDistance : IsDistance lowRank rank distance) :
    distance.natAbs ≤ FloatWidth.double.infinityBits := by
  rcases isDistance with ⟨_, rounds⟩ | ⟨isInfinite, rfl⟩
  · exact rounds.natAbs_le
  · exact isInfinite.le

theorem IsDistance.mono (isDistance : IsDistance lowRank rank distance)
    (isOther : IsDistance lowRank otherRank otherDistance) (isLess : rank ≤ otherRank) :
    distance ≤ otherDistance := by
  have inRange := isDistance.natAbs_le
  have otherInRange := isOther.natAbs_le
  rcases isDistance with ⟨isFinite, rounds⟩ | ⟨isInfinite, rfl⟩
  · rcases isOther with ⟨_, otherRounds⟩ | ⟨otherInfinite, rfl⟩
    · refine rounds.mono otherRounds (sub_le_sub_right ?_ _)
      exact Int.cast_le.mpr (signedSteps_strictMono.monotone isLess)
    · unfold IsFiniteRank at isFinite
      omega
  · rcases isOther with ⟨otherFinite, _⟩ | ⟨otherInfinite, rfl⟩
    · unfold IsFiniteRank at otherFinite
      omega
    · exact isLess

/-- Different numbers have a distance: that of doubles is at least one step. -/
theorem IsDistance.eq_zero_iff (isDistance : IsDistance lowRank rank distance)
    (lowFinite : IsFiniteRank lowRank) : distance = 0 ↔ rank = lowRank := by
  have someBits : 0 < FloatWidth.double.infinityBits := by decide
  rcases isDistance with ⟨_, rounds⟩ | ⟨isInfinite, rfl⟩
  · rcases Int.lt_trichotomy rank lowRank with isBelow | rfl | isAbove
    · have steps : signedSteps rank ≤ signedSteps lowRank - 1 :=
        Int.le_sub_one_of_lt (signedSteps_strictMono isBelow)
      have steps : (signedSteps rank : ℚ) ≤ signedSteps lowRank - 1 := by exact_mod_cast steps
      have negative := rounds.le_neg_one (by linarith)
      omega
    · rw [sub_self] at rounds
      exact iff_of_true (rounds.unique RoundsTo.zero) rfl
    · have steps : signedSteps lowRank + 1 ≤ signedSteps rank :=
        Int.add_one_le_of_lt (signedSteps_strictMono isAbove)
      have steps : (signedSteps lowRank : ℚ) + 1 ≤ signedSteps rank := by exact_mod_cast steps
      have positive := rounds.one_le (by linarith)
      omega
  · unfold IsFiniteRank at lowFinite
    omega

/-- The rank of a distance times a number of bins per unit. -/
def IsPosition (distance scale position : Int) : Prop :=
  IsFiniteRank distance ∧ IsFiniteRank scale ∧
      RoundsTo (signedSteps distance * signedSteps scale / stepsPerUnit) position ∨
    (distance.natAbs = FloatWidth.double.infinityBits ∨
      scale.natAbs = FloatWidth.double.infinityBits) ∧ distance ≠ 0 ∧ scale ≠ 0 ∧
      position = distance.sign * scale.sign * FloatWidth.double.infinityBits

theorem position_cases {left right : Float} (hasDistance : orderRank? left = some distance)
    (hasScale : orderRank? right = some scale) :
    (∃ position, orderRank? (left * right) = some position ∧ IsPosition distance scale position) ∨
      orderRank? (left * right) = none ∧
        (distance = 0 ∧ scale.natAbs = FloatWidth.double.infinityBits ∨
          scale = 0 ∧ distance.natAbs = FloatWidth.double.infinityBits) := by
  have someBits : 0 < FloatWidth.double.infinityBits := by decide
  by_cases isInfinite : distance.natAbs = FloatWidth.double.infinityBits ∨
      scale.natAbs = FloatWidth.double.infinityBits
  · have product := orderRank?_mul_of_infinite hasDistance hasScale isInfinite
    split at product
    · exact .inr ⟨product, by omega⟩
    · exact .inl ⟨_, product, .inr ⟨isInfinite, by omega, by omega, rfl⟩⟩
  · have distanceFinite := (isFiniteRank_or hasDistance).resolve_right (by omega)
    have scaleFinite := (isFiniteRank_or hasScale).resolve_right (by omega)
    obtain ⟨position, hasPosition, rounds⟩ :=
      orderRank?_mul hasDistance hasScale distanceFinite scaleFinite
    exact .inl ⟨position, hasPosition, .inl ⟨distanceFinite, scaleFinite, rounds⟩⟩

theorem IsPosition.mono (isPosition : IsPosition distance scale position)
    (isOther : IsPosition otherDistance scale otherPosition) (notNegative : 0 ≤ scale)
    (isLess : distance ≤ otherDistance) : position ≤ otherPosition := by
  have scaleSign : ∀ {scale : Int}, 0 ≤ scale → scale ≠ 0 → scale.sign = 1 :=
    fun notNegative notZero => Int.sign_eq_one_of_pos (by omega)
  rcases isPosition with ⟨isFinite, scaleFinite, rounds⟩ | ⟨isInfinite, hasDistance, hasScale, rfl⟩
  · rcases isOther with ⟨_, _, otherRounds⟩ | ⟨otherInfinite, otherDistance, hasScale, rfl⟩
    · have perUnit : (0 : ℚ) ≤ signedSteps scale := by
        have steps : signedSteps 0 ≤ signedSteps scale := signedSteps_strictMono.monotone notNegative
        exact_mod_cast steps
      refine rounds.mono otherRounds (div_le_div_of_nonneg_right ?_ (Nat.cast_nonneg _))
      refine mul_le_mul_of_nonneg_right ?_ perUnit
      exact Int.cast_le.mpr (signedSteps_strictMono.monotone isLess)
    · -- Only the greater distance is infinite, so it is positive.
      have inRange := rounds.natAbs_le
      unfold IsFiniteRank at isFinite scaleFinite
      rw [scaleSign notNegative hasScale, Int.sign_eq_one_of_pos (by omega)]
      omega
  · rcases isOther with ⟨otherFinite, scaleFinite, otherRounds⟩ |
      ⟨otherInfinite, hasOther, _, rfl⟩
    · have inRange := otherRounds.natAbs_le
      unfold IsFiniteRank at otherFinite scaleFinite
      rw [scaleSign notNegative hasScale, Int.sign_eq_neg_one_of_neg (by omega)]
      omega
    · rw [scaleSign notNegative hasScale]
      rcases Int.lt_or_lt_of_ne hasDistance with isNegative | isPositive
      · rw [Int.sign_eq_neg_one_of_neg isNegative]
        rcases Int.lt_or_lt_of_ne hasOther with otherNegative | otherPositive
        · rw [Int.sign_eq_neg_one_of_neg otherNegative]
        · rw [Int.sign_eq_one_of_pos otherPositive]
          omega
      · rw [Int.sign_eq_one_of_pos isPositive, Int.sign_eq_one_of_pos (by omega)]

end Ranks

section Bins

variable {low high number other : Float} {binCount : Nat}

theorem stepsAt_le (place : Nat) (inRange : place ≤ FloatWidth.double.infinityBits) :
    stepsAt place ≤ stepsPerUnit * stepsPerUnit := by
  obtain ⟨lift, isLift⟩ : ∃ lift : Nat, lift = 2046 := ⟨_, rfl⟩
  obtain ⟨power, isUnit⟩ : ∃ power : Nat, power = 1074 := ⟨_, rfl⟩
  have limit : FloatWidth.double.infinityBits = lift * 2 ^ 52 + 2 ^ 52 := by
    rw [isLift]
    rfl
  have atLimit : stepsAt (lift * 2 ^ 52 + 2 ^ 52) = 2 ^ 52 * 2 ^ lift :=
    stepsAt_add (by omega) (.inl le_rfl)
  rw [limit] at inRange
  calc stepsAt place ≤ stepsAt (lift * 2 ^ 52 + 2 ^ 52) := stepsAt_strictMono.monotone inRange
    _ = 2 ^ 52 * 2 ^ lift := atLimit
    _ = 2 ^ (52 + lift) := (Nat.pow_add 2 52 lift).symm
    _ ≤ 2 ^ (power + power) := Nat.pow_le_pow_right two_pos (by omega)
    _ = stepsPerUnit * stepsPerUnit := by rw [Nat.pow_add, two_pow_eq isUnit]

/-- The width of a range is not zero. -/
theorem exists_width (range : IsRange low high binCount) :
    ∃ width, orderRank? (high - low) = some width ∧ 0 < width := by
  obtain ⟨lowRank, hasLow, lowFinite⟩ := isFinite_iff.mp range.lowFinite
  obtain ⟨highRank, hasHigh, _⟩ := isFinite_iff.mp range.highFinite
  have increasing : lowRank < highRank := by
    have isLess := range.increasing
    rw [lt_eq hasLow hasHigh] at isLess
    exact of_decide_eq_true isLess
  obtain ⟨width, hasWidth, isWidth⟩ := exists_distance hasLow lowFinite hasHigh
  have ownDistance : IsDistance lowRank lowRank 0 := by
    refine .inl ⟨lowFinite, ?_⟩
    rw [sub_self]
    exact RoundsTo.zero
  have notNegative := ownDistance.mono isWidth increasing.le
  have notZero : width ≠ 0 := mt (isWidth.eq_zero_iff lowFinite).mp increasing.ne'
  exact ⟨width, hasWidth, by omega⟩

/-- There are bins per unit, unless the range is too wide for any. -/
theorem exists_scale (range : IsRange low high binCount) :
    ∃ scale, orderRank? (binsPerUnit low high binCount) = some scale ∧ 0 ≤ scale ∧
      (scale = 0 ↔ Scalar.isFinite (high - low) = false) := by
  obtain ⟨width, hasWidth, isPositive⟩ := exists_width range
  obtain ⟨count, hasCount, rounds⟩ := orderRank?_ofNat binCount
  obtain ⟨countSteps, countFinite⟩ := rounds.whole range.fits
  rcases isFiniteRank_or hasWidth with isFinite | isInfinite
  · obtain ⟨scale, hasScale, scaleRounds⟩ :=
      orderRank?_div hasCount hasWidth countFinite isFinite isPositive.ne'
    have widthSteps : (0 : ℚ) < signedSteps width := by
      have steps : signedSteps 0 < signedSteps width := signedSteps_strictMono isPositive
      exact_mod_cast steps
    have widthLimit : (signedSteps width : ℚ) ≤ stepsPerUnit * stepsPerUnit := by
      obtain ⟨place, rfl⟩ := Int.eq_ofNat_of_zero_le isPositive.le
      rw [signedSteps_natCast]
      exact_mod_cast stepsAt_le place (rank_le hasWidth)
    have atLeast : 1 ≤ (signedSteps count : ℚ) / signedSteps width * stepsPerUnit := by
      have someSteps : (1 : ℚ) ≤ binCount := by exact_mod_cast range.someBins
      have units : (0 : ℚ) ≤ stepsPerUnit * stepsPerUnit := mul_self_nonneg _
      have countLimit : (stepsPerUnit : ℚ) * stepsPerUnit ≤ signedSteps count * stepsPerUnit := by
        have isCount : (signedSteps count : ℚ) = binCount * stepsPerUnit := by
          rw [countSteps]
          push_cast
          rfl
        rw [isCount, mul_assoc]
        exact le_mul_of_one_le_left units someSteps
      rw [div_mul_eq_mul_div, one_le_div widthSteps]
      exact widthLimit.trans countLimit
    have hasUnits := scaleRounds.one_le atLeast
    refine ⟨scale, hasScale, by omega, ?_⟩
    rw [isFinite_iff.mpr ⟨width, hasWidth, isFinite⟩]
    exact iff_of_false (by omega) (by decide)
  · refine ⟨0, orderRank?_div_of_infinite hasCount hasWidth countFinite isInfinite, le_rfl, ?_⟩
    exact iff_of_true rfl ((isFinite_eq_false_iff hasWidth).mpr isInfinite)

theorem orderRank?_zero : orderRank? (Scalar.zero : Float) = some 0 := by
  obtain ⟨zero, hasZero, rounds⟩ := orderRank?_ofNat 0
  rw [Nat.cast_zero, zero_mul] at rounds
  rw [← rounds.unique RoundsTo.zero]
  exact hasZero

/-- The bin at a rank, when that of the last bin is given. -/
def binAtRank (last position : Int) : Nat :=
  stepsAt (min (max position 0) last).toNat / stepsPerUnit

theorem binAtRank_mono {last position otherPosition : Int} (isLess : position ≤ otherPosition) :
    binAtRank last position ≤ binAtRank last otherPosition :=
  Nat.div_le_div_right (stepsAt_strictMono.monotone (by omega))

theorem orderRank?_clampPosition {lastNumber number : Float} {last position : Int}
    (hasLast : orderRank? lastNumber = some last) (hasPosition : orderRank? number = some position) :
    orderRank? (clampPosition lastNumber number) = some (min (max position 0) last) := by
  unfold clampPosition
  rw [orderRank?_minimum (orderRank?_maximum hasPosition orderRank?_zero) hasLast]

/-- The rank of the last bin, where the number of bins is that of a double. -/
theorem exists_last (someBins : 0 < binCount) (fits : binCount ≤ 2 ^ 53) :
    ∃ last : Nat, orderRank? (Scalar.ofInt ((binCount : Int) - 1) : Float) = some (last : Int) ∧
      last < FloatWidth.double.infinityBits ∧ stepsAt last = (binCount - 1) * stepsPerUnit := by
  obtain ⟨last, hasLast, rounds⟩ := orderRank?_ofNat (binCount - 1)
  obtain ⟨steps, isFinite⟩ := rounds.whole (by omega)
  have isWhole : (binCount : Int) - 1 = ((binCount - 1 : Nat) : Int) := by omega
  have notNegative : 0 ≤ last := by
    refine RoundsTo.zero.mono rounds ?_
    exact mul_nonneg (Nat.cast_nonneg _) (Nat.cast_nonneg _)
  obtain ⟨place, rfl⟩ := Int.eq_ofNat_of_zero_le notNegative
  refine ⟨place, ?_, isFinite, ?_⟩
  · rw [isWhole]
    exact hasLast
  · rw [signedSteps_natCast] at steps
    exact_mod_cast steps

/-- Every position has a bin. -/
theorem binAt?_of_rank {lastNumber number : Float} {last : Nat} {position : Int}
    (hasLast : orderRank? lastNumber = some (last : Int))
    (lastFinite : last < FloatWidth.double.infinityBits)
    (isLast : stepsAt last = (binCount - 1) * stepsPerUnit) (someBins : 0 < binCount)
    (hasPosition : orderRank? number = some position) :
    binAt? lastNumber binCount number = some (binAtRank last position) := by
  have clamped := orderRank?_clampPosition hasLast hasPosition
  obtain ⟨place, isPlace⟩ := Int.eq_ofNat_of_zero_le (show 0 ≤ min (max position 0) last by omega)
  have isBin : binAtRank last position = stepsAt place / stepsPerUnit := by
    unfold binAtRank
    rw [isPlace]
    rfl
  rw [isPlace] at clamped
  have whole : Scalar.wholePart (clampPosition lastNumber number) =
      (stepsAt place / stepsPerUnit : Nat) :=
    wholePart_of_rank clamped (by omega)
  have inRange : stepsAt place / stepsPerUnit < binCount := by
    have atMost : stepsAt place / stepsPerUnit ≤ (binCount - 1) * stepsPerUnit / stepsPerUnit := by
      rw [← isLast]
      exact Nat.div_le_div_right (stepsAt_strictMono.monotone (by omega))
    rw [Nat.mul_div_cancel _ stepsPerUnit_pos] at atMost
    omega
  have isDefined : Scalar.isUndefined (clampPosition lastNumber number) = false :=
    Extreme.isUndefined_eq_false.mpr ⟨_, clamped⟩
  unfold binAt?
  simp only [isDefined, whole, Bool.false_eq_true, if_false]
  rw [if_pos ⟨Int.natCast_nonneg _, Int.ofNat_lt.mpr inRange⟩, Int.toNat_natCast, isBin]

theorem binAt?_of_isUndefined {lastNumber number : Float}
    (isUndefined : Scalar.isUndefined number = true) : binAt? lastNumber binCount number = none := by
  have stays : clampPosition lastNumber number = number := by
    unfold clampPosition Scalar.maximum
    rw [if_pos isUndefined]
    unfold Scalar.minimum
    rw [if_pos isUndefined]
  unfold binAt?
  simp only [stays, isUndefined, if_true]

/-- A defined number has the bin of its position, or it is lost. -/
theorem binOf?_cases (range : IsRange low high binCount) :
    ∃ lowRank scale last : Int, 0 ≤ scale ∧ ∀ number rank, orderRank? number = some rank →
      (∃ distance position, IsDistance lowRank rank distance ∧ IsPosition distance scale position ∧
        binOf? low (binsPerUnit low high binCount) binCount number =
          some (binAtRank last position) ∧ ¬IsLost low high binCount number) ∨
      binOf? low (binsPerUnit low high binCount) binCount number = none ∧
        IsLost low high binCount number := by
  obtain ⟨lowRank, hasLow, lowFinite⟩ := isFinite_iff.mp range.lowFinite
  obtain ⟨scale, hasScale, notNegative, scaleZero⟩ := exists_scale range
  obtain ⟨last, hasLast, lastFinite, isLast⟩ := exists_last range.someBins range.fits
  refine ⟨lowRank, scale, last, notNegative, ?_⟩
  intro number rank hasRank
  obtain ⟨distance, hasDistance, isDistance⟩ := exists_distance hasLow lowFinite hasRank
  have lost : IsLost low high binCount number ↔
      scale = 0 ∧ distance.natAbs = FloatWidth.double.infinityBits ∨
        scale.natAbs = FloatWidth.double.infinityBits ∧ distance = 0 := by
    unfold IsLost
    rw [← scaleZero, isFinite_eq_false_iff hasDistance, isFinite_eq_false_iff hasScale,
      eq_eq hasRank hasLow, decide_eq_true_eq, isDistance.eq_zero_iff lowFinite]
  rcases position_cases hasDistance hasScale with ⟨position, hasPosition, isPosition⟩ |
    ⟨noPosition, isUndefined⟩
  · refine .inl ⟨distance, position, isDistance, isPosition,
      binAt?_of_rank hasLast lastFinite isLast range.someBins hasPosition, ?_⟩
    rw [lost]
    rcases isPosition with ⟨distanceFinite, scaleFinite, _⟩ | ⟨_, hasDistance, hasScale, _⟩
    · unfold IsFiniteRank at distanceFinite scaleFinite
      omega
    · omega
  · refine .inr ⟨binAt?_of_isUndefined ?_, lost.mpr (by omega)⟩
    show (orderRank? _).isNone = true
    rw [noPosition]
    rfl

theorem binOf?_eq_none_iff (range : IsRange low high binCount)
    (isDefined : Scalar.isUndefined number = false) :
    binOf? low (binsPerUnit low high binCount) binCount number = none ↔
      IsLost low high binCount number := by
  obtain ⟨_, _, _, _, cases⟩ := binOf?_cases range
  obtain ⟨rank, hasRank⟩ := Extreme.isUndefined_eq_false.mp isDefined
  rcases cases number rank hasRank with ⟨_, _, _, _, found, notLost⟩ | ⟨found, isLost⟩
  · rw [found]
    exact iff_of_false nofun notLost
  · exact iff_of_true found isLost

/-- Of two numbers the greater one has no lower bin. -/
theorem binOf?_mono (range : IsRange low high binCount) {bin otherBin : Nat}
    (isLess : Scalar.le number other = true)
    (found : binOf? low (binsPerUnit low high binCount) binCount number = some bin)
    (otherFound : binOf? low (binsPerUnit low high binCount) binCount other = some otherBin) :
    bin ≤ otherBin := by
  obtain ⟨_, _, _, notNegative, cases⟩ := binOf?_cases range
  obtain ⟨rank, otherRank, hasRank, hasOther, isLess⟩ := exists_ranks_of_le isLess
  rcases cases number rank hasRank with ⟨_, _, isDistance, isPosition, isBin, _⟩ | ⟨isNone, _⟩
  · rcases cases other otherRank hasOther with ⟨_, _, otherDistance, otherPosition, isOther, _⟩ |
      ⟨isNone, _⟩
    · rw [← Option.some.inj (isBin.symm.trans found),
        ← Option.some.inj (isOther.symm.trans otherFound)]
      exact binAtRank_mono (isPosition.mono otherPosition notNegative
        (isDistance.mono otherDistance isLess))
    · rw [isNone] at otherFound
      cases otherFound
  · rw [isNone] at found
    cases found

end Bins

end FieldSurvey
