import FieldSurvey.Proofs.Kernel.DoubleCounts
import FieldSurvey.Statistics.Distribution

/-!
The range between two bounds that are themselves entries. Equal bounds are drawn apart by 1, which
fails where doubles are further apart than that. A range in whose bins both bounds find a place has
one for every number: its width and its number of bins per unit are doubles.
-/

namespace FieldSurvey

/-- The upper bound; if it is equal to the lower bound, it is drawn up by 1. -/
def widenedHigh (low high : Float) : Float := if Scalar.eq high low then low + 1.0 else high

/-- The bounds are in order, and the width and the number of bins per unit are finite. -/
structure CountsAll (low high : Float) (binCount : Nat) : Prop where
  increasing : Scalar.lt low high = true
  widthFinite : Scalar.isFinite (high - low) = true
  scaleFinite : Scalar.isFinite (binsPerUnit low high binCount) = true

instance (low high : Float) (binCount : Nat) : Decidable (CountsAll low high binCount) :=
  decidable_of_iff (Scalar.lt low high = true ∧ Scalar.isFinite (high - low) = true ∧
      Scalar.isFinite (binsPerUnit low high binCount) = true)
    ⟨fun ⟨increasing, widthFinite, scaleFinite⟩ => ⟨increasing, widthFinite, scaleFinite⟩,
      fun counts => ⟨counts.increasing, counts.widthFinite, counts.scaleFinite⟩⟩

variable {low high number : Float} {binCount : Nat}

section Bounds

theorem eq_self_of_isFinite (isFinite : Scalar.isFinite number = true) :
    Scalar.eq number number = true := by
  obtain ⟨rank, hasRank, _⟩ := isFinite_iff.mp isFinite
  rw [eq_eq hasRank hasRank]
  exact decide_eq_true rfl

theorem not_le_iff_lt (lowFinite : Scalar.isFinite low = true)
    (highFinite : Scalar.isFinite high = true) :
    Scalar.le high low = false ↔ Scalar.lt low high = true := by
  obtain ⟨lowRank, hasLow, _⟩ := isFinite_iff.mp lowFinite
  obtain ⟨highRank, hasHigh, _⟩ := isFinite_iff.mp highFinite
  rw [le_eq hasHigh hasLow, lt_eq hasLow hasHigh, decide_eq_false_iff_not, decide_eq_true_eq]
  exact Int.not_le

namespace CountsAll

theorem isRange (counts : CountsAll low high binCount) (lowFinite : Scalar.isFinite low = true)
    (someBins : 0 < binCount) (fits : binCount ≤ 2 ^ 53) : IsRange low high binCount := by
  refine ⟨lowFinite, ?_, counts.increasing, someBins, fits⟩
  obtain ⟨lowRank, hasLow, isFiniteLow⟩ := isFinite_iff.mp lowFinite
  have hasRanks : Scalar.le low high = true := by
    unfold Scalar.le
    rw [counts.increasing]
    rfl
  obtain ⟨_, highRank, _, hasHigh, _⟩ := exists_ranks_of_le hasRanks
  -- The distance of an infinite bound is infinite.
  refine isFinite_iff.mpr ⟨highRank, hasHigh, (isFiniteRank_or hasHigh).resolve_right ?_⟩
  intro isInfinite
  have widthInfinite := (isFinite_eq_false_iff
    (orderRank?_sub_of_infinite hasHigh hasLow isInfinite isFiniteLow)).mpr isInfinite
  rw [counts.widthFinite] at widthInfinite
  cases widthInfinite

theorem notLost (counts : CountsAll low high binCount) (number : Float) :
    ¬IsLost low high binCount number := by
  rintro (⟨widthInfinite, _⟩ | ⟨scaleInfinite, _⟩)
  · rw [counts.widthFinite] at widthInfinite
    cases widthInfinite
  · rw [counts.scaleFinite] at scaleInfinite
    cases scaleInfinite

end CountsAll

/-- A number and the sum of it and 1 are no further apart than one of them is from zero, or than 2. -/
theorem exists_limit_of_unit_width {bottom top width : Int} (bottomFinite : IsFiniteRank bottom)
    (topFinite : IsFiniteRank top) (sum : RoundsTo (signedSteps bottom + stepsPerUnit) top)
    (difference : RoundsTo (signedSteps top - signedSteps bottom) width) :
    ∃ limit, IsFiniteRank limit ∧ width ≤ limit := by
  have stepsMono : ∀ {rank other : Int}, rank ≤ other →
      (signedSteps rank : ℚ) ≤ signedSteps other :=
    fun isLess => Int.cast_le.mpr (signedSteps_strictMono.monotone isLess)
  have zeroSteps : (signedSteps 0 : ℚ) = 0 := by simp
  have oneSteps : (signedSteps 0x3FF0000000000000 : ℚ) = stepsPerUnit := by
    rw [signedSteps_one, Int.cast_natCast]
  rcases Int.le_total 0 bottom with notNegative | notPositive
  · -- Above zero the sum is the further one from zero.
    refine ⟨top, topFinite, difference.mono (RoundsTo.self topFinite.le) ?_⟩
    linarith [stepsMono notNegative]
  · rcases le_total ((signedSteps bottom : ℚ) + stepsPerUnit) 0 with isFar | isNear
    · -- Where the sum does not get past zero either, the number is.
      have negFinite : IsFiniteRank (-bottom) := by
        unfold IsFiniteRank at bottomFinite ⊢
        rwa [Int.natAbs_neg]
      refine ⟨-bottom, negFinite, difference.mono (RoundsTo.self negFinite.le) ?_⟩
      rw [signedSteps_neg, Int.cast_neg]
      linarith [stepsMono (sum.mono RoundsTo.zero isFar)]
    · obtain ⟨two, _, twoRounds⟩ := orderRank?_ofNat 2
      obtain ⟨_, twoFinite⟩ := twoRounds.whole (by decide)
      have one : RoundsTo (signedSteps 0x3FF0000000000000) 0x3FF0000000000000 :=
        RoundsTo.self (by decide)
      have atMostOne : top ≤ 0x3FF0000000000000 :=
        sum.mono one (by linarith [stepsMono notPositive])
      refine ⟨two, twoFinite, difference.mono twoRounds ?_⟩
      push_cast
      linarith [stepsMono atMostOne]

/-- Bounds that were drawn apart by 1 are not too far apart. -/
theorem isFinite_unit_width (range : IsRange low (low + 1.0) binCount) :
    Scalar.isFinite (low + 1.0 - low) = true := by
  have hasOne : orderRank? (1.0 : Float) = some 0x3FF0000000000000 := by decide +kernel
  obtain ⟨bottom, hasLow, bottomFinite⟩ := isFinite_iff.mp range.lowFinite
  obtain ⟨top, hasTop, topFinite⟩ := isFinite_iff.mp range.highFinite
  obtain ⟨_, hasSum, sum⟩ := orderRank?_add hasLow hasOne bottomFinite (by decide)
  cases hasSum.symm.trans hasTop
  rw [signedSteps_one, Int.cast_natCast] at sum
  obtain ⟨width, hasWidth, difference⟩ := orderRank?_sub hasTop hasLow topFinite bottomFinite
  obtain ⟨_, hasPositive, isPositive⟩ := exists_width range
  cases hasPositive.symm.trans hasWidth
  obtain ⟨limit, limitFinite, atMost⟩ :=
    exists_limit_of_unit_width bottomFinite topFinite sum difference
  refine isFinite_iff.mpr ⟨width, hasWidth, ?_⟩
  unfold IsFiniteRank at limitFinite ⊢
  omega

/-- If neither bound is lost, no number is. -/
theorem countsAll_of_kept (range : IsRange low (widenedHigh low high) binCount)
    (keepsLow : ¬IsLost low (widenedHigh low high) binCount low)
    (keepsHigh : ¬IsLost low (widenedHigh low high) binCount high) :
    CountsAll low (widenedHigh low high) binCount := by
  refine ⟨range.increasing, ?_, ?_⟩
  · cases isConstant : Scalar.eq high low with
    | true =>
        have isWidened : widenedHigh low high = low + 1.0 := if_pos isConstant
        rw [isWidened] at range ⊢
        exact isFinite_unit_width range
    | false =>
        have isHigh : widenedHigh low high = high :=
          if_neg (Bool.eq_false_iff.mp isConstant)
        rw [isHigh] at keepsHigh ⊢
        rw [← Bool.not_eq_false]
        exact fun isInfinite => keepsHigh (.inl ⟨isInfinite, isInfinite⟩)
  · rw [← Bool.not_eq_false]
    exact fun isInfinite => keepsLow (.inr ⟨isInfinite, eq_self_of_isFinite range.lowFinite⟩)

/-- A bound that was drawn up is the greater for it. -/
theorem le_widenedHigh (lowFinite : Scalar.isFinite low = true)
    (highFinite : Scalar.isFinite high = true)
    (increasing : Scalar.lt low (widenedHigh low high) = true) :
    Scalar.le high (widenedHigh low high) = true := by
  obtain ⟨lowRank, hasLow, _⟩ := isFinite_iff.mp lowFinite
  obtain ⟨highRank, hasHigh, _⟩ := isFinite_iff.mp highFinite
  cases isConstant : Scalar.eq high low with
  | true =>
      have hasRanks : Scalar.le low (widenedHigh low high) = true := by
        unfold Scalar.le
        rw [increasing]
        rfl
      obtain ⟨_, topRank, hasLowToo, hasTop, isLess⟩ := exists_ranks_of_le hasRanks
      cases hasLowToo.symm.trans hasLow
      rw [eq_eq hasHigh hasLow, decide_eq_true_eq] at isConstant
      rw [le_eq hasHigh hasTop, isConstant]
      exact decide_eq_true isLess
  | false =>
      have isHigh : widenedHigh low high = high := if_neg (Bool.eq_false_iff.mp isConstant)
      rw [isHigh, le_eq hasHigh hasHigh]
      exact decide_eq_true le_rfl

end Bounds

section Cuts

theorem exists_binEdges (range : IsRange low high binCount) :
    ∃ edges, binEdges low high (binCount : Int) = .ok edges := by
  have someCount : ¬(binCount : Int) ≤ 0 := by
    have someBins := range.someBins
    omega
  have notReversed : Scalar.le high low = false :=
    (not_le_iff_lt range.lowFinite range.highFinite).mpr range.increasing
  have countFinite : Scalar.isFinite (Scalar.ofInt (binCount : Int) : Float) = true :=
    holds_whole range.fits
  unfold binEdges
  simp only [range.lowFinite, range.highFinite, notReversed, countFinite, if_neg someCount]
  exact ⟨_, rfl⟩

theorem isRange_of_binEdges {edges : List Float}
    (cut : binEdges low high (binCount : Int) = .ok edges) (fits : binCount ≤ 2 ^ 53) :
    IsRange low high binCount := by
  unfold binEdges at cut
  split at cut
  · cases cut
  rename_i areFinite
  split at cut
  · cases cut
  rename_i someBins
  split at cut
  · cases cut
  rename_i notReversed
  simp only [Bool.not_eq_true', Bool.not_eq_false, Bool.and_eq_true] at areFinite
  refine ⟨areFinite.1, areFinite.2, ?_, by omega, fits⟩
  exact (not_le_iff_lt areFinite.1 areFinite.2).mp (Bool.eq_false_iff.mpr notReversed)

theorem between_of_isRange (range : IsRange low high binCount) :
    Binning.between low high binCount =
      ⟨low, high, binCount, .ok low, .ok (binsPerUnit low high binCount)⟩ := by
  obtain ⟨width, hasWidth, isPositive⟩ := exists_width range
  have notZero : Scalar.eq (high - low) (Scalar.zero : Float) = false := by
    rw [eq_eq hasWidth orderRank?_zero]
    exact decide_eq_false isPositive.ne'
  unfold Binning.between
  rw [notZero]
  rfl

end Cuts

end FieldSurvey
