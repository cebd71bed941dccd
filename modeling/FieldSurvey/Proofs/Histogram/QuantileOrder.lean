import FieldSurvey.Proofs.Histogram.ExactQuantile

/-!
The order of quantiles in exact numbers. Whatever values never fall from bin to bin, a greater target
has no lesser quantile, and all quantiles lie in the range: within a bin an interpolation moves up with
the target, and the points of a later bin are beyond those of an earlier one.
-/

namespace FieldSurvey

open ExactNumber Histogram

section Points

variable {start stop before after target other : ℚ}

/-- Within a bin no interpolation moves down as the target grows. -/
theorem pointBetween_mono (ordered : start ≤ stop) (rising : before ≤ after) (isLess : target ≤ other)
    (mode : Interpolation) :
    pointBetween start stop before after target mode ≤
      pointBetween start stop before after other mode := by
  cases mode with
  | linear =>
      have further : (stop - start) * (target - before) ≤ (stop - start) * (other - before) :=
        mul_le_mul_of_nonneg_left (sub_le_sub_right isLess before) (sub_nonneg.mpr ordered)
      have share : (stop - start) * (target - before) / (after - before) ≤
          (stop - start) * (other - before) / (after - before) :=
        div_le_div_of_nonneg_right further (sub_nonneg.mpr rising)
      exact min_le_min_left stop (add_le_add_right share start)
  | lower => exact le_rfl
  | higher => exact le_rfl
  | midpoint => exact le_rfl
  | nearest =>
      rw [pointBetween, pointBetween]
      by_cases otherNearer : other - start < stop - other
      · have alsoNearer : target - start < stop - target := by linarith
        rw [if_pos alsoNearer, if_pos otherNearer]
      · rw [if_neg otherNearer]
        split
        · exact ordered
        · exact le_rfl

end Points

section Histograms

variable {values : List ℚ} {low high target other : ℚ} {bin : Nat}

theorem levelBelow_mono (natural : ∀ value ∈ values, 0 ≤ value)
    (rising : values.Pairwise (· ≤ ·)) {first second : Nat} (isEarlier : first ≤ second)
    (inSize : second ≤ values.length) : levelBelow values first ≤ levelBelow values second := by
  have levelsRise : (0 :: values).Pairwise (· ≤ ·) := List.pairwise_cons.mpr ⟨natural, rising⟩
  rcases Nat.lt_or_eq_of_le isEarlier with isBefore | rfl
  · obtain ⟨inLevels, isSecond⟩ := List.getElem?_eq_some_iff.mp (getElem?_levels inSize)
    obtain ⟨_, isFirst⟩ := List.getElem?_eq_some_iff.mp (getElem?_levels (isEarlier.trans inSize))
    rw [← isFirst, ← isSecond]
    exact List.pairwise_iff_getElem.mp levelsRise first second _ inLevels isBefore
  · exact le_rfl

theorem quantileOf_bounds (someBins : values ≠ []) (increasing : low < high)
    (natural : ∀ value ∈ values, 0 ≤ value) (rising : values.Pairwise (· ≤ ·))
    (reached : 0 ≤ target) (mode : Interpolation) :
    edge low high values.length (reachedBin values target) ≤
        quantileOf values low high target mode ∧
      quantileOf values low high target mode ≤
        edge low high values.length (reachedBin values target + 1) := by
  have someLength := List.length_pos_iff.mpr someBins
  exact pointBetween_bounds (edge_strictMono increasing someLength (Nat.lt_succ_self _)).le
    (levelBelow_mono natural rising (Nat.le_succ _) (reachedBin_lt someBins _))
    (levelBelow_reachedBin_le values reached) mode

theorem quantileOf_inRange (someBins : values ≠ []) (increasing : low < high)
    (natural : ∀ value ∈ values, 0 ≤ value) (rising : values.Pairwise (· ≤ ·))
    (reached : 0 ≤ target) (mode : Interpolation) :
    low ≤ quantileOf values low high target mode ∧
      quantileOf values low high target mode ≤ high := by
  have someLength := List.length_pos_iff.mpr someBins
  have edgesRise := (edge_strictMono increasing someLength).monotone
  obtain ⟨isAbove, isBelow⟩ := quantileOf_bounds someBins increasing natural rising reached mode
  constructor
  · calc low
      _ = edge low high values.length 0 := (edge_zero low high values.length).symm
      _ ≤ edge low high values.length (reachedBin values target) := edgesRise (Nat.zero_le _)
      _ ≤ quantileOf values low high target mode := isAbove
  · calc quantileOf values low high target mode
      _ ≤ edge low high values.length (reachedBin values target + 1) := isBelow
      _ ≤ edge low high values.length values.length := edgesRise (reachedBin_lt someBins _)
      _ = high := edge_last low high someLength

theorem quantileOf_mono (someBins : values ≠ []) (increasing : low < high)
    (natural : ∀ value ∈ values, 0 ≤ value) (rising : values.Pairwise (· ≤ ·))
    (reached : 0 ≤ target) (isLess : target ≤ other) (mode : Interpolation) :
    quantileOf values low high target mode ≤ quantileOf values low high other mode := by
  have someLength := List.length_pos_iff.mpr someBins
  have edgesRise := (edge_strictMono increasing someLength).monotone
  rcases Nat.lt_or_eq_of_le (reachedBin_mono someBins isLess) with isEarlier | sameBin
  · calc quantileOf values low high target mode
      _ ≤ edge low high values.length (reachedBin values target + 1) :=
          (quantileOf_bounds someBins increasing natural rising reached mode).2
      _ ≤ edge low high values.length (reachedBin values other) := edgesRise isEarlier
      _ ≤ quantileOf values low high other mode :=
          (quantileOf_bounds someBins increasing natural rising (reached.trans isLess) mode).1
  · unfold quantileOf
    rw [sameBin]
    exact pointBetween_mono (edgesRise (Nat.le_succ _))
      (levelBelow_mono natural rising (Nat.le_succ _) (reachedBin_lt someBins _)) isLess mode

/-- Quantiles of a histogram whose values are not negative and never fall from bin to bin. There is
one for every target and every interpolation; greater targets have no lesser ones; all of them lie in
the range, between the ones that the lower and the higher interpolation give for the same target. -/
theorem quantiles_are_ordered (someBins : values ≠ []) (increasing : low < high)
    (natural : ∀ value ∈ values, 0 ≤ value) (rising : values.Pairwise (· ≤ ·)) :
    ∃ answer : ℚ → Interpolation → ℚ,
      (∀ target mode, 0 ≤ target → target ≤ 1 →
        (rationalHistogram values low high).quantileAt (finite target) mode =
          .ok (finite (answer target mode))) ∧
      (∀ first second mode, 0 ≤ first → first ≤ second → second ≤ 1 →
        answer first mode ≤ answer second mode) ∧
      ∀ target mode, 0 ≤ target → target ≤ 1 →
        (low ≤ answer target mode ∧ answer target mode ≤ high) ∧
          answer target .lower ≤ answer target mode ∧
            answer target mode ≤ answer target .higher := by
  refine ⟨quantileOf values low high, ?_, ?_, ?_⟩
  · intro target mode _ _
    exact quantileAt_rational someBins increasing target mode
  · intro first second mode reached isLess _
    exact quantileOf_mono someBins increasing natural rising reached isLess mode
  · intro target mode reached _
    exact ⟨quantileOf_inRange someBins increasing natural rising reached mode,
      quantileOf_bounds someBins increasing natural rising reached mode⟩

/-- The last value falls short of one, and two bins add nothing. -/
def shortValues : List ℚ := [0, 1 / 4, 1 / 4, 3 / 4]

theorem quantiles_of_short_values_are_ordered :
    shortValues ≠ [] ∧ (∀ value ∈ shortValues, 0 ≤ value) ∧ shortValues.Pairwise (· ≤ ·) ∧
      ∃ answer : ℚ → Interpolation → ℚ,
        (rationalHistogram shortValues 0 3).quantileAt (finite (1 / 2)) .linear =
          .ok (finite (answer (1 / 2) .linear)) ∧
        (rationalHistogram shortValues 0 3).quantileAt (finite 1) .linear =
          .ok (finite (answer 1 .linear)) ∧
        0 ≤ answer (1 / 2) .linear ∧ answer (1 / 2) .linear ≤ answer 1 .linear ∧
        answer 1 .linear ≤ 3 := by
  have someBins : shortValues ≠ [] := by decide
  have natural : ∀ value ∈ shortValues, 0 ≤ value := by decide +kernel
  have rising : shortValues.Pairwise (· ≤ ·) := by decide +kernel
  obtain ⟨answer, answers, ordered, bounded⟩ :=
    quantiles_are_ordered someBins (show (0 : ℚ) < 3 by norm_num) natural rising
  exact ⟨someBins, natural, rising, answer, answers _ _ (by norm_num) (by norm_num),
    answers _ _ (by norm_num) (by norm_num), (bounded _ _ (by norm_num) (by norm_num)).1.1,
    ordered _ _ _ (by norm_num) (by norm_num) (by norm_num),
    (bounded _ _ (by norm_num) (by norm_num)).1.2⟩

end Histograms

end FieldSurvey
