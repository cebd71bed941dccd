import Mathlib.Order.Bounds.Defs
import FieldSurvey.Proofs.Histogram.QuantileOrder

/-!
The line of the running sums. It rises evenly over each bin, from what the bins below it hold together
to what they hold with it, and a linear quantile is the first point at which it reaches the target:
bins that hold nothing, where it is level, are never entered.
-/

namespace FieldSurvey

open ExactNumber Histogram

/-- The height over a point of the straight line between two knots. -/
def heightBetween (start stop before after point : ℚ) : ℚ :=
  before + (after - before) * ((point - start) / (stop - start))

/-- The height over a point of the line that joins knots, each a place with its height. Beyond the last
knot it stays level. -/
def brokenLine : List (ℚ × ℚ) → ℚ → ℚ
  | [], _ => 0
  | [(_, height)], _ => height
  | (start, before) :: (stop, after) :: rest, point =>
      if point < stop then heightBetween start stop before after point
      else brokenLine ((stop, after) :: rest) point

/-- The line over the edges of a histogram that begins at zero and has reached a running sum where its
bin ends. -/
def cumulativeLine (cuts sums : List ℚ) : ℚ → ℚ := brokenLine (cuts.zip (0 :: sums))

section Segments

variable {start stop before after target point : ℚ}

@[simp] theorem heightBetween_start (start stop before after : ℚ) :
    heightBetween start stop before after start = before := by
  rw [heightBetween, sub_self, zero_div, mul_zero, add_zero]

theorem heightBetween_stop (increasing : start < stop) (before after : ℚ) :
    heightBetween start stop before after stop = after := by
  rw [heightBetween, div_self (sub_pos.mpr increasing).ne', mul_one, add_sub_cancel]

theorem heightBetween_le (increasing : start < stop) (rising : before ≤ after)
    (isBelow : point ≤ stop) : heightBetween start stop before after point ≤ after := by
  have part : (point - start) / (stop - start) ≤ 1 :=
    (div_le_one (sub_pos.mpr increasing)).mpr (sub_le_sub_right isBelow start)
  calc heightBetween start stop before after point
    _ ≤ before + (after - before) * 1 :=
        add_le_add_right (mul_le_mul_of_nonneg_left part (sub_nonneg.mpr rising)) before
    _ = after := by rw [mul_one, add_sub_cancel]

/-- The point that a linear interpolation picks is one at which the line has the target height. -/
theorem heightBetween_pointBetween (increasing : start < stop) (reached : before ≤ target)
    (reaches : target ≤ after) :
    heightBetween start stop before after (pointBetween start stop before after target .linear) =
      target := by
  have hasWidth : stop - start ≠ 0 := (sub_pos.mpr increasing).ne'
  rcases (reached.trans reaches).eq_or_lt with rfl | rises
  · rw [heightBetween, sub_self, zero_mul, add_zero]
    exact le_antisymm reached reaches
  · have hasMass : after - before ≠ 0 := (sub_pos.mpr rises).ne'
    have inSegment : start + (stop - start) * (target - before) / (after - before) ≤ stop := by
      rw [← le_sub_iff_add_le', div_le_iff₀ (sub_pos.mpr rises)]
      exact mul_le_mul_of_nonneg_left (sub_le_sub_right reaches before) (sub_pos.mpr increasing).le
    rw [pointBetween, min_eq_right inSegment, heightBetween]
    field_simp
    ring

/-- No point before the one that is picked has the target height. -/
theorem pointBetween_le (increasing : start < stop) (rising : before ≤ after)
    (isAbove : start ≤ point) (reaches : target ≤ heightBetween start stop before after point) :
    pointBetween start stop before after target .linear ≤ point := by
  rcases rising.eq_or_lt with rfl | rises
  · -- Over a level segment the first point is picked.
    rw [pointBetween, sub_self, div_zero, add_zero]
    exact (min_le_right _ _).trans isAbove
  · have further : (stop - start) * (target - before) ≤ (point - start) * (after - before) := by
      have missing : target - before ≤ (after - before) * ((point - start) / (stop - start)) :=
        sub_le_iff_le_add'.mpr reaches
      rw [← mul_div_assoc, le_div_iff₀ (sub_pos.mpr increasing)] at missing
      linarith
    refine (min_le_right _ _).trans ?_
    rwa [← le_sub_iff_add_le', div_le_iff₀ (sub_pos.mpr rises)]

end Segments

section Lines

variable {knots : List (ℚ × ℚ)}

theorem brokenLine_first {start height : ℚ} {rest : List (ℚ × ℚ)}
    (increasing : (((start, height) :: rest).map Prod.fst).Pairwise (· < ·)) :
    brokenLine ((start, height) :: rest) start = height := by
  cases rest with
  | nil => rfl
  | cons next later =>
      have isBefore : start < next.1 :=
        (List.pairwise_cons.mp increasing).1 _ List.mem_cons_self
      rw [brokenLine, if_pos isBefore, heightBetween_start]

/-- Between two neighbours the line is straight. -/
theorem brokenLine_between (increasing : (knots.map Prod.fst).Pairwise (· < ·)) {place : Nat}
    {start before stop after point : ℚ} (isKnot : knots[place]? = some (start, before))
    (isNext : knots[place + 1]? = some (stop, after)) (isAbove : start ≤ point)
    (isBelow : point ≤ stop) :
    brokenLine knots point = heightBetween start stop before after point := by
  induction knots generalizing place with
  | nil => cases isKnot
  | cons first rest inductionHypothesis =>
      obtain ⟨beforeAll, later⟩ := List.pairwise_cons.mp increasing
      cases rest with
      | nil => cases isNext
      | cons second rest =>
          cases place with
          | zero =>
              cases isKnot
              cases isNext
              have isBefore : start < stop := beforeAll _ List.mem_cons_self
              rw [brokenLine]
              rcases isBelow.lt_or_eq with inside | rfl
              · rw [if_pos inside]
              · rw [if_neg (lt_irrefl _), brokenLine_first later, heightBetween_stop isBefore]
          | succ place =>
              have beyond : ¬ point < second.1 := by
                have isMember : (start, before) ∈ second :: rest :=
                  List.mem_of_getElem? (i := place) isKnot
                have isLater : second.1 ≤ start := by
                  rcases List.mem_cons.mp isMember with rfl | inRest
                  · exact le_rfl
                  · exact ((List.pairwise_cons.mp later).1 _ (List.mem_map_of_mem inRest)).le
                exact not_lt.mpr (isLater.trans isAbove)
              rw [brokenLine, if_neg beyond]
              exact inductionHypothesis later isKnot isNext

end Lines

section Histograms

variable {values : List ℚ} {low high target point : ℚ} {bin : Nat}

/-- Over a bin the line is straight, from what is reached below it to its own value. -/
theorem cumulativeLine_between (increasing : low < high) (inSize : bin < values.length)
    (isAbove : edge low high values.length bin ≤ point)
    (isBelow : point ≤ edge low high values.length (bin + 1)) :
    cumulativeLine (edges low high values.length) values point =
      heightBetween (edge low high values.length bin) (edge low high values.length (bin + 1))
        (levelBelow values bin) (levelBelow values (bin + 1)) point := by
  have sameCount : (edges low high values.length).length ≤ (0 :: values).length := by
    rw [edges, List.length_map, List.length_range, List.length_cons]
  have isKnot {bin : Nat} (isEdge : bin ≤ values.length) :
      ((edges low high values.length).zip (0 :: values))[bin]? =
        some (edge low high values.length bin, levelBelow values bin) :=
    List.getElem?_zip_eq_some.mpr ⟨getElem?_edges isEdge, getElem?_levels isEdge⟩
  refine brokenLine_between ?_ (isKnot inSize.le) (isKnot inSize) isAbove isBelow
  rw [List.map_fst_zip sameCount]
  exact edges_increasing increasing (Nat.zero_lt_of_lt inSize)

theorem cumulativeLine_edge (someBins : values ≠ []) (increasing : low < high)
    (isEdge : bin ≤ values.length) :
    cumulativeLine (edges low high values.length) values (edge low high values.length bin) =
      levelBelow values bin := by
  have someLength := List.length_pos_iff.mpr someBins
  have edgesRise := edge_strictMono increasing someLength
  cases bin with
  | zero =>
      rw [cumulativeLine_between increasing someLength le_rfl (edgesRise Nat.zero_lt_one).le,
        heightBetween_start]
  | succ before =>
      have rises := edgesRise (Nat.lt_succ_self before)
      rw [cumulativeLine_between increasing isEdge rises.le le_rfl, heightBetween_stop rises]

/-- A linear quantile is a point at which the line has the target height. -/
theorem cumulativeLine_quantileOf (someBins : values ≠ []) (increasing : low < high)
    (reached : 0 ≤ target) (atMost : target ≤ levelBelow values values.length) :
    cumulativeLine (edges low high values.length) values
      (quantileOf values low high target .linear) = target := by
  have rises := edge_strictMono increasing (List.length_pos_iff.mpr someBins)
    (Nat.lt_succ_self (reachedBin values target))
  have isAbove := levelBelow_reachedBin_le values reached
  have isBelow := le_levelBelow_reachedBin someBins atMost
  obtain ⟨isAfter, isBefore⟩ :=
    pointBetween_bounds rises.le (isAbove.trans isBelow) isAbove .linear
  rw [quantileOf, cumulativeLine_between increasing (reachedBin_lt someBins target) isAfter isBefore,
    heightBetween_pointBetween rises isAbove isBelow]

/-- The line does not have the target height before a linear quantile. -/
theorem quantileOf_le (someBins : values ≠ []) (increasing : low < high)
    (natural : ∀ value ∈ values, 0 ≤ value) (rising : values.Pairwise (· ≤ ·))
    (reached : 0 ≤ target) (atLeast : low ≤ point) (atMost : point ≤ high)
    (reaches : target ≤ cumulativeLine (edges low high values.length) values point) :
    quantileOf values low high target .linear ≤ point := by
  have someLength := List.length_pos_iff.mpr someBins
  have edgesRise := edge_strictMono increasing someLength
  -- The bin that the point lies in stands before the one that is found, is this one or comes later.
  obtain ⟨bin, isBin⟩ : ∃ bin, binNumber low high values.length point = bin := ⟨_, rfl⟩
  have inSize : bin < values.length := isBin ▸ binNumber_lt someLength
  have isAbove : edge low high values.length bin ≤ point :=
    isBin ▸ edge_le increasing someLength atLeast
  have isBelow : point ≤ edge low high values.length (bin + 1) :=
    isBin ▸ le_edge increasing someLength atMost
  have rises := edgesRise (Nat.lt_succ_self bin)
  have grows := levelBelow_mono natural rising (Nat.le_succ bin) inSize
  rw [cumulativeLine_between increasing inSize isAbove isBelow] at reaches
  rcases lt_trichotomy bin (reachedBin values target) with isEarlier | isFound | isLater
  · have unreached := levelBelow_lt isEarlier
    have isHigh := heightBetween_le rises grows isBelow
    exact absurd (reaches.trans isHigh) (not_le.mpr unreached)
  · rw [quantileOf, ← isFound]
    exact pointBetween_le rises grows isAbove reaches
  · calc quantileOf values low high target .linear
      _ ≤ edge low high values.length (reachedBin values target + 1) :=
          (quantileOf_bounds someBins increasing natural rising reached .linear).2
      _ ≤ edge low high values.length bin := edgesRise.monotone isLater
      _ ≤ point := isAbove

end Histograms

section Inversion

variable {bins : List ℚ} {low high : ℚ}

theorem levelBelow_runningShares (hasMass : 0 < bins.sum) :
    levelBelow (runningShares bins) bins.length = 1 := by
  obtain ⟨last, isLast⟩ : ∃ last, bins.length = last + 1 := by
    refine Nat.exists_eq_succ_of_ne_zero fun noBins => ?_
    rw [List.length_eq_zero_iff.mp noBins, List.sum_nil] at hasMass
    exact lt_irrefl _ hasMass
  rw [runningShares, isLast, levelBelow_map_range _ (Nat.lt_succ_self last), ← isLast,
    List.take_length, div_self hasMass.ne']

/-- Linear quantiles of a histogram whose bins are not negative and hold something together. Over its
edges there is the line that begins at zero and reaches each running sum of the parts where the bin
ends. The quantile for a target is the first point of the range at which this line reaches the target,
and there it has exactly this height. -/
theorem linear_quantile_inverts_line (increasing : low < high) (natural : ∀ bin ∈ bins, 0 ≤ bin)
    (hasMass : 0 < bins.sum) :
    ∃ cuts sums : List ℚ,
      (rationalHistogram bins low high).edges = .ok (cuts.map finite) ∧
      (rationalHistogram bins low high).cumulative.values = sums.map finite ∧
      cuts.length = bins.length + 1 ∧ sums.length = bins.length ∧
      (∀ (place : Nat) (cut height : ℚ), cuts[place]? = some cut →
        (0 :: sums)[place]? = some height → cumulativeLine cuts sums cut = height) ∧
      ∀ target, 0 ≤ target → target ≤ 1 →
        ∃ point,
          (rationalHistogram bins low high).cumulative.quantileAt (finite target) .linear =
            .ok (finite point) ∧
          cumulativeLine cuts sums point = target ∧
          IsLeast {place | low ≤ place ∧ place ≤ high ∧ target ≤ cumulativeLine cuts sums place}
            point := by
  have someBins : bins ≠ [] := by
    rintro rfl
    exact lt_irrefl _ hasMass
  have someLength := List.length_pos_iff.mpr someBins
  have someSums : runningShares bins ≠ [] := by
    rwa [← List.length_pos_iff, length_runningShares]
  have sumsNatural := runningShares_nonneg natural
  have sumsRise := runningShares_rising natural
  have sums : (rationalHistogram bins low high).cumulative =
      rationalHistogram (runningShares bins) low high := by
    rw [rationalHistogram, cumulative_finite hasMass.ne', rationalHistogram, length_runningShares]
  refine ⟨edges low high (runningShares bins).length, runningShares bins, ?_, ?_, ?_,
    length_runningShares bins, ?_, ?_⟩
  · rw [length_runningShares]
    exact binEdges_finite increasing someLength
  · rw [sums]
    rfl
  · rw [edges, List.length_map, List.length_range, length_runningShares]
  · intro place cut height isCut isHeight
    obtain ⟨inHeights, _⟩ := List.getElem?_eq_some_iff.mp isHeight
    have isEdge : place ≤ (runningShares bins).length := Nat.le_of_lt_succ inHeights
    rw [getElem?_edges isEdge] at isCut
    rw [getElem?_levels isEdge] at isHeight
    cases isCut
    cases isHeight
    exact cumulativeLine_edge someSums increasing isEdge
  · intro target reached atMost
    have atMostLast : target ≤ levelBelow (runningShares bins) (runningShares bins).length := by
      rwa [length_runningShares, levelBelow_runningShares hasMass]
    have hasHeight := cumulativeLine_quantileOf someSums increasing reached atMostLast
    obtain ⟨atLeast, isBelow⟩ :=
      quantileOf_inRange someSums increasing sumsNatural sumsRise reached .linear
    refine ⟨quantileOf (runningShares bins) low high target .linear, ?_, hasHeight, ?_, ?_⟩
    · rw [sums]
      exact quantileAt_rational someSums increasing target .linear
    · exact ⟨atLeast, isBelow, hasHeight.ge⟩
    · rintro place ⟨atLeast, isBelow, reaches⟩
      exact quantileOf_le someSums increasing sumsNatural sumsRise reached atLeast isBelow reaches

/-- The second bin and the fourth hold all there is. -/
def sparseBins : List ℚ := [0, 2, 0, 2, 0]

theorem linear_quantile_of_sparse_inverts_line :
    (∀ bin ∈ sparseBins, 0 ≤ bin) ∧ 0 < sparseBins.sum ∧
      (rationalHistogram sparseBins 0 5).cumulative.quantileAt (finite (1 / 2)) .linear =
        .ok (finite 2) ∧
      cumulativeLine [0, 1, 2, 3, 4, 5] [0, 1 / 2, 1 / 2, 1, 1] 2 = 1 / 2 ∧
      IsLeast {place | 0 ≤ place ∧ place ≤ 5 ∧
        1 / 2 ≤ cumulativeLine [0, 1, 2, 3, 4, 5] [0, 1 / 2, 1 / 2, 1, 1] place} 2 := by
  have natural : ∀ bin ∈ sparseBins, 0 ≤ bin := by decide +kernel
  have hasMass : 0 < sparseBins.sum := by decide +kernel
  obtain ⟨cuts, sums, areCuts, areSums, _, _, _, inverts⟩ :=
    linear_quantile_inverts_line (show (0 : ℚ) < 5 by norm_num) natural hasMass
  obtain rfl : cuts = [0, 1, 2, 3, 4, 5] :=
    map_finite_inj.mp ((Except.ok.inj areCuts).symm.trans (by decide +kernel))
  obtain rfl : sums = [0, 1 / 2, 1 / 2, 1, 1] :=
    map_finite_inj.mp (areSums.symm.trans (by decide +kernel))
  obtain ⟨point, isQuantile, hasHeight, isLeast⟩ := inverts (1 / 2) (by norm_num) (by norm_num)
  have isTwo : (rationalHistogram sparseBins 0 5).cumulative.quantileAt (finite (1 / 2)) .linear =
      .ok (finite 2) := by decide +kernel
  obtain rfl : point = 2 := finite.inj (Except.ok.inj (isQuantile.symm.trans isTwo))
  exact ⟨natural, hasMass, isQuantile, hasHeight, isLeast⟩

end Inversion

end FieldSurvey
