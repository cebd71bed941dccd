import FieldSurvey.Proofs.Kernel.ExactBins
import FieldSurvey.Proofs.Kernel.Tally
import FieldSurvey.Statistics.Distribution

/-!
The edges of a histogram in exact numbers. The edges that are listed, the bounds of each bin and the
bins that entries are counted in all agree: an entry is counted between the edges it lies between,
and outside the range in the first bin or the last.
-/

namespace FieldSurvey

open ExactNumber

/-- Whether a number is counted in a bin, given the range and its number of bins and the edges of this
one. Numbers below the range belong to the first bin, those that are not below its end to the last. -/
def ExactNumber.belongs (low high : ExactNumber) (binCount bin : Nat) (start stop number : ExactNumber) :
    Bool :=
  (Scalar.le start number && Scalar.lt number stop) ||
    (bin == 0 && Scalar.lt number low) || (bin + 1 == binCount && Scalar.le high number)

section Edges

variable {low high : ℚ} {binCount bin : Nat}

/-- The edges of all bins, from the lower bound to the upper one. -/
def edges (low high : ℚ) (binCount : Nat) : List ℚ :=
  (List.range (binCount + 1)).map (edge low high binCount)

theorem getElem?_edges (isEdge : bin ≤ binCount) :
    (edges low high binCount)[bin]? = some (edge low high binCount bin) := by
  rw [edges, List.getElem?_map, List.getElem?_range (Nat.lt_succ_of_le isEdge), Option.map_some]

theorem edges_increasing (increasing : low < high) (someBins : 0 < binCount) :
    (edges low high binCount).Pairwise (· < ·) := by
  rw [edges, List.pairwise_map]
  exact List.pairwise_lt_range.imp fun isBefore => edge_strictMono increasing someBins isBefore

theorem binEdges_finite (increasing : low < high) (someBins : 0 < binCount) :
    binEdges (finite low) (finite high) binCount =
      .ok ((edges low high binCount).map finite) := by
  have someCount : ¬ (binCount : Int) ≤ 0 := by omega
  have isRange : ¬ high ≤ low := not_le.mpr increasing
  have hasBins : (binCount : ℚ) ≠ 0 := Nat.cast_ne_zero.mpr someBins.ne'
  unfold binEdges
  simp only [isFinite_finite, Bool.and_self, Bool.not_true, le_finite, decide_eq_false isRange,
    ofInt_eq, if_neg someCount, if_neg Bool.false_ne_true, finite_sub, finite_div _ hasBins,
    finite_mul, finite_add, Int.toNat_natCast, Int.cast_natCast]
  rw [edges, List.range_succ, List.map_append, List.map_append, List.map_map, List.map_singleton,
    List.map_singleton, edge_last low high someBins]
  rfl

/-- The bounds of a bin are its edges, whatever the histogram counts. -/
theorem binBounds_finite (values : List ExactNumber) (low high : ℚ) (someBins : 0 < binCount)
    (bin : Nat) :
    (Histogram.mk values (finite low) (finite high) binCount).binBounds bin =
      .ok (finite (edge low high binCount bin), finite (edge low high binCount (bin + 1))) := by
  have hasBins : ((binCount : Int) : ℚ) ≠ 0 := by
    rw [Int.cast_natCast]
    exact Nat.cast_ne_zero.mpr someBins.ne'
  have width : (Histogram.mk values (finite low) (finite high) binCount).binWidth =
      .ok (finite ((high - low) / binCount)) := by
    unfold Histogram.binWidth
    dsimp only
    rw [if_neg (Int.natCast_ne_zero.mpr someBins.ne'), finite_sub, ofInt_eq, finite_div _ hasBins,
      Int.cast_natCast]
  unfold Histogram.binBounds Histogram.stretch
  rw [width, ok_bind]
  simp only [ofInt_eq, finite_mul, finite_add, Int.cast_add, Int.cast_natCast, Int.cast_one, edge,
    Nat.cast_add, Nat.cast_one]
  rfl

theorem between_finite (increasing : low < high) :
    Binning.between (finite low) (finite high) binCount =
      ⟨finite low, finite high, binCount, .ok (finite low),
        .ok (finite (binCount / (high - low)))⟩ := by
  have hasWidth : high - low ≠ 0 := (sub_pos.mpr increasing).ne'
  simp only [Binning.between, finite_sub, zero_eq, eq_finite, decide_eq_false hasWidth, ofInt_eq,
    finite_div _ hasWidth, Int.cast_natCast, if_neg Bool.false_ne_true]

theorem bin?_eq_some_iff (increasing : low < high) (inBins : bin < binCount) (number : ExactNumber) :
    number.bin? low high binCount = some bin ↔
      belongs (finite low) (finite high) binCount bin (finite (edge low high binCount bin))
        (finite (edge low high binCount (bin + 1))) number = true := by
  cases number with
  | undefined => simp [bin?, belongs]
  | infinite negative =>
      cases negative with
      | true =>
          have isFirst : 0 = bin ↔ bin = 0 := eq_comm
          simp [bin?, belongs, isFirst]
      | false =>
          have isLast : binCount - 1 = bin ↔ bin + 1 = binCount := by omega
          simp [bin?, belongs, isLast]
  | finite number =>
      simp only [bin?, Option.some.injEq, binNumber_eq_iff increasing inBins, belongs, le_finite,
        lt_finite, Bool.or_eq_true, Bool.and_eq_true, decide_eq_true_eq, beq_iff_eq, or_assoc]

/-- The numbers that are counted in a bin are those that belong to it. -/
theorem getElem?_tally_bins (increasing : low < high) (inBins : bin < binCount)
    (numbers : List ExactNumber) :
    (tally binCount (numbers.filterMap (ExactNumber.bin? low high binCount)))[bin]? =
      some (numbers.countP (belongs (finite low) (finite high) binCount bin
        (finite (edge low high binCount bin)) (finite (edge low high binCount (bin + 1))))) := by
  rw [tally, List.getElem?_map, List.getElem?_range inBins, Option.map_some, List.count_filterMap]
  congr 2
  funext number
  rw [Bool.eq_iff_iff, beq_iff_eq, bin?_eq_some_iff increasing inBins]

/-- Histograms of any numbers, some of them infinite or undefined, over a range of rational numbers.
The edges increase from the lower bound to the upper one, the bounds of a bin are the edges with its
number and the next, and what the bin counts are the numbers that belong there by these edges. -/
theorem histogram_follows_edges (increasing : low < high) (someBins : 0 < binCount)
    {entries : Entries ExactNumber} {numbers : List ExactNumber}
    (areReals : entries.toReals = .ok numbers) :
    ∃ (cuts : List ℚ) (counts : List Nat),
      binEdges (finite low) (finite high) binCount = .ok (cuts.map finite) ∧
      cuts.length = binCount + 1 ∧ cuts.Pairwise (· < ·) ∧
      cuts.head? = some low ∧ cuts.getLast? = some high ∧
      entries.histogram (Binning.between (finite low) (finite high) binCount).offset
        (Binning.between (finite low) (finite high) binCount).scale binCount = .ok counts ∧
      counts.length = binCount ∧
      ∀ bin < binCount, ∃ start stop,
        cuts[bin]? = some start ∧ cuts[bin + 1]? = some stop ∧
        (∀ values, (Histogram.mk values (finite low) (finite high) binCount).binBounds bin =
          .ok (finite start, finite stop)) ∧
        counts[bin]? = some (numbers.countP
          (belongs (finite low) (finite high) binCount bin (finite start) (finite stop))) := by
  have firstEdge : (edges low high binCount).head? = some low := by
    rw [List.head?_eq_getElem?, getElem?_edges (Nat.zero_le binCount), edge_zero]
  have lastEdge : (edges low high binCount).getLast? = some high := by
    rw [edges, List.range_succ, List.map_append, List.map_singleton, List.getLast?_concat,
      edge_last low high someBins]
  refine ⟨edges low high binCount,
    tally binCount (numbers.filterMap (ExactNumber.bin? low high binCount)),
    binEdges_finite increasing someBins, ?_, edges_increasing increasing someBins, firstEdge,
    lastEdge, ?_, ?_, ?_⟩
  · rw [edges, List.length_map, List.length_range]
  · rw [between_finite increasing]
    exact Entries.histogram_exact increasing someBins areReals
  · rw [tally, List.length_map, List.length_range]
  · intro bin inBins
    exact ⟨_, _, getElem?_edges inBins.le, getElem?_edges inBins,
      fun values => binBounds_finite values low high someBins bin,
      getElem?_tally_bins increasing inBins numbers⟩

/-- Numbers below, within and above the range from zero to two, one of them undefined. -/
def scatteredNumbers : List ExactNumber :=
  [infinite true, finite (1 / 2), undefined, finite 1, finite 2, infinite false]

theorem histogram_of_scattered_follows_edges :
    ∃ counts : List Nat,
      (Entries.reals scatteredNumbers).histogram (Binning.between (finite 0) (finite 2) 2).offset
        (Binning.between (finite 0) (finite 2) 2).scale 2 = .ok counts ∧
      counts[0]? = some 2 ∧ counts[1]? = some 3 := by
  obtain ⟨cuts, counts, areCuts, _, _, _, _, counted, _, ofBins⟩ :=
    histogram_follows_edges (show (0 : ℚ) < 2 by norm_num) two_pos
      (show (Entries.reals scatteredNumbers).toReals = .ok scatteredNumbers from rfl)
  obtain rfl : cuts = [0, 1, 2] :=
    map_finite_inj.mp ((Except.ok.inj areCuts).symm.trans (by decide +kernel))
  obtain ⟨_, _, atZero, atOne, _, inFirst⟩ := ofBins 0 two_pos
  obtain ⟨_, _, fromOne, atTwo, _, inSecond⟩ := ofBins 1 one_lt_two
  cases atZero
  cases atOne
  cases fromOne
  cases atTwo
  exact ⟨counts, counted, inFirst.trans (by decide +kernel), inSecond.trans (by decide +kernel)⟩

end Edges

end FieldSurvey
