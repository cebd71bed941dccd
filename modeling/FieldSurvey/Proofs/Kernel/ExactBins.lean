import Mathlib.Algebra.Order.Floor.Ring
import Mathlib.Data.List.ReduceOption
import Mathlib.Tactic.FieldSimp
import Mathlib.Tactic.Linarith
import FieldSurvey.Kernel.Binning
import FieldSurvey.Proofs.Outcome
import FieldSurvey.Proofs.Scalar.Exact

/-!
Bins of rational numbers. In exact numbers the bin of a number is the one between whose edges it
lies, the last bin taking in the upper bound; so greater numbers have no lower bins.
-/

namespace FieldSurvey

/-- A rational number, or an undefined one. -/
def ExactNumber.ofRational : Option ℚ → ExactNumber
  | none => undefined
  | some number => finite number

/-- The lower edge of a bin of a range cut into bins; that of the next bin is its upper edge. -/
def edge (low high : ℚ) (binCount bin : Nat) : ℚ := low + bin * ((high - low) / binCount)

/-- The bin of a rational number. -/
def binNumber (low high : ℚ) (binCount : Nat) (number : ℚ) : Nat :=
  ⌊min ((number - low) * (binCount / (high - low))) (binCount - 1)⌋₊

section Edges

variable {low high number other : ℚ} {binCount : Nat}

theorem binNumber_lt (someBins : 0 < binCount) : binNumber low high binCount number < binCount := by
  have belowLast : min ((number - low) * (binCount / (high - low))) ((binCount : ℚ) - 1) < binCount :=
    lt_of_le_of_lt (min_le_right _ _) (sub_one_lt _)
  exact (Nat.floor_lt' someBins.ne').mpr belowLast

theorem binNumbers_lt (someBins : 0 < binCount) (numbers : List ℚ) :
    ∀ bin ∈ numbers.map (binNumber low high binCount), bin < binCount := by
  intro bin isBin
  obtain ⟨number, _, rfl⟩ := List.mem_map.mp isBin
  exact binNumber_lt someBins

theorem binNumber_mono (increasing : low < high) (isLess : number ≤ other) :
    binNumber low high binCount number ≤ binNumber low high binCount other := by
  have perUnit : (0 : ℚ) ≤ binCount / (high - low) :=
    div_nonneg (Nat.cast_nonneg _) (sub_pos.mpr increasing).le
  exact Nat.floor_mono (min_le_min_right _
    (mul_le_mul_of_nonneg_right (sub_le_sub_right isLess low) perUnit))

theorem width_pos (increasing : low < high) (someBins : 0 < binCount) :
    0 < (high - low) / binCount :=
  div_pos (sub_pos.mpr increasing) (Nat.cast_pos.mpr someBins)

@[simp] theorem edge_zero (low high : ℚ) (binCount : Nat) : edge low high binCount 0 = low := by
  rw [edge, Nat.cast_zero, zero_mul, add_zero]

theorem edge_last (low high : ℚ) (someBins : 0 < binCount) :
    edge low high binCount binCount = high := by
  have hasBins : (binCount : ℚ) ≠ 0 := Nat.cast_ne_zero.mpr someBins.ne'
  rw [edge, mul_div_cancel₀ _ hasBins, add_sub_cancel]

theorem edge_strictMono (increasing : low < high) (someBins : 0 < binCount) :
    StrictMono (edge low high binCount) := by
  intro first second isBefore
  have further := mul_lt_mul_of_pos_right (Nat.cast_lt (α := ℚ).mpr isBefore)
    (width_pos increasing someBins)
  exact add_lt_add_right further low

/-- The edges are where the positions are whole numbers. -/
theorem edge_le_iff (increasing : low < high) (someBins : 0 < binCount) {bin : Nat} :
    edge low high binCount bin ≤ number ↔
      (bin : ℚ) ≤ (number - low) * (binCount / (high - low)) := by
  have position : (number - low) * (binCount / (high - low)) =
      (number - low) / ((high - low) / binCount) := by
    rw [div_div_eq_mul_div, mul_div_assoc]
  rw [position, le_div_iff₀ (width_pos increasing someBins), le_sub_iff_add_le', edge]

theorem le_binNumber_iff (increasing : low < high) {bin : Nat} (inBins : bin < binCount) :
    bin ≤ binNumber low high binCount number ↔ bin = 0 ∨ edge low high binCount bin ≤ number := by
  have someBins : 0 < binCount := Nat.zero_lt_of_lt inBins
  have atMostLast : (bin : ℚ) ≤ binCount - 1 := by
    rw [le_sub_iff_add_le]
    exact_mod_cast inBins
  rcases Nat.eq_zero_or_pos bin with rfl | isLater
  · exact iff_of_true (Nat.zero_le _) (.inl rfl)
  · rw [binNumber, Nat.le_floor_iff' isLater.ne', le_min_iff, edge_le_iff increasing someBins,
      and_iff_left atMostLast, or_iff_right isLater.ne']

/-- A number lies at or above the lower edge of its bin. -/
theorem edge_le (increasing : low < high) (someBins : 0 < binCount) (atLeast : low ≤ number) :
    edge low high binCount (binNumber low high binCount number) ≤ number := by
  rcases (le_binNumber_iff increasing (binNumber_lt someBins)).mp le_rfl with isFirst | isAbove
  · rwa [isFirst, edge_zero]
  · exact isAbove

/-- A number of the range lies at or below the upper edge of its bin. -/
theorem le_edge (increasing : low < high) (someBins : 0 < binCount) (atMost : number ≤ high) :
    number ≤ edge low high binCount (binNumber low high binCount number + 1) := by
  have inBins : binNumber low high binCount number < binCount := binNumber_lt someBins
  rcases Nat.lt_or_eq_of_le inBins with isBefore | isLast
  · by_contra isAbove
    have isHigher := (le_binNumber_iff increasing isBefore).mpr (.inr (le_of_not_ge isAbove))
    omega
  · have lastEdge : binNumber low high binCount number + 1 = binCount := isLast
    rwa [lastEdge, edge_last low high someBins]

/-- The numbers of a bin are those between its edges, to which the first bin adds all lower ones and
the last bin all that are not lower than the upper bound. -/
theorem binNumber_eq_iff (increasing : low < high) {bin : Nat} (inBins : bin < binCount) :
    binNumber low high binCount number = bin ↔
      (edge low high binCount bin ≤ number ∧ number < edge low high binCount (bin + 1)) ∨
        (bin = 0 ∧ number < low) ∨ (bin + 1 = binCount ∧ high ≤ number) := by
  have someBins : 0 < binCount := Nat.zero_lt_of_lt inBins
  have firstEdge : bin = 0 → edge low high binCount bin = low := by
    rintro rfl
    exact edge_zero low high binCount
  have ordered : edge low high binCount bin < edge low high binCount (bin + 1) :=
    edge_strictMono increasing someBins (Nat.lt_succ_self bin)
  have reaches : bin ≤ binNumber low high binCount number ↔ _ := le_binNumber_iff increasing inBins
  rcases Nat.lt_or_eq_of_le (Nat.succ_le_of_lt inBins) with isBefore | isLast
  · have passes : bin + 1 ≤ binNumber low high binCount number ↔ _ :=
      le_binNumber_iff increasing isBefore
    calc binNumber low high binCount number = bin
      _ ↔ bin ≤ binNumber low high binCount number ∧
          ¬ bin + 1 ≤ binNumber low high binCount number := by omega
      _ ↔ (bin = 0 ∨ edge low high binCount bin ≤ number) ∧
          number < edge low high binCount (bin + 1) := by
        rw [reaches, passes, or_iff_right (Nat.succ_ne_zero bin), not_le]
      _ ↔ _ := by grind
  · have lastEdge : edge low high binCount (bin + 1) = high := by
      subst isLast
      exact edge_last low high someBins
    have inRange : binNumber low high binCount number < binCount := binNumber_lt someBins
    calc binNumber low high binCount number = bin
      _ ↔ bin ≤ binNumber low high binCount number := by omega
      _ ↔ bin = 0 ∨ edge low high binCount bin ≤ number := reaches
      _ ↔ _ := by grind

end Edges

section Counting

variable {low high : ℚ} {binCount : Nat}

theorem clampPosition_finite (last position : ℚ) :
    clampPosition (ExactNumber.finite last) (.finite position) =
      .finite (min (max position 0) last) := by
  rw [clampPosition, ExactNumber.zero_eq, ExactNumber.maximum_finite, ExactNumber.minimum_finite]

/-- The bin of a position is its whole part once it is cut off at the first and the last bin. -/
theorem binAt?_of_clamped {position : ExactNumber} {clamped : ℚ}
    (isClamped : clampPosition (.finite ((binCount : ℚ) - 1)) position = .finite clamped)
    (natural : 0 ≤ clamped) (atMost : clamped ≤ binCount - 1) :
    binAt? (.finite ((binCount : ℚ) - 1)) binCount position = some ⌊clamped⌋₊ := by
  have whole : Scalar.wholePart (ExactNumber.finite clamped) = (⌊clamped⌋₊ : Int) := by
    rw [ExactNumber.wholePart_finite natural, Int.natCast_floor_eq_floor natural]
  have inBins : ⌊clamped⌋₊ < binCount :=
    (Nat.floor_lt natural).mpr (atMost.trans_lt (sub_one_lt _))
  unfold binAt?
  dsimp only
  rw [isClamped, whole, ExactNumber.isUndefined_finite, if_neg Bool.false_ne_true,
    if_pos ⟨Int.natCast_nonneg _, Int.ofNat_lt.mpr inBins⟩, Int.toNat_natCast]

/-- The bin of an exact number; an infinite one falls into the first bin or the last. -/
def ExactNumber.bin? (low high : ℚ) (binCount : Nat) : ExactNumber → Option Nat
  | undefined => none
  | infinite negative => some (if negative then 0 else binCount - 1)
  | finite number => some (binNumber low high binCount number)

theorem binOf?_exact (increasing : low < high) (someBins : 0 < binCount) (number : ExactNumber) :
    binOf? (ExactNumber.finite low) (.finite (binCount / (high - low))) binCount number =
      number.bin? low high binCount := by
  have last : (Scalar.ofInt ((binCount : Int) - 1) : ExactNumber) =
      .finite ((binCount : ℚ) - 1) := by
    rw [ExactNumber.ofInt_eq, Int.cast_sub, Int.cast_natCast, Int.cast_one]
  have lastNatural : (0 : ℚ) ≤ binCount - 1 := by
    rw [sub_nonneg]
    exact Nat.one_le_cast.mpr someBins
  unfold binOf?
  rw [last]
  cases number with
  | undefined => rfl
  | infinite negative =>
      have perUnit : (0 : ℚ) < binCount / (high - low) :=
        div_pos (Nat.cast_pos.mpr someBins) (sub_pos.mpr increasing)
      have distance : ExactNumber.infinite negative - .finite low = .infinite negative := rfl
      rw [distance, ExactNumber.infinite_mul_finite _ perUnit]
      cases negative with
      | true =>
          have isClamped : clampPosition (ExactNumber.finite ((binCount : ℚ) - 1))
              (.infinite true) = .finite (min 0 ((binCount : ℚ) - 1)) :=
            ExactNumber.minimum_finite _ _
          rw [min_eq_left lastNatural] at isClamped
          rw [binAt?_of_clamped isClamped le_rfl lastNatural, Nat.floor_zero]
          rfl
      | false =>
          rw [binAt?_of_clamped rfl lastNatural le_rfl, ← Nat.cast_pred someBins,
            Nat.floor_natCast]
          rfl
  | finite number =>
      rw [ExactNumber.finite_sub, ExactNumber.finite_mul,
        binAt?_of_clamped (clampPosition_finite _ _) (le_min (le_max_right _ _) lastNatural)
          (min_le_right _ _)]
      -- A position below zero is cut off at zero, and so is the whole part of one.
      rcases le_total 0 ((number - low) * (binCount / (high - low))) with isNatural | isNegative
      · rw [max_eq_left isNatural]
        rfl
      · have noBinBelow : binNumber low high binCount number = 0 :=
          Nat.floor_of_nonpos ((min_le_left _ _).trans isNegative)
        rw [max_eq_right isNegative, min_eq_left lastNatural, Nat.floor_zero, ExactNumber.bin?,
          noBinBelow]

theorem filter_defined (numbers : List (Option ℚ)) :
    (numbers.map ExactNumber.ofRational).filter (fun number => !Scalar.isUndefined number) =
      numbers.reduceOption.map ExactNumber.finite := by
  induction numbers with
  | nil => rfl
  | cons number rest inductionHypothesis =>
      cases number with
      | none => exact inductionHypothesis
      | some number => exact congrArg (ExactNumber.finite number :: ·) inductionHypothesis

theorem mapM_binOf?_exact (increasing : low < high) (someBins : 0 < binCount)
    (numbers : List ExactNumber) :
    (numbers.filter fun number => !Scalar.isUndefined number).mapM
        (binOf? (.finite low) (.finite (binCount / (high - low))) binCount) =
      some (numbers.filterMap (ExactNumber.bin? low high binCount)) := by
  induction numbers with
  | nil => rfl
  | cons first rest inductionHypothesis =>
      have ofFirst := binOf?_exact increasing someBins first
      cases first with
      | undefined => exact inductionHypothesis
      | infinite negative =>
          exact (List.mapM_cons ..).trans (by rw [ofFirst, inductionHypothesis]; rfl)
      | finite number =>
          exact (List.mapM_cons ..).trans (by rw [ofFirst, inductionHypothesis]; rfl)

/-- The entries of an array are counted in their bins. -/
theorem Entries.histogram_exact (increasing : low < high) (someBins : 0 < binCount)
    {entries : Entries ExactNumber} {numbers : List ExactNumber}
    (areReals : entries.toReals = .ok numbers) :
    entries.histogram (.ok (.finite low)) (.ok (.finite (binCount / (high - low)))) binCount =
      .ok (tally binCount (numbers.filterMap (ExactNumber.bin? low high binCount))) := by
  have found := mapM_binOf?_exact increasing someBins numbers
  have someCount : ¬ (binCount : Int) < 0 := by omega
  unfold histogram countBins
  simp only [areReals, ok_bind, if_neg someCount, Int.toNat_natCast, pure_eq_ok, found]
  split
  · rename_i noneDefined
    rw [List.isEmpty_iff.mp noneDefined] at found
    rw [← Option.some.inj found]
    rfl
  · rfl

theorem Entries.histogram_finite (increasing : low < high) (someBins : 0 < binCount)
    {entries : Entries ExactNumber} {numbers : List (Option ℚ)}
    (areRational : entries.toReals = .ok (numbers.map .ofRational)) :
    entries.histogram (.ok (.finite low)) (.ok (.finite (binCount / (high - low)))) binCount =
      .ok (tally binCount (numbers.reduceOption.map (binNumber low high binCount))) := by
  have sameBins : (numbers.map ExactNumber.ofRational).filterMap
      (ExactNumber.bin? low high binCount) =
        numbers.reduceOption.map (binNumber low high binCount) := by
    rw [List.filterMap_map, List.reduceOption, List.map_filterMap]
    refine List.filterMap_congr fun number _ => ?_
    cases number <;> rfl
  rw [Entries.histogram_exact increasing someBins areRational, sameBins]

end Counting

end FieldSurvey
