import Mathlib.Algebra.Ring.Nat
import Mathlib.Tactic.SplitIfs
import FieldSurvey.Kernel.Binning
import FieldSurvey.Proofs.Outcome

/-!
Counts of what falls into each of some bins. The counts up to a bin add up to the number of items that
fall into it or a lower one, and all of them to the number of items; the bins of an array count each
of its defined entries once.
-/

namespace FieldSurvey

theorem countP_lt_succ (bins : List Nat) (size : Nat) :
    bins.countP (· < size + 1) = bins.countP (· < size) + bins.count size := by
  induction bins with
  | nil => rfl
  | cons first rest inductionHypothesis =>
      rw [List.countP_cons, List.countP_cons, List.count_cons, inductionHypothesis]
      simp only [decide_eq_true_eq, beq_iff_eq]
      split_ifs <;> omega

/-- A tally counts the items of its own bins. -/
theorem sum_tally_below (size : Nat) (bins : List Nat) :
    (tally size bins).sum = bins.countP (· < size) := by
  induction size with
  | zero => simp [tally]
  | succ size inductionHypothesis =>
      have next : tally (size + 1) bins = tally size bins ++ [bins.count size] := by
        rw [tally, List.range_succ, List.map_append]
        rfl
      rw [next, List.sum_append, inductionHypothesis, List.sum_singleton, countP_lt_succ]

theorem sum_take_tally {size bin : Nat} (inRange : bin < size) (bins : List Nat) :
    ((tally size bins).take (bin + 1)).sum = bins.countP (· ≤ bin) := by
  have firstBins : (tally size bins).take (bin + 1) = tally (bin + 1) bins := by
    rw [tally, ← List.map_take, List.take_range, Nat.min_eq_left inRange]
    rfl
  rw [firstBins, sum_tally_below]
  simp only [Nat.lt_succ_iff]

/-- A tally has as many counts in all as there are items in its bins. -/
theorem sum_tally {size : Nat} {bins : List Nat} (inRange : ∀ bin ∈ bins, bin < size) :
    (tally size bins).sum = bins.length := by
  rw [sum_tally_below, List.countP_eq_length]
  exact fun bin isBin => decide_eq_true (inRange bin isBin)

theorem binOf?_lt {α : Type} [Scalar α] {low scale number : α} {binCount bin : Nat}
    (found : binOf? low scale binCount number = some bin) : bin < binCount := by
  unfold binOf? binAt? at found
  simp only at found
  split at found
  · cases found
  · split at found
    · rename_i inRange
      cases found
      omega
    · cases found

theorem binsOf_numbers {α : Type} [Scalar α] {low scale : α} {binCount : Nat} {numbers : List α}
    {bins : List Nat} (found : numbers.mapM (binOf? low scale binCount) = some bins) :
    bins.length = numbers.length ∧ ∀ bin ∈ bins, bin < binCount := by
  induction numbers generalizing bins with
  | nil =>
      cases found
      simp
  | cons number rest inductionHypothesis =>
      rw [List.mapM_cons] at found
      obtain ⟨first, ofNumber, found⟩ := Option.bind_eq_some_iff.mp found
      obtain ⟨later, ofRest, found⟩ := Option.bind_eq_some_iff.mp found
      cases found
      obtain ⟨sameLength, inRange⟩ := inductionHypothesis ofRest
      refine ⟨by simp [sameLength], ?_⟩
      intro bin isBin
      rcases List.mem_cons.mp isBin with rfl | isLater
      · exact binOf?_lt ofNumber
      · exact inRange bin isLater

/-- The bins of an array count each of its entries that are not undefined. -/
theorem Entries.sum_histogram {α : Type} [Scalar α] {low scale : Except Error α} {binCount : Int}
    {entries : Entries α} {counts : List Nat}
    (counted : entries.histogram low scale binCount = .ok counts) :
    ∃ numbers, entries.toReals = .ok numbers ∧
      counts.sum = numbers.countP fun number => !Scalar.isUndefined number := by
  obtain ⟨numbers, areReals, counted⟩ := bind_eq_ok.mp counted
  refine ⟨numbers, areReals, ?_⟩
  rw [List.countP_eq_length_filter]
  simp only at counted
  split at counted
  · cases counted
  · split at counted
    · rename_i noneDefined
      cases counted
      rw [List.isEmpty_iff.mp noneDefined]
      exact sum_tally (by simp)
    · obtain ⟨found, finds, counted⟩ := bind_eq_ok.mp counted
      cases found with
      | none => cases counted
      | some bins =>
          obtain ⟨unit, _, finds⟩ := bind_eq_ok.mp finds
          obtain ⟨offset, _, finds⟩ := bind_eq_ok.mp finds
          obtain ⟨sameLength, inRange⟩ := binsOf_numbers (Except.ok.inj finds)
          cases counted
          rw [sum_tally inRange, sameLength]

end FieldSurvey
