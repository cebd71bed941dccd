import Mathlib.Algebra.BigOperators.Ring.Finset
import Mathlib.Algebra.Order.BigOperators.Group.List
import Mathlib.Tactic.Ring
import FieldSurvey.Histogram.Basic
import FieldSurvey.Proofs.Kernel.Tally
import FieldSurvey.Proofs.Scalar.Exact

/-!
Sums of exact numbers. Whatever blocks a sum of finite numbers is taken in, it is the sum; so the
probabilities of bins are the parts of the whole that they hold, and the running sums of these are
the parts that the bins up to each hold together. For counted bins that is a part of the count.
-/

namespace FieldSurvey

open ExactNumber

section Sums

theorem foldl_finite (numbers : List ℚ) (start : ℚ) :
    (numbers.map finite).foldl (· + ·) (finite start) = finite (start + numbers.sum) := by
  induction numbers generalizing start with
  | nil => rw [List.sum_nil, add_zero]; rfl
  | cons first rest inductionHypothesis =>
      rw [List.map_cons, List.foldl_cons, finite_add, inductionHypothesis, List.sum_cons, add_assoc]

def EightSums.finite (sums : EightSums ℚ) : EightSums ExactNumber :=
  ⟨.finite sums.s0, .finite sums.s1, .finite sums.s2, .finite sums.s3, .finite sums.s4,
    .finite sums.s5, .finite sums.s6, .finite sums.s7⟩

def EightSums.together (sums : EightSums ℚ) : ℚ :=
  ((sums.s0 + sums.s1) + (sums.s2 + sums.s3)) + ((sums.s4 + sums.s5) + (sums.s6 + sums.s7))

theorem EightSums.absorb_finite (sums : EightSums ℚ) (numbers : List ℚ) :
    sums.finite.absorb (numbers.map .finite) = .finite (sums.together + numbers.sum) := by
  generalize isBegun : sums.finite = begun
  generalize areListed : numbers.map ExactNumber.finite = listed
  fun_induction EightSums.absorb begun listed generalizing sums numbers with
  | case1 begun x0 x1 x2 x3 x4 x5 x6 x7 rest inductionHypothesis =>
      subst isBegun
      match numbers, areListed with
      | y0 :: y1 :: y2 :: y3 :: y4 :: y5 :: y6 :: y7 :: later, rfl =>
          rw [inductionHypothesis ⟨sums.s0 + y0, sums.s1 + y1, sums.s2 + y2, sums.s3 + y3,
            sums.s4 + y4, sums.s5 + y5, sums.s6 + y6, sums.s7 + y7⟩ later rfl rfl]
          simp only [together, List.sum_cons]
          congr 1
          ring
  | case2 begun leftover few =>
      subst isBegun areListed
      exact foldl_finite numbers sums.together

theorem blockSum_finite (numbers : List ℚ) : blockSum (numbers.map finite) = finite numbers.sum := by
  generalize areListed : numbers.map finite = listed
  fun_cases blockSum listed with
  | case1 x0 x1 x2 x3 x4 x5 x6 x7 rest =>
      match numbers, areListed with
      | y0 :: y1 :: y2 :: y3 :: y4 :: y5 :: y6 :: y7 :: later, rfl =>
          refine (EightSums.absorb_finite ⟨y0, y1, y2, y3, y4, y5, y6, y7⟩ later).trans ?_
          simp only [EightSums.together, List.sum_cons, add_assoc]
  | case2 few =>
      subst areListed
      cases numbers with
      | nil => rfl
      | cons first rest => exact foldl_finite rest first

theorem halvingSum_finite (numbers : List ℚ) :
    halvingSum (numbers.map finite) = finite numbers.sum := by
  generalize areListed : numbers.map finite = listed
  fun_induction halvingSum listed generalizing numbers with
  | case1 listed short =>
      subst areListed
      exact blockSum_finite numbers
  | case2 listed long middle firstHalf secondHalf =>
      subst areListed
      rw [firstHalf (numbers.take middle) (List.map_take ..), secondHalf (numbers.drop middle)
        (List.map_drop ..), finite_add, ← List.sum_append, List.take_append_drop]

theorem blockedSum_finite (numbers : List ℚ) :
    blockedSum (numbers.map finite) = finite numbers.sum := by
  rw [blockedSum, halvingSum_finite, zero_eq, finite_add, zero_add]

theorem runningSums_finite (start : ℚ) (numbers : List ℚ) :
    Histogram.runningSums (finite start) (numbers.map finite) =
      (List.range numbers.length).map fun place =>
        finite (start + (numbers.take (place + 1)).sum) := by
  induction numbers generalizing start with
  | nil => rfl
  | cons first rest inductionHypothesis =>
      rw [List.map_cons, Histogram.runningSums, finite_add, inductionHypothesis, List.length_cons,
        List.range_succ_eq_map, List.map_cons, List.map_map]
      simp only [Function.comp_def, Nat.succ_eq_add_one, List.take_succ_cons, List.sum_cons,
        List.take_zero, List.sum_nil, add_zero, add_assoc]

theorem cumulativeSums_finite (numbers : List ℚ) :
    Histogram.cumulativeSums (numbers.map finite) =
      (List.range numbers.length).map fun place => finite (numbers.take (place + 1)).sum := by
  cases numbers with
  | nil => rfl
  | cons first rest =>
      rw [List.map_cons, Histogram.cumulativeSums, runningSums_finite, List.length_cons,
        List.range_succ_eq_map, List.map_cons, List.map_map]
      simp only [Function.comp_def, Nat.succ_eq_add_one, List.take_succ_cons, List.sum_cons,
        List.take_zero, List.sum_nil, add_zero]

end Sums

section Shares

/-- The parts of a sum that each number and those before it hold together. -/
def runningShares (numbers : List ℚ) : List ℚ :=
  (List.range numbers.length).map fun place => (numbers.take (place + 1)).sum / numbers.sum

@[simp] theorem length_runningShares (numbers : List ℚ) :
    (runningShares numbers).length = numbers.length := by
  rw [runningShares, List.length_map, List.length_range]

theorem runningShares_nonneg {numbers : List ℚ} (natural : ∀ number ∈ numbers, 0 ≤ number) :
    ∀ share ∈ runningShares numbers, 0 ≤ share := by
  intro share isShare
  obtain ⟨place, _, rfl⟩ := List.mem_map.mp isShare
  exact div_nonneg (List.sum_nonneg fun number isNumber => natural _ (List.mem_of_mem_take isNumber))
    (List.sum_nonneg natural)

theorem runningShares_rising {numbers : List ℚ} (natural : ∀ number ∈ numbers, 0 ≤ number) :
    (runningShares numbers).Pairwise (· ≤ ·) := by
  rw [runningShares, List.pairwise_map]
  refine List.pairwise_lt_range.imp fun {first second} isBefore => ?_
  have isPart : (numbers.take (first + 1)).Sublist (numbers.take (second + 1)) :=
    (List.take_prefix_take_left (Nat.succ_le_succ isBefore.le)).sublist
  exact div_le_div_of_nonneg_right
    (isPart.sum_le_sum fun number isNumber => natural _ (List.mem_of_mem_take isNumber))
    (List.sum_nonneg natural)

/-- The running sums of values that do not add up to zero are the parts of their sum. -/
theorem cumulative_finite {low high : ExactNumber} {binCount : Int} {numbers : List ℚ}
    (hasMass : numbers.sum ≠ 0) :
    Histogram.cumulative ⟨numbers.map finite, low, high, binCount⟩ =
      ⟨(runningShares numbers).map finite, low, high, binCount⟩ := by
  have parts : Histogram.probabilities ⟨numbers.map finite, low, high, binCount⟩ =
      (numbers.map (· / numbers.sum)).map finite := by
    unfold Histogram.probabilities
    dsimp only
    rw [blockedSum_finite, zero_eq, eq_finite, decide_eq_false hasMass, if_neg Bool.false_ne_true,
      List.map_map, List.map_map]
    exact List.map_congr_left fun number _ => finite_div _ hasMass
  have upTo (place : Nat) : ((numbers.map (· / numbers.sum)).take (place + 1)).sum =
      (numbers.take (place + 1)).sum / numbers.sum := by
    simp only [div_eq_mul_inv, ← List.map_take, List.sum_map_mul_right, List.map_id']
  unfold Histogram.cumulative
  rw [parts, cumulativeSums_finite, List.length_map, runningShares, List.map_map]
  congr 1
  exact List.map_congr_left fun place _ => congrArg finite (upTo place)

end Shares

section Counted

/-- The part of all bin numbers that are at most as great as one. -/
def massUpTo (bins : List Nat) (bin : Nat) : ℚ := bins.countP (· ≤ bin) / bins.length

theorem runningShares_tally {size : Nat} {bins : List Nat} (inRange : ∀ bin ∈ bins, bin < size) :
    runningShares ((tally size bins).map fun (count : Nat) => (count : ℚ)) =
      (List.range size).map (massUpTo bins) := by
  have count : ((tally size bins).map fun (count : Nat) => (count : ℚ)).length = size := by
    rw [List.length_map, tally, List.length_map, List.length_range]
  rw [runningShares, count]
  refine List.map_congr_left fun bin isBin => ?_
  rw [← List.map_take, ← Nat.cast_list_sum, ← Nat.cast_list_sum,
    sum_take_tally (List.mem_range.mp isBin), sum_tally inRange, massUpTo]

/-- The running sums of counted bins are the parts that the bins up to each hold. -/
theorem cumulative_tally {low high : ExactNumber} {size : Nat} {bins : List Nat}
    (inRange : ∀ bin ∈ bins, bin < size) (someBin : bins ≠ []) :
    Histogram.cumulative ⟨((tally size bins).map Int.ofNat).map Scalar.ofInt, low, high, size⟩ =
      ⟨(List.range size).map fun bin => finite (massUpTo bins bin), low, high, size⟩ := by
  have values : ((tally size bins).map Int.ofNat).map Scalar.ofInt =
      ((tally size bins).map fun (count : Nat) => (count : ℚ)).map finite := by
    rw [List.map_map, List.map_map]
    exact List.map_congr_left fun count _ => congrArg finite (Int.cast_natCast count)
  have hasMass : ((tally size bins).map fun (count : Nat) => (count : ℚ)).sum ≠ 0 := by
    rw [← Nat.cast_list_sum, sum_tally inRange]
    exact Nat.cast_ne_zero.mpr (List.length_pos_iff.mpr someBin).ne'
  rw [values, cumulative_finite hasMass, runningShares_tally inRange, List.map_map]
  rfl

end Counted

end FieldSurvey
