import FieldSurvey.Histogram.Quantile
import FieldSurvey.Proofs.Histogram.ExactEdges
import FieldSurvey.Proofs.Histogram.ExactSums

/-!
Quantiles in exact numbers. The bin that is found is the first whose value reaches the target, or the
last one; every interpolation picks a point between its edges. If the values are the running sums of
counted bins, it is the first bin that, together with those below it, holds the target part of all
that was counted.
-/

namespace FieldSurvey

open ExactNumber Histogram

/-- A histogram of rational values, one for each of its bins. -/
def rationalHistogram (values : List ℚ) (low high : ℚ) : Histogram ExactNumber :=
  ⟨values.map finite, finite low, finite high, values.length⟩

/-- The value that is reached below a bin: nothing below the first one. -/
def levelBelow (values : List ℚ) (bin : Nat) : ℚ := (0 :: values).getD bin 0

/-- The first bin whose value reaches a target, or else the last bin. -/
def reachedBin (values : List ℚ) (target : ℚ) : Nat :=
  (values.findIdx? fun value => target ≤ value).getD (values.length - 1)

/-- The point between two edges that an interpolation picks, given the values that are reached below
the first and below the second. -/
def pointBetween (start stop before after target : ℚ) : Interpolation → ℚ
  | .linear => min stop (start + (stop - start) * (target - before) / (after - before))
  | .lower => start
  | .higher => stop
  | .midpoint => 1 / 2 * (start + stop)
  | .nearest => if target - start < stop - target then start else stop

/-- The point that an interpolation picks in a histogram of rational values. -/
def quantileOf (values : List ℚ) (low high target : ℚ) : Interpolation → ℚ :=
  pointBetween (edge low high values.length (reachedBin values target))
    (edge low high values.length (reachedBin values target + 1))
    (levelBelow values (reachedBin values target))
    (levelBelow values (reachedBin values target + 1)) target

section Points

variable {start stop before after target other : ℚ}

/-- Every interpolation picks a point between the edges. -/
theorem pointBetween_bounds (ordered : start ≤ stop) (rising : before ≤ after)
    (reached : before ≤ target) (mode : Interpolation) :
    start ≤ pointBetween start stop before after target mode ∧
      pointBetween start stop before after target mode ≤ stop := by
  cases mode with
  | linear =>
      have share : 0 ≤ (stop - start) * (target - before) / (after - before) :=
        div_nonneg (mul_nonneg (sub_nonneg.mpr ordered) (sub_nonneg.mpr reached))
          (sub_nonneg.mpr rising)
      exact ⟨le_min ordered (le_add_of_nonneg_right share), min_le_left _ _⟩
  | lower => exact ⟨le_refl _, ordered⟩
  | higher => exact ⟨ordered, le_refl _⟩
  | midpoint =>
      rw [pointBetween]
      constructor <;> linarith
  | nearest =>
      rw [pointBetween]
      split
      · exact ⟨le_refl _, ordered⟩
      · exact ⟨ordered, le_refl _⟩

end Points

section Reaching

variable {values : List ℚ} {low high target : ℚ} {bin : Nat}

@[simp] theorem levelBelow_zero (values : List ℚ) : levelBelow values 0 = 0 := rfl

theorem getElem?_levels (isEdge : bin ≤ values.length) :
    (0 :: values)[bin]? = some (levelBelow values bin) := by
  rw [levelBelow, List.getD_eq_getElem?_getD, List.getElem?_eq_getElem (Nat.lt_succ_of_le isEdge),
    Option.getD_some]

theorem getElem?_levelBelow (inSize : bin < values.length) :
    values[bin]? = some (levelBelow values (bin + 1)) :=
  getElem?_levels inSize

theorem levelBelow_map_range (level : Nat → ℚ) {size : Nat} (inSize : bin < size) :
    levelBelow ((List.range size).map level) (bin + 1) = level bin := by
  rw [levelBelow, List.getD_cons_succ, List.getD_eq_getElem?_getD, List.getElem?_map,
    List.getElem?_range inSize, Option.map_some, Option.getD_some]

theorem reachedBin_lt (someBins : values ≠ []) (target : ℚ) :
    reachedBin values target < values.length := by
  have someLength := List.length_pos_iff.mpr someBins
  unfold reachedBin
  cases found : values.findIdx? fun value => target ≤ value with
  | none => exact Nat.sub_lt someLength Nat.one_pos
  | some bin => exact (List.findIdx?_eq_some_iff_getElem.mp found).1

/-- Below the bin that is found the target is not yet reached. -/
theorem levelBelow_lt (isEarlier : bin < reachedBin values target) :
    levelBelow values (bin + 1) < target := by
  unfold reachedBin at isEarlier
  cases found : values.findIdx? fun value => target ≤ value with
  | none =>
      rw [found, Option.getD_none] at isEarlier
      have inSize : bin < values.length := by omega
      have isValue := List.mem_of_getElem? (getElem?_levelBelow inSize)
      have unreached := List.findIdx?_eq_none_iff.mp found _ isValue
      rwa [decide_eq_false_iff_not, not_le] at unreached
  | some first =>
      rw [found, Option.getD_some] at isEarlier
      obtain ⟨inSize, _, earlier⟩ := List.findIdx?_eq_some_iff_getElem.mp found
      have stands := getElem?_levelBelow (isEarlier.trans inSize)
      rw [List.getElem?_eq_getElem, Option.some.injEq] at stands
      rw [← stands]
      simpa using earlier bin isEarlier

/-- The bin that is found reaches the target, unless it is the last one. -/
theorem reachedBin_cases (values : List ℚ) (target : ℚ) :
    target ≤ levelBelow values (reachedBin values target + 1) ∨
      reachedBin values target = values.length - 1 := by
  unfold reachedBin
  cases found : values.findIdx? fun value => target ≤ value with
  | none => exact .inr rfl
  | some bin =>
      obtain ⟨inList, reaches, _⟩ := List.findIdx?_eq_some_iff_getElem.mp found
      have stands := getElem?_levelBelow inList
      rw [List.getElem?_eq_getElem inList, Option.some.injEq] at stands
      rw [Option.getD_some, ← stands]
      exact .inl (of_decide_eq_true reaches)

/-- If what all bins hold reaches the target, then so does the bin that is found. -/
theorem le_levelBelow_reachedBin (someBins : values ≠ [])
    (atMost : target ≤ levelBelow values values.length) :
    target ≤ levelBelow values (reachedBin values target + 1) := by
  rcases reachedBin_cases values target with reaches | isLast
  · exact reaches
  · rwa [isLast, Nat.sub_add_cancel (List.length_pos_iff.mpr someBins)]

theorem levelBelow_reachedBin_le (values : List ℚ) (natural : 0 ≤ target) :
    levelBelow values (reachedBin values target) ≤ target := by
  cases found : reachedBin values target with
  | zero => exact natural
  | succ before => exact (levelBelow_lt (found ▸ Nat.lt_succ_self before)).le

/-- A greater target is reached no earlier. -/
theorem reachedBin_mono {other : ℚ} (someBins : values ≠ []) (isLess : target ≤ other) :
    reachedBin values target ≤ reachedBin values other := by
  rcases reachedBin_cases values other with reaches | isLast
  · by_contra isLater
    have unreached := levelBelow_lt (not_le.mp isLater)
    exact absurd (isLess.trans reaches) (not_le.mpr unreached)
  · have inSize := reachedBin_lt someBins target
    omega

theorem reachingBin_rational (someBins : values ≠ []) (low high target : ℚ) :
    (rationalHistogram values low high).reachingBin (finite target) =
      reachedBin values target := by
  have someLength := List.length_pos_iff.mpr someBins
  have sameSearch : ((values.map finite).findIdx? fun value => Scalar.le (finite target) value) =
      values.findIdx? fun value => target ≤ value := by
    rw [List.findIdx?_map]
    congr 1
    funext value
    exact le_finite target value
  unfold reachingBin reachedBin
  simp only [rationalHistogram, sameSearch]
  cases values.findIdx? fun value => target ≤ value with
  | none =>
      rw [Option.getD_none]
      dsimp only
      omega
  | some bin => rfl

theorem evenPoint_rational (inSize : bin < values.length) {start stop : ℚ} (ordered : start ≤ stop) :
    (rationalHistogram values low high).evenPoint bin (finite start) (finite stop) (finite target) =
      .ok (finite (pointBetween start stop (levelBelow values bin) (levelBelow values (bin + 1))
        target .linear)) := by
  have own : entryAt (rationalHistogram values low high).values (bin : Int) =
      .ok (finite (levelBelow values (bin + 1))) := by
    apply entryAt_ofNat
    rw [rationalHistogram, List.getElem?_map, getElem?_levelBelow inSize, Option.map_some]
  have afterBelow : (do
      let mass := (← entryAt (rationalHistogram values low high).values bin) -
        finite (levelBelow values bin)
      if Scalar.eq mass Scalar.zero then return finite start
      else return Scalar.lesser (finite stop) (finite start +
        (finite stop - finite start) * (finite target - finite (levelBelow values bin)) / mass)) =
      (.ok (finite (pointBetween start stop (levelBelow values bin) (levelBelow values (bin + 1))
        target .linear)) : Except Error ExactNumber) := by
    rw [own]
    simp only [ok_bind, finite_sub, zero_eq, eq_finite, decide_eq_true_eq]
    split
    · rename_i noMass
      -- Without mass the share is divided by zero, so it is zero in rational numbers.
      rw [pointBetween, noMass, div_zero, add_zero, min_eq_right ordered]
      rfl
    · rename_i hasMass
      rw [finite_mul, finite_div _ hasMass, finite_add, lesser_finite]
      rfl
  unfold evenPoint
  cases bin with
  | zero => exact afterBelow
  | succ before =>
      have lower : ((before + 1 : Nat) : Int) - 1 = before := by omega
      have below : entryAt (rationalHistogram values low high).values (before : Int) =
          .ok (finite (levelBelow values (before + 1))) := by
        apply entryAt_ofNat
        rw [rationalHistogram, List.getElem?_map, getElem?_levelBelow (Nat.lt_of_succ_lt inSize),
          Option.map_some]
      rw [if_pos (by omega), lower, below]
      exact afterBelow

theorem quantileAt_rational (someBins : values ≠ []) (increasing : low < high) (target : ℚ)
    (mode : Interpolation) :
    (rationalHistogram values low high).quantileAt (finite target) mode =
      .ok (finite (quantileOf values low high target mode)) := by
  have someLength := List.length_pos_iff.mpr someBins
  have bounds := binBounds_finite (values.map finite) low high someLength (reachedBin values target)
  have ordered := (edge_strictMono increasing someLength
    (Nat.lt_succ_self (reachedBin values target))).le
  unfold quantileAt
  rw [reachingBin_rational someBins]
  have sameBounds : (rationalHistogram values low high).binBounds (reachedBin values target) = _ :=
    bounds
  simp only [sameBounds, ok_bind]
  cases mode with
  | linear => exact evenPoint_rational (reachedBin_lt someBins target) ordered
  | lower => rfl
  | higher => rfl
  | midpoint =>
      rw [half_eq, finite_add, finite_mul]
      rfl
  | nearest =>
      simp only [finite_sub, lt_finite, decide_eq_true_eq, quantileOf, pointBetween]
      split <;> rfl

end Reaching

/-- The part of all bin numbers that are less than one. -/
def massBelow (bins : List Nat) (bin : Nat) : ℚ := bins.countP (· < bin) / bins.length

/-- The running sums of counted bins over a range. -/
def cumulated (low high : ℚ) (size : Nat) (bins : List Nat) : Histogram ExactNumber :=
  ⟨(List.range size).map fun bin => finite (massUpTo bins bin), finite low, finite high, size⟩

/-- The point of a bin that an interpolation picks. -/
def quantilePoint (low high : ℚ) (size : Nat) (bins : List Nat) (target : ℚ) (bin : Nat) :
    Interpolation → ℚ
  | .linear => min (edge low high size (bin + 1)) (edge low high size bin +
      (edge low high size (bin + 1) - edge low high size bin) *
        (target - massBelow bins bin) / (massUpTo bins bin - massBelow bins bin))
  | .lower => edge low high size bin
  | .higher => edge low high size (bin + 1)
  | .midpoint => 1 / 2 * (edge low high size bin + edge low high size (bin + 1))
  | .nearest =>
      if target - edge low high size bin < edge low high size (bin + 1) - target
      then edge low high size bin else edge low high size (bin + 1)

/-- A bin is the first that, with those below it, holds a part of all bin numbers. -/
structure FirstReaches (bins : List Nat) (target : ℚ) (bin : Nat) : Prop where
  reaches : target ≤ massUpTo bins bin
  isFirst : massBelow bins bin < target

section Masses

variable {bins : List Nat} {bin : Nat}

theorem massUpTo_eq_massBelow (bins : List Nat) (bin : Nat) :
    massUpTo bins bin = massBelow bins (bin + 1) := by
  simp only [massUpTo, massBelow, Nat.lt_succ_iff]

theorem massBelow_zero (bins : List Nat) : massBelow bins 0 = 0 := by
  simp [massBelow]

theorem massBelow_all {size : Nat} (inRange : ∀ bin ∈ bins, bin < size) (someBin : bins ≠ []) :
    massBelow bins size = 1 := by
  have all : bins.countP (· < size) = bins.length := by
    rw [List.countP_eq_length]
    exact fun bin isBin => decide_eq_true (inRange bin isBin)
  rw [massBelow, all]
  exact div_self (Nat.cast_ne_zero.mpr (List.length_pos_iff.mpr someBin).ne')

end Masses

section Counted

variable {low high target : ℚ} {size bin : Nat} {bins : List Nat}

theorem cumulated_eq (low high : ℚ) (size : Nat) (bins : List Nat) :
    cumulated low high size bins =
      rationalHistogram ((List.range size).map (massUpTo bins)) low high := by
  rw [cumulated, rationalHistogram, List.map_map, List.length_map, List.length_range]
  rfl

theorem levelBelow_masses (isEdge : bin ≤ size) :
    levelBelow ((List.range size).map (massUpTo bins)) bin = massBelow bins bin := by
  cases bin with
  | zero => exact (massBelow_zero bins).symm
  | succ before => rw [levelBelow_map_range (massUpTo bins) isEdge, massUpTo_eq_massBelow]

/-- A target above zero is reached by some bin, and the first one is found. -/
theorem exists_reachedBin (inRange : ∀ bin ∈ bins, bin < size) (someBin : bins ≠ [])
    (positive : 0 < target) (atMost : target ≤ 1) :
    ∃ bin < size, reachedBin ((List.range size).map (massUpTo bins)) target = bin ∧
      FirstReaches bins target bin := by
  obtain ⟨some, isSome⟩ := List.exists_mem_of_ne_nil bins someBin
  have someBins : 0 < size := Nat.zero_lt_of_lt (inRange some isSome)
  have someValues : (List.range size).map (massUpTo bins) ≠ [] := by
    simpa using someBins.ne'
  have count : ((List.range size).map (massUpTo bins)).length = size := by
    rw [List.length_map, List.length_range]
  have inSize := (reachedBin_lt someValues target).trans_eq count
  refine ⟨_, inSize, rfl, ?_, ?_⟩
  · rw [massUpTo_eq_massBelow, ← levelBelow_masses inSize]
    apply le_levelBelow_reachedBin someValues
    rwa [count, levelBelow_masses le_rfl, massBelow_all inRange someBin]
  · rw [← levelBelow_masses inSize.le]
    cases found : reachedBin ((List.range size).map (massUpTo bins)) target with
    | zero => exact positive
    | succ before => exact levelBelow_lt (found ▸ Nat.lt_succ_self before)

theorem quantilePoint_eq (low high target : ℚ) (bins : List Nat) (mode : Interpolation) :
    quantilePoint low high size bins target bin mode =
      pointBetween (edge low high size bin) (edge low high size (bin + 1)) (massBelow bins bin)
        (massBelow bins (bin + 1)) target mode := by
  rw [← massUpTo_eq_massBelow]
  cases mode <;> rfl

theorem quantileAt_cumulated (increasing : low < high) (inSize : bin < size)
    (found : reachedBin ((List.range size).map (massUpTo bins)) target = bin)
    (mode : Interpolation) :
    (cumulated low high size bins).quantileAt (finite target) mode =
      .ok (finite (quantilePoint low high size bins target bin mode)) := by
  have someValues : (List.range size).map (massUpTo bins) ≠ [] := by
    simpa using Nat.ne_of_gt (Nat.zero_lt_of_lt inSize)
  rw [cumulated_eq, quantileAt_rational someValues increasing, quantileOf, found,
    levelBelow_masses inSize.le, levelBelow_masses inSize, List.length_map, List.length_range,
    quantilePoint_eq]

/-- Every interpolation picks a point between the edges of the bin. -/
theorem quantilePoint_between (increasing : low < high) (someBins : 0 < size)
    (isFirst : FirstReaches bins target bin) (mode : Interpolation) :
    edge low high size bin ≤ quantilePoint low high size bins target bin mode ∧
      quantilePoint low high size bins target bin mode ≤ edge low high size (bin + 1) := by
  rw [quantilePoint_eq]
  apply pointBetween_bounds (edge_strictMono increasing someBins (Nat.lt_succ_self bin)).le
  · rw [← massUpTo_eq_massBelow]
    exact (isFirst.isFirst.trans_le isFirst.reaches).le
  · exact isFirst.isFirst.le

end Counted

end FieldSurvey
