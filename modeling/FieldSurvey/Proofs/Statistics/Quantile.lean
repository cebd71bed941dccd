import Mathlib.Data.List.Sort
import FieldSurvey.Proofs.Group.Shares
import FieldSurvey.Proofs.Histogram.ExactQuantile
import FieldSurvey.Proofs.Statistics.Histogram

/-!
Quantiles of a field over a group, taken from a histogram, beside the entries in their order. In exact
numbers the bin that is found holds the entry that stands at the target part of the sorted entries, so
all interpolations lie between the same two edges as that entry.
-/

namespace FieldSurvey

open ExactNumber ProcessGroup Collective

/-- The quantile of a field that is taken from its histogram, for a target that needs no check. -/
def FieldShare.quantile {α : Type} [Scalar α] (group : ProcessGroup) (binning : Binning α)
    (target : α) (mode : Interpolation) (share : FieldShare α) : Collective α α := do
  let histogram ← share.histogram group binning
  histogram.cumulative.quantileAt target mode

/-- Once every process can count its entries, all of them take the quantile of the total counts. -/
theorem FieldShare.together_quantile {α : Type} [Scalar α] {kind : GroupKind}
    {shares : List (FieldShare α)} (connects : kind.Connects shares.length) {binning : Binning α}
    {edges : List α} (cut : binEdges binning.low binning.high binning.binCount = .ok edges)
    {counts : FieldShare α → List Int}
    (finds : ∀ share ∈ shares, share.ownCounts binning = .ok (counts share)) (target : α)
    (mode : Interpolation) :
    together kind (fun group share => share.quantile group binning target mode) shares =
      shares.map fun _ => (Histogram.cumulative
        ⟨(countTotals binning.binCount.toNat (shares.map counts)).map Scalar.ofInt, binning.low,
          binning.high, binning.binCount⟩).quantileAt target mode := by
  have even : ∀ share ∈ shares, (counts share).length = binning.binCount.toNat :=
    fun share isShare => length_ownCounts (finds share isShare)
  unfold quantile histogram
  simp only [liftM_eq_ofExcept, bind_bind, pure_bind]
  rw [together_own_step _ (fun _ => edges) fun _ _ => cut, together_own_step _ counts finds,
    together_sumCounts connects counts even]
  exact together_finish _

/-- The entries of a part are these numbers, some of them undefined. -/
def FieldPart.HoldsRationals (part : FieldPart ExactNumber) (numbers : List (Option ℚ)) : Prop :=
  ∃ entries, part.entries = .ok entries ∧ entries.toReals = .ok (numbers.map .ofRational)

/-- The entries of a share are these numbers, part by part. -/
def FieldShare.HoldsRationals (share : FieldShare ExactNumber) (numbers : List (List (Option ℚ))) :
    Prop :=
  ∃ parts, share.parts = .ok parts ∧ List.Forall₂ FieldPart.HoldsRationals parts numbers

/-- The defined entries of a share. -/
def definedRationals (numbers : List (List (Option ℚ))) : List ℚ := numbers.flatMap List.reduceOption

/-- The defined entries of all shares. -/
def pooledRationals (numbers : List (List (List (Option ℚ)))) : List ℚ :=
  numbers.flatMap definedRationals

section Ranks

/-- What holds of an entry of a sorted list and of all lesser ones holds of as many entries at its
front. -/
theorem holds_sorted_iff {numbers : List ℚ} (sorted : numbers.Pairwise (· ≤ ·)) {holds : ℚ → Bool}
    (downward : ∀ lesser greater, lesser ≤ greater → holds greater = true → holds lesser = true)
    {rank : Nat} {number : ℚ} (stands : numbers[rank]? = some number) :
    holds number = true ↔ rank < numbers.countP holds := by
  induction numbers generalizing rank with
  | nil => cases stands
  | cons first rest inductionHypothesis =>
      obtain ⟨isLeast, restSorted⟩ := List.pairwise_cons.mp sorted
      by_cases firstHolds : holds first = true
      · rw [List.countP_cons_of_pos firstHolds]
        cases rank with
        | zero =>
            cases stands
            exact iff_of_true firstHolds (Nat.succ_pos _)
        | succ rank =>
            rw [inductionHypothesis restSorted stands, Nat.add_lt_add_iff_right]
      · have noneHolds : (first :: rest).countP holds = 0 := by
          rw [List.countP_eq_zero]
          intro other isOther otherHolds
          rcases List.mem_cons.mp isOther with rfl | isLater
          · exact firstHolds otherHolds
          · exact firstHolds (downward first other (isLeast other isLater) otherHolds)
        rw [noneHolds]
        refine iff_of_false ?_ (Nat.not_lt_zero _)
        rcases List.mem_cons.mp (List.mem_of_getElem? stands) with rfl | isLater
        · exact firstHolds
        · exact fun numberHolds =>
            firstHolds (downward first number (isLeast number isLater) numberHolds)

variable {low high target : ℚ} {size bin : Nat} {numbers : List ℚ}

/-- The entry that stands, among the sorted entries, at the target part of them, rounded up. -/
def IsRanked (numbers : List ℚ) (target entry : ℚ) : Prop :=
  (numbers.insertionSort (· ≤ ·))[⌈target * numbers.length⌉₊ - 1]? = some entry

theorem length_cast_pos (someNumber : numbers ≠ []) : (0 : ℚ) < numbers.length :=
  Nat.cast_pos.mpr (List.length_pos_iff.mpr someNumber)

theorem rank_pos (someNumber : numbers ≠ []) (positive : 0 < target) :
    0 < ⌈target * numbers.length⌉₊ :=
  Nat.ceil_pos.mpr (mul_pos positive (length_cast_pos someNumber))

theorem exists_ranked (someNumber : numbers ≠ []) (positive : 0 < target) (atMost : target ≤ 1) :
    ∃ entry ∈ numbers, IsRanked numbers target entry := by
  have fromOne := rank_pos someNumber positive
  have upToAll : ⌈target * numbers.length⌉₊ ≤ numbers.length :=
    Nat.ceil_le.mpr (mul_le_of_le_one_left (length_cast_pos someNumber).le atMost)
  have inList : ⌈target * numbers.length⌉₊ - 1 < (numbers.insertionSort (· ≤ ·)).length := by
    rw [List.length_insertionSort]
    omega
  exact ⟨_, (List.mem_insertionSort _).mp (List.getElem_mem inList), List.getElem?_eq_getElem inList⟩

/-- The entry at the target part lies below a bin just if the bins below that hold the target part. -/
theorem binNumber_ranked_lt_iff (increasing : low < high) (positive : 0 < target)
    (someNumber : numbers ≠ []) {entry : ℚ} (isRanked : IsRanked numbers target entry) :
    binNumber low high size entry < bin ↔
      target ≤ massBelow (numbers.map (binNumber low high size)) bin := by
  let isBelow (number : ℚ) : Bool := binNumber low high size number < bin
  have downward (lesser greater : ℚ) (isLess : lesser ≤ greater) (greaterBelow : isBelow greater) :
      isBelow lesser :=
    decide_eq_true ((binNumber_mono increasing isLess).trans_lt (of_decide_eq_true greaterBelow))
  have fromOne := rank_pos someNumber positive
  have below : massBelow (numbers.map (binNumber low high size)) bin =
      numbers.countP isBelow / numbers.length := by
    rw [massBelow, List.countP_map, List.length_map]
    rfl
  calc binNumber low high size entry < bin
    _ ↔ isBelow entry = true := decide_eq_true_iff.symm
    _ ↔ ⌈target * numbers.length⌉₊ - 1 < (numbers.insertionSort (· ≤ ·)).countP isBelow :=
        holds_sorted_iff (List.pairwise_insertionSort _ numbers) downward isRanked
    _ ↔ ⌈target * numbers.length⌉₊ ≤ numbers.countP isBelow := by
        rw [(List.perm_insertionSort _ numbers).countP_eq]
        omega
    _ ↔ target * numbers.length ≤ numbers.countP isBelow := Nat.ceil_le
    _ ↔ target ≤ massBelow (numbers.map (binNumber low high size)) bin := by
        rw [below, le_div_iff₀ (length_cast_pos someNumber)]

/-- The bin that reaches the target is the bin of the entry at the target part of the entries. -/
theorem binNumber_ranked (increasing : low < high) (positive : 0 < target)
    (someNumber : numbers ≠ [])
    (isFirst : FirstReaches (numbers.map (binNumber low high size)) target bin) {entry : ℚ}
    (isRanked : IsRanked numbers target entry) : binNumber low high size entry = bin := by
  have upToBin : binNumber low high size entry < bin + 1 := by
    rw [binNumber_ranked_lt_iff increasing positive someNumber isRanked, ← massUpTo_eq_massBelow]
    exact isFirst.reaches
  have notBelow : ¬ binNumber low high size entry < bin := by
    rw [binNumber_ranked_lt_iff increasing positive someNumber isRanked, not_le]
    exact isFirst.isFirst
  omega

end Ranks

section Groups

variable {low high target : ℚ} {size : Nat}

/-- What a process counts is the tally of the bins of its defined entries. -/
theorem FieldShare.ownCounts_rationals (increasing : low < high) (someBins : 0 < size)
    {share : FieldShare ExactNumber} {numbers : List (List (Option ℚ))}
    (holdsThese : share.HoldsRationals numbers) :
    share.ownCounts (Binning.between (finite low) (finite high) size) =
      .ok ((tally size ((definedRationals numbers).map (binNumber low high size))).map
        Int.ofNat) := by
  obtain ⟨parts, areParts, holdThese⟩ := holdsThese
  let binsOf (own : List (Option ℚ)) : List Nat := own.reduceOption.map (binNumber low high size)
  have counted : parts.mapM (fun part => do
      let entries ← part.entries
      entries.histogram (.ok (finite low)) (.ok (finite (size / (high - low)))) size) =
        .ok (numbers.map fun own => tally size (binsOf own)) := by
    apply mapM_of_forall₂ holdThese
    rintro part own isOwn ⟨entries, areEntries, areRational⟩
    rw [areEntries, ok_bind, Entries.histogram_finite increasing someBins areRational]
  have allBins : (numbers.map binsOf).flatten =
      (definedRationals numbers).map (binNumber low high size) := by
    rw [definedRationals, List.map_flatMap, List.flatMap_def]
  rw [ownCounts_eq, areParts, ok_bind, between_finite increasing]
  dsimp only
  rw [counted, ok_bind, pure_eq_ok, List.map_map, Int.toNat_natCast, ← allBins, ← countTotals_tally,
    List.map_map]
  rfl

/-- Every process takes the quantile of all defined entries, wherever they are held. -/
theorem together_quantile_rationals {kind : GroupKind} {shares : List (FieldShare ExactNumber)}
    {numbers : List (List (List (Option ℚ)))} (connects : kind.Connects shares.length)
    (holdThese : List.Forall₂ FieldShare.HoldsRationals shares numbers) (increasing : low < high)
    (someBins : 0 < size) (someNumber : pooledRationals numbers ≠ []) (mode : Interpolation) :
    together kind (fun group share => share.quantile group
        (Binning.between (finite low) (finite high) size) (finite target) mode) shares =
      shares.map fun _ => (cumulated low high size
        ((pooledRationals numbers).map (binNumber low high size))).quantileAt (finite target) mode := by
  let talliesOf (own : List (List (Option ℚ))) : List Int :=
    (tally size ((definedRationals own).map (binNumber low high size))).map Int.ofNat
  have cut := binEdges_finite increasing someBins
  have counted : shares.mapM
      (fun share => share.ownCounts (Binning.between (finite low) (finite high) size)) =
        .ok (numbers.map talliesOf) := by
    apply mapM_of_forall₂ holdThese
    intro share own _ holdsThese
    exact FieldShare.ownCounts_rationals increasing someBins holdsThese
  obtain ⟨counts, finds, areCounts⟩ := exists_results_of_mapM counted
  have totals : countTotals size (shares.map counts) =
      (tally size ((pooledRationals numbers).map (binNumber low high size))).map Int.ofNat := by
    rw [areCounts, pooledRationals, List.map_flatMap, List.flatMap_def, ← countTotals_tally,
      List.map_map]
    rfl
  have someBin : (pooledRationals numbers).map (binNumber low high size) ≠ [] := by
    rwa [ne_eq, List.map_eq_nil_iff]
  rw [between_finite increasing] at finds
  rw [between_finite increasing, FieldShare.together_quantile connects cut finds]
  dsimp only
  rw [Int.toNat_natCast, totals, cumulative_tally (binNumbers_lt someBins _) someBin]
  rfl

/-- Quantiles of a field with rational entries, some of them undefined, on any processes. Take the
entry that stands at the target part of all defined entries in their order: its bin is the one that
is found. So it lies between the points that the lower and the higher interpolation pick, and so does
the point that any other interpolation picks. -/
theorem quantiles_bracket_ranked_entry {kind : GroupKind} {shares : List (FieldShare ExactNumber)}
    {numbers : List (List (List (Option ℚ)))} (connects : kind.Connects shares.length)
    (holdThese : List.Forall₂ FieldShare.HoldsRationals shares numbers)
    (someNumber : pooledRationals numbers ≠ []) (increasing : low < high)
    (inRange : ∀ number ∈ pooledRationals numbers, low ≤ number ∧ number ≤ high)
    (someBins : 0 < size) (positive : 0 < target) (atMost : target ≤ 1) :
    ∃ (answer : Interpolation → ℚ) (entry : ℚ),
      (∀ mode, together kind (fun group share => share.quantile group
        (Binning.between (finite low) (finite high) size) (finite target) mode) shares =
          shares.map fun _ => .ok (finite (answer mode))) ∧
      IsRanked (pooledRationals numbers) target entry ∧
      answer .lower ≤ entry ∧ entry ≤ answer .higher ∧
      ∀ mode, answer .lower ≤ answer mode ∧ answer mode ≤ answer .higher := by
  let bins := (pooledRationals numbers).map (binNumber low high size)
  have someBin : bins ≠ [] := by rwa [ne_eq, List.map_eq_nil_iff]
  have binsInRange : ∀ bin ∈ bins, bin < size := binNumbers_lt someBins _
  obtain ⟨bin, inSize, found, isFirst⟩ := exists_reachedBin binsInRange someBin positive atMost
  obtain ⟨entry, isEntry, isRanked⟩ := exists_ranked someNumber positive atMost
  have isBin : binNumber low high size entry = bin :=
    binNumber_ranked increasing positive someNumber isFirst isRanked
  refine ⟨quantilePoint low high size bins target bin, entry, ?_, isRanked, ?_, ?_, ?_⟩
  · intro mode
    rw [together_quantile_rationals connects holdThese increasing someBins someNumber,
      quantileAt_cumulated increasing inSize found mode]
  · rw [quantilePoint, ← isBin]
    exact edge_le increasing someBins (inRange entry isEntry).1
  · rw [quantilePoint, ← isBin]
    exact le_edge increasing someBins (inRange entry isEntry).2
  · intro mode
    exact quantilePoint_between increasing someBins isFirst mode

/-- A share whose parts are columns of rational numbers. -/
def rationalShare (numbers : List (List (Option ℚ))) : FieldShare ExactNumber where
  name := "warmth"
  label := "warmth"
  parts := .ok (numbers.map fun own =>
    ⟨.ok (.reals (own.map .ofRational)), fun _ => .error .badSubscript, .ok 0⟩)

theorem rationalShare_holds (numbers : List (List (Option ℚ))) :
    (rationalShare numbers).HoldsRationals numbers := by
  refine ⟨_, rfl, ?_⟩
  rw [List.forall₂_map_left_iff, List.forall₂_same]
  exact fun own _ => ⟨_, rfl, rfl⟩

/-- Four defined entries in three domains on three processes, one of which holds nothing. -/
def spreadNumbers : List (List (List (Option ℚ))) :=
  [[[some 1, none, some (1 / 2)]], [], [[some 1], [none, some 0]]]

theorem quantiles_bracket_ranked_entry_of_spread :
    ∃ (answer : Interpolation → ℚ) (entry : ℚ),
      (∀ mode, together .lockstep (fun group share => share.quantile group
        (Binning.between (finite 0) (finite 1) (2 : Nat)) (finite (1 / 2)) mode)
          (spreadNumbers.map rationalShare) =
            [.ok (finite (answer mode)), .ok (finite (answer mode)), .ok (finite (answer mode))]) ∧
      IsRanked [1, 1 / 2, 1, 0] (1 / 2) entry ∧
      answer .lower ≤ entry ∧ entry ≤ answer .higher ∧
      ∀ mode, answer .lower ≤ answer mode ∧ answer mode ≤ answer .higher := by
  have pooled : pooledRationals spreadNumbers = [1, 1 / 2, 1, 0] := rfl
  have holdThese :
      List.Forall₂ FieldShare.HoldsRationals (spreadNumbers.map rationalShare) spreadNumbers := by
    rw [List.forall₂_map_left_iff, List.forall₂_same]
    exact fun numbers _ => rationalShare_holds numbers
  have inRange : ∀ number ∈ pooledRationals spreadNumbers, (0 : ℚ) ≤ number ∧ number ≤ 1 := by
    decide +kernel
  obtain ⟨answer, entry, found, isRanked, bounds⟩ :=
    quantiles_bracket_ranked_entry (show GroupKind.lockstep.Connects 3 by decide) holdThese
      (by simp [pooled]) zero_lt_one inRange two_pos (show (0 : ℚ) < 1 / 2 by norm_num)
      (by norm_num)
  exact ⟨answer, entry, found, pooled ▸ isRanked, bounds⟩

end Groups

end FieldSurvey
