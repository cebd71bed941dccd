import FieldSurvey.Proofs.Engine.Programs
import FieldSurvey.Proofs.Kernel.WidenedRange
import FieldSurvey.Proofs.Statistics.FiniteRange
import FieldSurvey.Proofs.Statistics.Histogram
import FieldSurvey.Proofs.Statistics.Repartition

/-!
The histogram of a field whose bounds are left out. The bounds are the least and the greatest finite
entry of all processes, so they are entries themselves, and all processes count all entries unless
one of these two cannot be counted.
-/

namespace FieldSurvey

open ProcessGroup Collective

/-- A histogram of all entries: it starts at the least finite one, ends at the greatest one or
above, and its counts add up to the number of those that are defined. -/
structure CountsEntries (entries : List Float) (binCount : Nat) (histogram : Histogram Float) :
    Prop where
  startsAtEntry : histogram.low ∈ entries ∧ Scalar.isFinite histogram.low = true
  bounds : ∀ number ∈ entries, Scalar.isFinite number = true →
    Scalar.le histogram.low number = true ∧ Scalar.le number histogram.high = true
  increasing : Scalar.lt histogram.low histogram.high = true
  hasBins : histogram.binCount = binCount
  counts : ∃ counts : List Int, histogram.values = counts.map Scalar.ofInt ∧
    counts.length = binCount ∧ counts.sum = entries.countP fun number => !Scalar.isUndefined number

section Values

theorem equals_reals (left right : Float) :
    (Value.ofFloat left).equals (.ofFloat right) = .ok (Scalar.eq left right) := by
  show Except.ok (compareReals? (Double.ofFloat left).toFloat (Double.ofFloat right).toFloat ==
    some .eq) = _
  rw [Double.toFloat_ofFloat, Double.toFloat_ofFloat]
  unfold compareReals?
  simp only [Scalar.eq]
  cases orderRank? left with
  | none => rfl
  | some leftRank =>
      cases orderRank? right with
      | none => rfl
      | some rightRank =>
          show Except.ok (some (compare leftRank rightRank) == some Ordering.eq) = _
          congr 1
          rw [Bool.eq_iff_iff, beq_iff_eq, Option.some.injEq, decide_eq_true_eq]
          exact compare_eq_iff_eq

theorem raisedBound_reals (low high : Float) :
    Engine.raisedBound (.ofFloat low) (.ofFloat high) = .ok (.ofFloat (widenedHigh low high)) := by
  unfold Engine.raisedBound widenedHigh
  rw [equals_reals, ok_bind]
  split
  · show (Except.ok (Value.ofFloat ((Double.ofFloat low).toFloat + (Double.ofFloat 1.0).toFloat)) :
      Except Error Value) = _
    rw [Double.toFloat_ofFloat, Double.toFloat_ofFloat]
  · rfl

theorem binningOf_reals (low high : Float) (binCount : Int) :
    Aggregate.binningOf (.ofFloat low) (.ofFloat high) (.whole binCount) =
      .ok (Binning.between low high binCount) := by
  show (Except.ok (Binning.between (Double.ofFloat low).toFloat (Double.ofFloat high).toFloat
    binCount) : Except Error (Binning Float)) = _
  rw [Double.toFloat_ofFloat, Double.toFloat_ofFloat]

end Values

section Fields

variable {name : String} {datasets : List Dataset} {binning : Binning Float}

theorem fieldArrays_eq (name : String) (datasets : List Dataset) :
    fieldArrays name datasets =
      (Dataset.holders name datasets.flatten).map fun holder => holder.2.reals?.getD [] := by
  rw [Dataset.holders_flatten, List.map_flatten, List.map_map, fieldArrays, List.flatMap_def]
  rfl

theorem HoldsReals.of_flatten (holdsReals : HoldsReals name datasets) {holder : Domain × Field}
    (isHolder : holder ∈ Dataset.holders name datasets.flatten) :
    ∃ column, holder.2.scalarColumn = .ok column ∧
      column.entries = .reals (holder.2.reals?.getD []) := by
  rw [Dataset.holders_flatten, List.mem_flatten] at isHolder
  obtain ⟨_, isOwn, isHolder⟩ := isHolder
  obtain ⟨dataset, isShare, rfl⟩ := List.mem_map.mp isOwn
  obtain ⟨column, isColumn, areEntries⟩ := bind_eq_ok.mp (holdsReals.entries_eq isShare isHolder)
  exact ⟨column, isColumn, Except.ok.inj areEntries⟩

theorem HoldsReals.binCounts_eq (holdsReals : HoldsReals name datasets) {holder : Domain × Field}
    (isHolder : holder ∈ Dataset.holders name datasets.flatten) :
    holder.2.binCounts binning = (Entries.reals (holder.2.reals?.getD [])).histogram
      binning.offset binning.scale binning.binCount := by
  obtain ⟨column, isColumn, areEntries⟩ := holdsReals.of_flatten isHolder
  unfold Field.binCounts
  rw [isColumn, ok_bind, areEntries]

theorem HoldsReals.definedCount_eq (holdsReals : HoldsReals name datasets) :
    Dataset.definedCount name datasets.flatten =
      (fieldEntries name datasets).countP fun number => !Scalar.isUndefined number := by
  rw [fieldEntries, List.countP_flatten, fieldArrays_eq, List.map_map]
  refine congrArg List.sum (List.map_congr_left fun holder isHolder => ?_)
  obtain ⟨column, isColumn, areEntries⟩ := holdsReals.of_flatten isHolder
  unfold Field.definedCount
  simp only [isColumn, areEntries]
  rfl

end Fields

section Group

variable {name : String} {kind : GroupKind} {datasets : List Dataset} {low high : Float}
  {binCount : Nat}

theorem together_histogram_of_countsAll (connects : kind.Connects datasets.length)
    (holdsReals : HoldsReals name datasets) (range : IsRange low high binCount)
    (counts : CountsAll low high binCount) :
    ∃ found : List Int, found.length = binCount ∧
      found.sum = (fieldEntries name datasets).countP (fun number => !Scalar.isUndefined number) ∧
      together kind (Aggregate.histogram (.text name) (.ofFloat low) (.ofFloat high)
          (.whole binCount)).program datasets =
        datasets.map fun _ => .ok (.histogram ⟨found.map Scalar.ofInt, low, high, binCount⟩) := by
  let binning : Binning Float :=
    ⟨low, high, binCount, .ok low, .ok (binsPerUnit low high binCount)⟩
  have isBinning : Aggregate.binningOf (.ofFloat low) (.ofFloat high) (.whole binCount) =
      .ok binning := by
    rw [binningOf_reals, between_of_isRange range]
  have counted : ∀ holder ∈ Dataset.holders name datasets.flatten,
      ∃ own, holder.2.binCounts binning = .ok own := by
    intro holder isHolder
    rw [holdsReals.binCounts_eq isHolder]
    exact (Entries.histogram_of_found range fun number _ _ => counts.notLost number).imp
      fun _ found => found.1
  obtain ⟨own, counted⟩ := exists_results counted
  refine ⟨Aggregate.totalCounts binning name own datasets.flatten,
    length_countTotals binCount _, ?_,
    Aggregate.histogram_of_counted connects isBinning (exists_binEdges range) counted⟩
  rw [Aggregate.sum_totalCounts counted, holdsReals.definedCount_eq]

/-- A process that can count its entries holds none that is lost. -/
theorem notLost_of_ownCounts (holdsReals : HoldsReals name datasets)
    (range : IsRange low high binCount) {dataset : Dataset} (isShare : dataset ∈ datasets)
    {found : List Int}
    (counted : (dataset.fieldShare (.text name)).ownCounts (Binning.between low high binCount) =
      .ok found) {holder : Domain × Field} (isHolder : holder ∈ dataset.holders name) :
    ∀ number ∈ holder.2.reals?.getD [], Scalar.isUndefined number = false →
      ¬IsLost low high binCount number := by
  intro number isEntry isDefined isLost
  rw [Dataset.ownCounts_eq] at counted
  obtain ⟨_, passed, _⟩ := bind_eq_ok.mp counted
  obtain ⟨_, _, counts⟩ := exists_of_mapM_ok passed isHolder
  have inGroup : holder ∈ Dataset.holders name datasets.flatten := by
    rw [Dataset.holders_flatten]
    exact List.mem_flatten.mpr ⟨_, List.mem_map_of_mem isShare, isHolder⟩
  rw [holdsReals.binCounts_eq inGroup, between_of_isRange range,
    Entries.histogram_of_lost range isEntry isDefined isLost] at counts
  cases counts

/-- If the range of the finite entries does not count all, some process cannot count its own. -/
theorem exists_checkedCounts_error (holdsReals : HoldsReals name datasets)
    (someShare : datasets ≠ []) (fits : binCount ≤ 2 ^ 53)
    (isRange : IsFiniteRange (fieldEntries name datasets) low high)
    (notAll : ¬CountsAll low (widenedHigh low high) binCount) :
    ∃ dataset ∈ datasets, ∃ cause, (dataset.fieldShare (.text name)).checkedCounts
      (.ok (Binning.between low (widenedHigh low high) binCount)) = .error cause := by
  by_contra noneFails
  have passes : ∀ dataset ∈ datasets, ∃ found, (dataset.fieldShare (.text name)).checkedCounts
      (.ok (Binning.between low (widenedHigh low high) binCount)) = .ok found := by
    intro dataset isShare
    cases passed : (dataset.fieldShare (.text name)).checkedCounts
        (.ok (Binning.between low (widenedHigh low high) binCount)) with
    | ok found => exact ⟨found, rfl⟩
    | error cause => exact absurd ⟨dataset, isShare, cause, passed⟩ noneFails
  -- Each process has cut the range into bins, and has counted its own entries.
  have counted : ∀ dataset ∈ datasets,
      IsRange low (widenedHigh low high) binCount ∧ ∃ found,
        (dataset.fieldShare (.text name)).ownCounts
          (Binning.between low (widenedHigh low high) binCount) = .ok found := by
    intro dataset isShare
    obtain ⟨⟨binning, found⟩, passed⟩ := passes dataset isShare
    obtain ⟨isGiven, ⟨edges, cut⟩, counts⟩ := checkedCounts_eq_ok.mp passed
    cases isGiven
    exact ⟨isRange_of_binEdges cut fits, found, counts⟩
  have keeps : ∀ number ∈ fieldEntries name datasets, Scalar.isFinite number = true →
      ¬IsLost low (widenedHigh low high) binCount number := by
    intro number isEntry isFinite
    obtain ⟨_, isArray, isEntry⟩ := List.mem_flatten.mp isEntry
    obtain ⟨dataset, isShare, isArray⟩ := List.mem_flatMap.mp isArray
    obtain ⟨holder, isHolder, rfl⟩ := List.mem_map.mp isArray
    obtain ⟨range, _, counts⟩ := counted dataset isShare
    obtain ⟨rank, hasRank, _⟩ := isFinite_iff.mp isFinite
    exact notLost_of_ownCounts holdsReals range isShare counts isHolder number isEntry
      (Extreme.isUndefined_eq_false.mpr ⟨rank, hasRank⟩)
  obtain ⟨first, isShare⟩ := List.exists_mem_of_ne_nil datasets someShare
  exact notAll (countsAll_of_kept (counted first isShare).1
    (keeps low isRange.lowStands isRange.lowFinite)
    (keeps high isRange.highStands isRange.highFinite))

namespace Engine

/-- The question for a histogram of a field with no bounds. -/
def askHistogram (settings : Settings) (name : String) (binCount : Value) (group : ProcessGroup)
    (dataset : Dataset) : Collective Float Answer :=
  (Engine.mk group settings).call dataset .histogram
    ⟨[.value (.text name)], [("num_bins", .value binCount)]⟩

theorem askHistogram_eq {settings : Settings} {asked : Value} {count : Int}
    (isCount : askedBinCount settings asked = .ok (.whole count)) :
    askHistogram settings name asked = fun group dataset =>
      (dataset.fieldShare (.text name)).finiteRange group >>= fun range =>
        (Aggregate.histogram (.text name) (.ofFloat range.1)
          (.ofFloat (widenedHigh range.1 range.2)) (.whole count)).program group dataset := by
  funext group dataset
  have asked : askHistogram settings name asked group dataset =
      (Engine.mk group settings).histogramOf dataset (.text name) asked .null .null >>=
        fun histogram => Collective.ofExcept (.ok (Answer.histogram histogram)) := rfl
  rw [asked, histogramOf_eq, isCount, Collective.ofExcept_ok_bind]
  have leftOut : askedRange dataset (.text name) .null .null group =
      (dataset.fieldShare (.text name)).finiteRange group >>= fun range =>
        Collective.ofExcept (.ok (Value.ofFloat range.1, Value.ofFloat range.2)) := rfl
  rw [leftOut]
  simp only [Collective.bind_bind, Collective.ofExcept_ok_bind]
  congr 1
  funext range
  unfold askedBinning
  rw [raisedBound_reals, ok_bind]
  rfl

/-- Without bounds, the histogram of a field with some finite entry counts all entries on every
process exactly if the range of the finite ones counts all; otherwise no process returns. -/
theorem askHistogram_counts_iff {settings : Settings} {asked : Value}
    (connects : kind.Connects datasets.length) (holdsReals : HoldsReals name datasets)
    (isCount : askedBinCount settings asked = .ok (.whole binCount)) (someBins : 0 < binCount)
    (fits : binCount ≤ 2 ^ 53)
    (someFinite : ∃ number ∈ fieldEntries name datasets, Scalar.isFinite number = true) :
    ∃ low high, IsFiniteRange (fieldEntries name datasets) low high ∧
      (CountsAll low (widenedHigh low high) binCount →
        ∃ histogram, together kind (askHistogram settings name asked) datasets =
            datasets.map (fun _ => .ok (.histogram histogram)) ∧
          CountsEntries (fieldEntries name datasets) binCount histogram ∧ histogram.low = low) ∧
      (¬CountsAll low (widenedHigh low high) binCount →
        ∀ outcome ∈ together kind (askHistogram settings name asked) datasets,
          ∃ cause, outcome = .error cause) := by
  obtain ⟨low, high, isRange, ends⟩ := (together_finiteRange connects holdsReals
    fun group dataset range => (Aggregate.histogram (.text name) (.ofFloat range.1)
      (.ofFloat (widenedHigh range.1 range.2)) (.whole binCount)).program group dataset).1 someFinite
  rw [← askHistogram_eq isCount] at ends
  refine ⟨low, high, isRange, ?_, ?_⟩
  · intro counts
    obtain ⟨found, sameLength, sum, histogram⟩ := together_histogram_of_countsAll connects holdsReals
      (counts.isRange isRange.lowFinite someBins fits) counts
    refine ⟨_, ends.trans histogram, ⟨⟨isRange.lowStands, isRange.lowFinite⟩, ?_,
      counts.increasing, rfl, found, rfl, sameLength, sum⟩, rfl⟩
    intro number isEntry isFinite
    obtain ⟨atLeast, atMost⟩ := isRange.bounds number isEntry isFinite
    exact ⟨atLeast, le_trans_reals atMost
      (le_widenedHigh isRange.lowFinite isRange.highFinite counts.increasing)⟩
  · intro notAll outcome isOutcome
    have someShare : datasets ≠ [] := List.length_pos_iff.mp connects.pos
    obtain ⟨dataset, isShare, cause, fails⟩ :=
      exists_checkedCounts_error holdsReals someShare fits isRange notAll
    obtain ⟨seat, isSeat, rfl⟩ := exists_seat kind isShare
    rw [← binningOf_reals] at fails
    have stranded := (histogram_decided (fun dataset => Dataset.fieldShare (.text name) dataset)
      connects _ Answer.histogram).strand ⟨seat, isSeat, cause, fails⟩
    rw [ends] at isOutcome
    obtain ⟨other, _, rfl⟩ := List.mem_map.mp (stranded ▸ isOutcome)
    cases (Dataset.fieldShare (.text name) other.2).checkedCounts _ with
    | ok found => exact ⟨.deadlock, rfl⟩
    | error cause => exact ⟨cause, rfl⟩

/-- Six entries on two ranks, one of them undefined and one infinite. -/
def spreadShares : List Dataset := [Aggregate.spreadRows.drop 2, Aggregate.spreadRows.take 2]

/-- The least finite entry is 0.25, and the greatest one is 1.5. -/
theorem askHistogram_counts_spread_rows :
    GroupKind.lockstep.Connects 2 ∧ HoldsReals "warmth" spreadShares ∧
    askedBinCount .default (.whole 5) = .ok (.whole (5 : Nat)) ∧
    (∃ number ∈ fieldEntries "warmth" spreadShares, Scalar.isFinite number = true) ∧
    CountsAll 0.25 (widenedHigh 0.25 1.5) 5 ∧
    ∃ histogram, together .lockstep (askHistogram .default "warmth" (.whole 5)) spreadShares =
        [.ok (.histogram histogram), .ok (.histogram histogram)] ∧
      CountsEntries (fieldEntries "warmth" spreadShares) 5 histogram ∧ histogram.low = 0.25 := by
  have inGroup : GroupKind.lockstep.Connects spreadShares.length := by decide
  have holdsReals : HoldsReals "warmth" spreadShares := by decide +kernel
  have isCount : askedBinCount .default (.whole 5) = .ok (.whole (5 : Nat)) := rfl
  have leastStands : (fieldEntries "warmth" spreadShares)[3]? = some 0.25 := by decide +kernel
  have greatestStands : (fieldEntries "warmth" spreadShares)[0]? = some 1.5 := by decide +kernel
  have leastFinite : Scalar.isFinite (0.25 : Float) = true := by decide +kernel
  have greatestFinite : Scalar.isFinite (1.5 : Float) = true := by decide +kernel
  have someFinite : ∃ number ∈ fieldEntries "warmth" spreadShares, Scalar.isFinite number = true :=
    ⟨_, List.mem_of_getElem? leastStands, leastFinite⟩
  have countsAll : CountsAll 0.25 (widenedHigh 0.25 1.5) 5 := by decide +kernel
  obtain ⟨low, high, isRange, counts, _⟩ := askHistogram_counts_iff inGroup holdsReals isCount
    (by decide) (by decide) someFinite
  have isLeast : ∀ number ∈ fieldEntries "warmth" spreadShares, Scalar.isFinite number = true →
      Scalar.le number 0.25 = true → number = 0.25 := by decide +kernel
  have isGreatest : ∀ number ∈ fieldEntries "warmth" spreadShares, Scalar.isFinite number = true →
      Scalar.le 1.5 number = true → number = 1.5 := by decide +kernel
  obtain rfl := isLeast low isRange.lowStands isRange.lowFinite
    (isRange.bounds _ (List.mem_of_getElem? leastStands) leastFinite).1
  obtain rfl := isGreatest high isRange.highStands isRange.highFinite
    (isRange.bounds _ (List.mem_of_getElem? greatestStands) greatestFinite).2
  obtain ⟨histogram, ends, countsEntries, isLow⟩ := counts countsAll
  exact ⟨inGroup, holdsReals, isCount, someFinite, countsAll, histogram, ends, countsEntries, isLow⟩

/-- An entry 1e17 is not drawn apart from itself by 1. -/
theorem askHistogram_refuses_vast_constant :
    HoldsReals "warmth" [[warmVertex 7 0 0x4376345785D8A000], []] ∧
    (∃ number, fieldEntries "warmth" [[warmVertex 7 0 0x4376345785D8A000], []] = [number] ∧
      Scalar.isFinite number = true ∧ Scalar.eq number 1.0e17 = true) ∧
    together .lockstep (askHistogram .default "warmth" (.whole 1))
        [[warmVertex 7 0 0x4376345785D8A000], []] =
      [.error .rangeNotIncreasing, .error .rangeNotIncreasing] := by
  exact ⟨by decide +kernel, ⟨_, rfl, by decide +kernel, by decide +kernel⟩, rfl⟩

end Engine

end Group

end FieldSurvey
