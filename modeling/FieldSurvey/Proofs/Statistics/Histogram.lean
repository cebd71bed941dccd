import FieldSurvey.Proofs.Kernel.Tally
import FieldSurvey.Proofs.Statistics.Aggregates
import FieldSurvey.Proofs.Statistics.Extremum

/-!
A histogram counts every defined entry once, whoever holds it. The counts of an array, of a process
and of a group are pointwise sums, and these do not depend on how the arrays are shared out.
-/

namespace FieldSurvey

section Totals

open ProcessGroup

theorem length_countTotals (size : Nat) (counts : List (List Int)) :
    (countTotals size counts).length = size := by
  simp [countTotals]

theorem getD_countTotals {size place : Nat} (inRange : place < size) (counts : List (List Int)) :
    (countTotals size counts).getD place 0 = (counts.map fun own => own.getD place 0).sum := by
  simp [countTotals, inRange]

/-- Sums of sums are the sums over everything. -/
theorem countTotals_flatten (size : Nat) (groups : List (List (List Int))) :
    countTotals size (groups.map (countTotals size)) = countTotals size groups.flatten := by
  apply List.map_congr_left
  intro place inRange
  have inSize := List.mem_range.mp inRange
  rw [List.map_map, List.map_flatten, List.sum_flatten, List.map_map]
  congr 1
  apply List.map_congr_left
  intro counts _
  exact getD_countTotals inSize counts

theorem countTotals_perm (size : Nat) {counts others : List (List Int)}
    (same : counts.Perm others) : countTotals size counts = countTotals size others := by
  apply List.map_congr_left
  intro place _
  exact (same.map _).sum_eq

theorem sum_countTotals {size : Nat} {counts : List (List Int)}
    (even : ∀ own ∈ counts, own.length = size) :
    (countTotals size counts).sum = (counts.map List.sum).sum := by
  induction counts with
  | nil => simp [countTotals]
  | cons own rest inductionHypothesis =>
      have ownLength := even own List.mem_cons_self
      have split : countTotals size (own :: rest) =
          (List.range size).map fun place =>
            own.getD place 0 + (rest.map fun other => other.getD place 0).sum := rfl
      have ofOwn : (List.range size).map (fun place => own.getD place 0) = own := by
        rw [← ownLength]
        apply List.ext_getElem
        · simp
        · intro place _ inOwn
          simp [inOwn]
      rw [split, List.sum_map_add, ofOwn, List.map_cons, List.sum_cons,
        ← inductionHypothesis fun other isLater => even other (List.mem_cons_of_mem own isLater)]
      rfl

theorem sum_map_ofNat (numbers : List Nat) : (numbers.map Int.ofNat).sum = (numbers.sum : Nat) := by
  induction numbers with
  | nil => rfl
  | cons number rest inductionHypothesis => simp [inductionHypothesis]

/-- Adding counts up one list after the other gives their totals. -/
theorem foldl_zipWith_eq_countTotals {size : Nat} {found : List (List Nat)}
    (even : ∀ own ∈ found, own.length = size) {start : List Int} (startLength : start.length = size) :
    found.foldl (List.zipWith fun (count : Int) (more : Nat) => count + more) start =
      countTotals size (start :: found.map fun own => own.map Int.ofNat) := by
  induction found generalizing start with
  | nil =>
      rw [← startLength, List.map_nil, countTotals_single]
      rfl
  | cons own rest inductionHypothesis =>
      have ownLength := even own List.mem_cons_self
      have added : List.zipWith (fun (count : Int) (more : Nat) => count + more) start own =
          List.zipWith (· + ·) start (own.map Int.ofNat) := by
        rw [List.zipWith_map_right]
        rfl
      have sumLength : (List.zipWith (· + ·) start (own.map Int.ofNat)).length = size := by
        simp [startLength, ownLength]
      rw [List.foldl_cons, added, inductionHypothesis
        (fun other isLater => even other (List.mem_cons_of_mem own isLater)) sumLength,
        countTotals_zipWith startLength (by simpa using ownLength)]
      rfl

theorem countTotals_zeros (size : Nat) (counts : List (List Int)) :
    countTotals size (List.replicate size 0 :: counts) = countTotals size counts := by
  apply List.map_congr_left
  intro place isPlace
  have inSize := List.mem_range.mp isPlace
  simp [List.getD_eq_getElem?_getD, inSize]

/-- What a process counts is the sum over the parts of its share. -/
theorem FieldShare.ownCounts_eq {α : Type} [Scalar α] (binning : Binning α) (share : FieldShare α) :
    share.ownCounts binning = (do
      let parts ← share.parts
      let found ← parts.mapM fun part => do
        let entries ← part.entries
        entries.histogram binning.offset binning.scale binning.binCount
      return countTotals binning.binCount.toNat (found.map fun own => own.map Int.ofNat)) := by
  unfold ownCounts foldEntries
  congr 1
  funext parts
  simp only [← bind_assoc]
  rw [foldlM_prepared]
  cases counted : parts.mapM fun part => do
      let entries ← part.entries
      entries.histogram binning.offset binning.scale binning.binCount with
  | error cause => rfl
  | ok found =>
      have even : ∀ own ∈ found, own.length = binning.binCount.toNat := by
        intro own isOwn
        obtain ⟨part, _, counts⟩ := exists_of_mem_mapM counted isOwn
        obtain ⟨entries, _, counts⟩ := bind_eq_ok.mp counts
        exact Entries.length_countBins counts
      rw [ok_bind, ok_bind, pure_eq_ok, foldl_zipWith_eq_countTotals even (List.length_replicate ..),
        countTotals_zeros]
      rfl

/-- The totals of tallies are the tally of everything. -/
theorem countTotals_tally (size : Nat) (bins : List (List Nat)) :
    countTotals size (bins.map fun own => (tally size own).map Int.ofNat) =
      (tally size bins.flatten).map Int.ofNat := by
  rw [tally, List.map_map]
  apply List.map_congr_left
  intro place isPlace
  have inSize := List.mem_range.mp isPlace
  have counted (own : List Nat) : ((tally size own).map Int.ofNat).getD place 0 =
      Int.ofNat (own.count place) := by
    simp [tally, List.getD_eq_getElem?_getD, inSize]
  rw [List.map_map, Function.comp_apply, List.count_flatten, Int.ofNat_eq_natCast, ← sum_map_ofNat,
    List.map_map]
  exact congrArg List.sum (List.map_congr_left fun own _ => counted own)

end Totals

section Fields

open ProcessGroup

/-- The bin counts of a field's entries in one domain. -/
def Field.binCounts (binning : Binning Float) (field : Field) : Except Error (List Nat) := do
  let column ← field.scalarColumn
  column.entries.histogram binning.offset binning.scale binning.binCount

/-- How many entries of a field in one domain are not undefined. -/
def Field.definedCount (field : Field) : Nat :=
  match field.scalarColumn with
  | .ok column =>
      match column.entries.toReals with
      | .ok numbers => numbers.countP fun number => !Scalar.isUndefined number
      | .error _ => 0
  | .error _ => 0

/-- How many entries of a field are not undefined. -/
def Dataset.definedCount (name : String) (dataset : Dataset) : Nat :=
  ((dataset.holders name).map fun holder => holder.2.definedCount).sum

theorem Field.sum_binCounts {binning : Binning Float} {field : Field} {counts : List Nat}
    (counted : field.binCounts binning = .ok counts) : counts.sum = field.definedCount := by
  obtain ⟨column, isColumn, counted⟩ := bind_eq_ok.mp counted
  obtain ⟨numbers, areReals, sum⟩ := Entries.sum_histogram counted
  unfold definedCount
  simp only [isColumn, areReals]
  exact sum

theorem Field.length_binCounts {binning : Binning Float} {field : Field} {counts : List Nat}
    (counted : field.binCounts binning = .ok counts) : counts.length = binning.binCount.toNat := by
  obtain ⟨column, _, counted⟩ := bind_eq_ok.mp counted
  exact Entries.length_countBins counted

theorem Dataset.holders_flatten (name : String) (datasets : List Dataset) :
    Dataset.holders name datasets.flatten = (datasets.map (Dataset.holders name)).flatten :=
  List.filterMap_flatten

/-- What a process counts is the sum over its domains that define the field. -/
theorem Dataset.ownCounts_eq (binning : Binning Float) (name : String) (dataset : Dataset) :
    (dataset.fieldShare (.text name)).ownCounts binning = (do
      let found ← (dataset.holders name).mapM fun holder => holder.2.binCounts binning
      return countTotals binning.binCount.toNat (found.map fun own => own.map Int.ofNat)) := by
  rw [FieldShare.ownCounts_eq]
  unfold Dataset.fieldShare
  simp only [havingField_text, ok_bind, pure_eq_ok, List.mapM_map]
  have sameCounts (holder : Domain × Field) :
      (do
        let entries ← (holder.1.fieldPart (Value.text name).spelled holder.2).entries
        entries.histogram binning.offset binning.scale binning.binCount) =
        holder.2.binCounts binning := by
    unfold Domain.fieldPart Field.binCounts
    simp only [bind_assoc, pure_eq_ok, ok_bind]
  simp only [Function.comp_def, sameCounts]

end Fields

namespace Aggregate

open ProcessGroup Collective

section Partition

variable {name : String} {low high binCount : Value} {binning : Binning Float}

/-- The counts of a group's histogram: those of all domains that define the field, added up. -/
def totalCounts (binning : Binning Float) (name : String) (counts : Domain × Field → List Nat)
    (domains : Dataset) : List Int :=
  countTotals binning.binCount.toNat
    ((domains.holders name).map fun holder => (counts holder).map Int.ofNat)

theorem ownCounts_eq_totalCounts {counts : Domain × Field → List Nat} {dataset : Dataset}
    (counted : ∀ holder ∈ dataset.holders name, holder.2.binCounts binning = .ok (counts holder)) :
    (dataset.fieldShare (.text name)).ownCounts binning =
      .ok (totalCounts binning name counts dataset) := by
  rw [Dataset.ownCounts_eq, mapM_of_forall_ok counted, ok_bind, List.map_map]
  rfl

theorem totalCounts_flatten (counts : Domain × Field → List Nat) (datasets : List Dataset) :
    countTotals binning.binCount.toNat (datasets.map (totalCounts binning name counts)) =
      totalCounts binning name counts datasets.flatten := by
  unfold totalCounts
  rw [Dataset.holders_flatten, List.map_flatten, ← countTotals_flatten, List.map_map, List.map_map]
  rfl

/-- Once the entries of every domain can be counted, every process ends with the same histogram. -/
theorem histogram_of_counted {kind : GroupKind} {datasets : List Dataset}
    (connects : kind.Connects datasets.length)
    (isBinning : binningOf low high binCount = .ok binning)
    (cut : ∃ edges, binEdges binning.low binning.high binning.binCount = .ok edges)
    {counts : Domain × Field → List Nat}
    (counted : ∀ holder ∈ Dataset.holders name datasets.flatten,
      holder.2.binCounts binning = .ok (counts holder)) :
    together kind (Aggregate.histogram (.text name) low high binCount).program datasets =
      datasets.map fun _ => .ok (.histogram
        ⟨(totalCounts binning name counts datasets.flatten).map Scalar.ofInt, binning.low,
          binning.high, binning.binCount⟩) := by
  let found : ProcessGroup × Dataset → Binning Float × List Int := fun seat =>
    (binning, totalCounts binning name counts seat.2)
  have finds : ∀ seat ∈ seats kind datasets,
      (Dataset.fieldShare (.text name) seat.2).checkedCounts (binningOf low high binCount) =
        .ok (found seat) := by
    intro seat isSeat
    rw [checkedCounts_eq_ok]
    refine ⟨isBinning, cut, ownCounts_eq_totalCounts ?_⟩
    intro holder isHolder
    apply counted
    rw [Dataset.holders_flatten]
    exact List.mem_flatten.mpr
      ⟨_, List.mem_map_of_mem (share_mem_of_mem_seats isSeat), isHolder⟩
  have split : together kind (Aggregate.histogram (.text name) low high binCount).program datasets =
      outcomes ((seats kind datasets).map fun seat =>
        Collective.ofExcept ((Dataset.fieldShare (.text name) seat.2).checkedCounts
          (binningOf low high binCount)) >>= fun own =>
          (seat.1.sumCounts own.2 : Collective Float (List Int)) >>= fun counts =>
            Collective.ofExcept (.ok (Answer.histogram
            ⟨counts.map Scalar.ofInt, own.1.low, own.1.high, own.1.binCount⟩))) := by
    simp only [← histogram_eq]
    rfl
  rw [isBinning] at finds
  rw [split, isBinning, outcomes_own_steps _ _ found _ finds]
  refine (histogram_counted (Dataset.fieldShare (.text name)) connects binning Answer.histogram
    found finds).trans ?_
  rw [map_seats_share kind (totalCounts binning name counts), totalCounts_flatten]

theorem totalCounts_perm (counts : Domain × Field → List Nat) {domains others : Dataset}
    (same : domains.Perm others) :
    totalCounts binning name counts domains = totalCounts binning name counts others :=
  countTotals_perm _ ((same.filterMap _).map _)

theorem sum_totalCounts {counts : Domain × Field → List Nat} {domains : Dataset}
    (counted : ∀ holder ∈ domains.holders name, holder.2.binCounts binning = .ok (counts holder)) :
    (totalCounts binning name counts domains).sum = domains.definedCount name := by
  unfold totalCounts Dataset.definedCount
  rw [sum_countTotals, List.map_map, ← sum_map_ofNat, List.map_map]
  · congr 1
    apply List.map_congr_left
    intro holder isHolder
    rw [Function.comp_apply, Function.comp_apply, sum_map_ofNat,
      Field.sum_binCounts (counted holder isHolder)]
    rfl
  · intro own isOwn
    obtain ⟨holder, isHolder, rfl⟩ := List.mem_map.mp isOwn
    rw [List.length_map]
    exact Field.length_binCounts (counted holder isHolder)

/-- A process alone that returns a histogram could count the entries of each of its domains. -/
theorem counted_of_returned {domains : Dataset} {answer : Answer}
    (returned : together .alone (Aggregate.histogram (.text name) low high binCount).program
      [domains] = [.ok answer]) :
    ∃ binning, binningOf low high binCount = .ok binning ∧
      (∃ edges, binEdges binning.low binning.high binning.binCount = .ok edges) ∧
      ∃ counts : Domain × Field → List Nat,
        ∀ holder ∈ domains.holders name, holder.2.binCounts binning = .ok (counts holder) := by
  have decided := histogram_decided (fun dataset => Dataset.fieldShare (.text name) dataset)
    (show GroupKind.alone.Connects [domains].length from rfl) (binningOf low high binCount)
    Answer.histogram
  cases own : (domains.fieldShare (.text name)).checkedCounts (binningOf low high binCount) with
  | error cause =>
      have stranded : together .alone (Aggregate.histogram (.text name) low high binCount).program
          [domains] = _ := decided.strand ⟨_, List.mem_cons_self, cause, own⟩
      rw [returned] at stranded
      have ends : Except.ok answer = leftWaiting
          ((domains.fieldShare (.text name)).checkedCounts (binningOf low high binCount)) :=
        (List.cons.inj stranded).1
      rw [own] at ends
      cases ends
  | ok found =>
      obtain ⟨isBinning, cut, counted⟩ := checkedCounts_eq_ok.mp own
      rw [Dataset.ownCounts_eq] at counted
      obtain ⟨lists, passed, _⟩ := bind_eq_ok.mp counted
      refine ⟨found.1, isBinning, cut, fun holder =>
        match holder.2.binCounts found.1 with
        | .ok counts => counts
        | .error _ => [], ?_⟩
      intro holder isHolder
      obtain ⟨counts, _, counted⟩ := exists_of_mapM_ok passed isHolder
      simp only [counted]

theorem binningOf_eq_ok (isBinning : binningOf low high binCount = .ok binning) :
    low.toReal = .ok binning.low ∧ high.toReal = .ok binning.high ∧
      binCount.toWhole = .ok binning.binCount := by
  obtain ⟨count, isCount, isBinning⟩ := bind_eq_ok.mp isBinning
  obtain ⟨lowest, isLow, isBinning⟩ := bind_eq_ok.mp isBinning
  obtain ⟨highest, isHigh, isBinning⟩ := bind_eq_ok.mp isBinning
  split at isBinning
  · cases isBinning
    exact ⟨isLow, isHigh, isCount⟩
  · cases isBinning
    exact ⟨isLow, isHigh, isCount⟩

/-- A histogram does not depend on who holds the domains: what a process alone returns for all of them
is what every process of a group returns that shares them out in any way. Its bounds and number of
bins are those asked for, and its counts add up to the number of entries that are not undefined. -/
theorem histogram_whoever_holds (name : String) (low high binCount : Value) (domains : Dataset)
    (answer : Answer)
    (returned : together .alone (Aggregate.histogram (.text name) low high binCount).program
      [domains] = [.ok answer]) :
    (∀ (kind : GroupKind) (datasets : List Dataset), kind.Connects datasets.length →
      datasets.flatten.Perm domains →
      together kind (Aggregate.histogram (.text name) low high binCount).program datasets =
        datasets.map fun _ => .ok answer) ∧
    ∃ (counts : List Int) (lowest highest : Float) (bins : Int),
      answer = .histogram ⟨counts.map Scalar.ofInt, lowest, highest, bins⟩ ∧
      low.toReal = .ok lowest ∧ high.toReal = .ok highest ∧ binCount.toWhole = .ok bins ∧
      counts.length = bins.toNat ∧ counts.sum = domains.definedCount name := by
  obtain ⟨binning, isBinning, cut, counts, counted⟩ := counted_of_returned returned
  have ofAlone := histogram_of_counted (show GroupKind.alone.Connects [domains].length from rfl)
    isBinning cut (show ∀ holder ∈ Dataset.holders name [domains].flatten, _ by simpa using counted)
  rw [returned, List.flatten_singleton] at ofAlone
  have isAnswer := Except.ok.inj (List.cons.inj ofAlone).1
  constructor
  · intro kind datasets connects shared
    have stillCounted : ∀ holder ∈ Dataset.holders name datasets.flatten,
        holder.2.binCounts binning = .ok (counts holder) := by
      intro holder isHolder
      exact counted holder ((shared.filterMap _).mem_iff.mp isHolder)
    rw [histogram_of_counted connects isBinning cut stillCounted, totalCounts_perm counts shared,
      isAnswer]
  · obtain ⟨isLow, isHigh, isCount⟩ := binningOf_eq_ok isBinning
    exact ⟨_, _, _, _, isAnswer, isLow, isHigh, isCount, length_countTotals _ _,
      sum_totalCounts counted⟩

/-- Six entries between 0 and 2 or beyond, one of them undefined and one infinite. -/
def spreadRows : Dataset :=
  [warmRow 3 [0, 0] [0x7ff8000000000000, 0x3fe0000000000000],
    warmRow 5 [0, 0, 0] [0x3fd0000000000000, 0x7ff0000000000000, 0x3fe8000000000000],
    warmRow 7 [0] [0x3ff8000000000000]]

/-- The values of the bins of an answer that is a histogram. -/
def binValues : Answer → Option (List Float)
  | .histogram result => some result.values
  | _ => none

theorem binValues_eq_some {answer : Answer} {values : List Float} :
    binValues answer = some values ↔
      ∃ result, answer = .histogram result ∧ result.values = values := by
  cases answer with
  | histogram result => simp [binValues]
  | _ => simp [binValues]

theorem histogram_whoever_holds_spread_rows :
    ∃ histogram, together .alone
        (Aggregate.histogram (.text "warmth") (.whole 0) (.whole 2) (.whole 2)).program
        [spreadRows] = [.ok (.histogram histogram)] ∧
      GroupKind.lockstep.Connects 3 ∧
      together .lockstep
        (Aggregate.histogram (.text "warmth") (.whole 0) (.whole 2) (.whole 2)).program
        [spreadRows.drop 2, [], spreadRows.take 2] = List.replicate 3 (.ok (.histogram histogram)) ∧
      histogram.values = [3.0, 2.0] ∧
      ∃ counts : List Int, histogram.values = counts.map Scalar.ofInt ∧ counts.length = 2 ∧
        counts.sum = 5 := by
  have returns : (together .alone
      (Aggregate.histogram (.text "warmth") (.whole 0) (.whole 2) (.whole 2)).program
      [spreadRows]).map (fun outcome => outcome.toOption.bind binValues) =
        [some [3.0, 2.0]] := by
    decide +kernel
  obtain ⟨outcome, ends, hasValues⟩ := List.map_eq_singleton_iff.mp returns
  obtain ⟨histogram, rfl, values⟩ :
      ∃ histogram, outcome = .ok (.histogram histogram) ∧ histogram.values = [3.0, 2.0] := by
    cases outcome with
    | error cause => cases hasValues
    | ok answer =>
        obtain ⟨histogram, rfl, values⟩ := binValues_eq_some.mp hasValues
        exact ⟨histogram, rfl, values⟩
  obtain ⟨alike, counts, _, _, bins, isAnswer, _, _, isCount, length, sum⟩ :=
    histogram_whoever_holds "warmth" (.whole 0) (.whole 2) (.whole 2) spreadRows _ ends
  cases isAnswer
  cases isCount
  have defined : spreadRows.definedCount "warmth" = 5 := by decide +kernel
  have dealt : [spreadRows.drop 2, [], spreadRows.take 2].flatten.Perm spreadRows :=
    List.perm_append_comm
  exact ⟨_, ends, by decide, alike .lockstep _ (by decide) dealt, values, counts, rfl, length,
    by rw [sum, defined]; rfl⟩

end Partition

end Aggregate

end FieldSurvey
