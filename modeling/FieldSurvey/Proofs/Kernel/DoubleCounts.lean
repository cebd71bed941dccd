import FieldSurvey.Proofs.Kernel.AskedBins

/-!
What counting in bins returns for doubles. Every defined entry is counted once, and greater ones not
in lower bins, unless an entry has no position between the bounds; then nothing is returned.
-/

namespace FieldSurvey

section Options

variable {β γ : Type} {step : β → Option γ} {known : β → γ} {items : List β}

theorem mapM_eq_some_map (found : ∀ item ∈ items, step item = some (known item)) :
    items.mapM step = some (items.map known) := by
  induction items with
  | nil => rfl
  | cons first rest inductionHypothesis =>
      rw [List.mapM_cons, found first List.mem_cons_self,
        inductionHypothesis fun item isLater => found item (List.mem_cons_of_mem _ isLater)]
      rfl

theorem mapM_eq_none {item : β} (isItem : item ∈ items) (isNone : step item = none) :
    items.mapM step = none := by
  induction items with
  | nil => cases isItem
  | cons first rest inductionHypothesis =>
      rw [List.mapM_cons]
      rcases List.mem_cons.mp isItem with rfl | isLater
      · rw [isNone]
        rfl
      · rw [inductionHypothesis isLater]
        cases step first <;> rfl

end Options

/-- The counts of the defined entries in the bins of a range: each entry is counted in the bin of
its position, and greater entries have no lower bins. -/
structure CountsInOrder (low high : Float) (binCount : Nat) (entries : List Float)
    (counts : List Nat) : Prop where
  length : counts.length = binCount
  total : counts.sum = entries.countP fun number => !Scalar.isUndefined number
  inOrder : ∃ bin : Float → Nat,
    (∀ number ∈ entries, Scalar.isUndefined number = false →
      binOf? low (binsPerUnit low high binCount) binCount number = some (bin number)) ∧
    (∀ place < binCount, counts[place]? =
      some (entries.countP fun number => !Scalar.isUndefined number && bin number == place)) ∧
    ∀ number ∈ entries, ∀ other ∈ entries, Scalar.le number other = true → bin number ≤ bin other

namespace Entries

variable {low high : Float} {binCount : Nat} {entries : List Float}

/-- An entry without a position has no bin, and so the array no counts. -/
theorem histogram_of_lost (range : IsRange low high binCount) {number : Float}
    (isEntry : number ∈ entries) (isDefined : Scalar.isUndefined number = false)
    (isLost : IsLost low high binCount number) :
    (reals entries).histogram (.ok low) (.ok (binsPerUnit low high binCount)) binCount =
      .error .badSubscript := by
  have inDefined : number ∈ entries.filter fun number => !Scalar.isUndefined number :=
    List.mem_filter.mpr ⟨isEntry, by rw [isDefined]; rfl⟩
  have noBins : (entries.filter fun number => !Scalar.isUndefined number).mapM
      (binOf? low (binsPerUnit low high binCount) binCount) = none :=
    mapM_eq_none inDefined ((binOf?_eq_none_iff range isDefined).mpr isLost)
  have someDefined : (entries.filter fun number => !Scalar.isUndefined number).isEmpty = false := by
    rw [List.isEmpty_eq_false_iff_exists_mem]
    exact ⟨number, inDefined⟩
  have notNegative : ¬(binCount : Int) < 0 := by omega
  unfold histogram countBins
  simp only [toReals, ok_bind, if_neg notNegative, someDefined, pure_eq_ok, Int.toNat_natCast, noBins]
  rfl

theorem histogram_of_found (range : IsRange low high binCount)
    (notLost : ∀ number ∈ entries, Scalar.isUndefined number = false →
      ¬IsLost low high binCount number) :
    ∃ counts, (reals entries).histogram (.ok low) (.ok (binsPerUnit low high binCount)) binCount =
      .ok counts ∧ CountsInOrder low high binCount entries counts := by
  let defined := entries.filter fun number => !Scalar.isUndefined number
  let bin := fun number => (binOf? low (binsPerUnit low high binCount) binCount number).getD 0
  have found : ∀ number ∈ entries, Scalar.isUndefined number = false →
      binOf? low (binsPerUnit low high binCount) binCount number = some (bin number) := by
    intro number isEntry isDefined
    have hasBin := mt (binOf?_eq_none_iff range isDefined).mp (notLost number isEntry isDefined)
    obtain ⟨place, isPlace⟩ := Option.ne_none_iff_exists'.mp hasBin
    simp only [bin, isPlace, Option.getD_some]
  have bins : defined.mapM (binOf? low (binsPerUnit low high binCount) binCount) =
      some (defined.map bin) := by
    refine mapM_eq_some_map fun number isDefined => ?_
    obtain ⟨isEntry, isDefined⟩ := List.mem_filter.mp isDefined
    exact found number isEntry (by simpa using isDefined)
  have counted : (reals entries).histogram (.ok low) (.ok (binsPerUnit low high binCount)) binCount =
      .ok (tally binCount (defined.map bin)) := by
    have notNegative : ¬(binCount : Int) < 0 := by omega
    unfold histogram countBins
    simp only [toReals, ok_bind, if_neg notNegative, pure_eq_ok, Int.toNat_natCast]
    change (if defined.isEmpty = true then _ else _) = _
    split
    · rename_i noneDefined
      rw [List.isEmpty_iff.mp noneDefined]
      rfl
    · simp only [defined, bins]
  refine ⟨_, counted, ?_, ?_, bin, found, ?_, ?_⟩
  · rw [tally, List.length_map, List.length_range]
  · obtain ⟨numbers, areReals, total⟩ := sum_histogram counted
    cases areReals
    exact total
  · intro place inRange
    rw [tally, List.getElem?_map, List.getElem?_range inRange]
    refine congrArg some ?_
    show (defined.map bin).count place = _
    rw [List.count_eq_countP, List.countP_map, List.countP_filter]
    refine List.countP_congr fun number _ => ?_
    simp only [Function.comp_apply, Bool.and_comm]
  · intro number isEntry other isOther isLess
    obtain ⟨rank, otherRank, hasRank, hasOther, _⟩ := exists_ranks_of_le isLess
    exact binOf?_mono range isLess
      (found number isEntry (Extreme.isUndefined_eq_false.mpr ⟨_, hasRank⟩))
      (found other isOther (Extreme.isUndefined_eq_false.mpr ⟨_, hasOther⟩))

/-- Counting succeeds exactly if no defined entry is lost. -/
theorem histogramAsked_counts_iff (range : IsRange low high binCount) :
    (∃ counts, (reals entries).histogramAsked (.ofFloat low) (.ofFloat high) (.whole binCount) =
        .ok counts ∧ CountsInOrder low high binCount entries counts) ↔
      ∀ number ∈ entries, Scalar.isUndefined number = false →
        ¬IsLost low high binCount number := by
  rw [histogramAsked_reals range]
  refine ⟨?_, histogram_of_found range⟩
  rintro ⟨counts, counted, _⟩ number isEntry isDefined isLost
  rw [histogram_of_lost range isEntry isDefined isLost] at counted
  cases counted

/-- The unit range loses no entry, not even an infinite one. -/
theorem histogramAsked_counts_in_unit_range :
    IsRange 0.0 1.0 2 ∧ ∃ counts,
      (reals [0.75, Scalar.undefined, Scalar.infinity, 0.0]).histogramAsked (.ofFloat 0.0)
        (.ofFloat 1.0) (.whole 2) = .ok counts ∧
      CountsInOrder 0.0 1.0 2 [0.75, Scalar.undefined, Scalar.infinity, 0.0] counts := by
  have range : IsRange 0.0 1.0 2 :=
    ⟨by decide +kernel, by decide +kernel, by decide +kernel, by decide, by decide⟩
  exact ⟨range, (histogramAsked_counts_iff range).mpr (by decide +kernel)⟩

/-- Between zero and the smallest double there are too many bins per unit for a double, and so zero
itself has no position. -/
theorem histogramAsked_loses_zero :
    IsRange 0.0 (Double.mk 1).toFloat 1 ∧
      (reals [0.0]).histogramAsked (.ofFloat 0.0) (.ofFloat (Double.mk 1).toFloat) (.whole 1) =
        .error .badSubscript := by
  have range : IsRange 0.0 (Double.mk 1).toFloat 1 :=
    ⟨by decide +kernel, by decide +kernel, by decide +kernel, by decide, by decide⟩
  exact ⟨range, by decide +kernel⟩

end Entries

end FieldSurvey
