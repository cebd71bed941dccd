import Mathlib.Algebra.Order.BigOperators.Group.List
import FieldSurvey.Proofs.Histogram.ExactSums
import FieldSurvey.Proofs.Kernel.ExactBins
import FieldSurvey.Proofs.Statistics.PlainShares

/-!
Shares of a field in exact numbers, none of them infinite. What all processes add up is the sum of
the defined entries, in whatever order and grouping they are added. What they elect is a defined
entry that no other one beats, since without infinities no search can stop at an undefined entry.
-/

namespace FieldSurvey

open ProcessGroup ExactNumber

namespace ExactNumber

def rational? : ExactNumber → Option ℚ
  | finite number => some number
  | _ => none

/-- The rational numbers among some exact ones. -/
def rationals (numbers : List ExactNumber) : List ℚ := numbers.filterMap rational?

/-- No number is infinite. -/
def ArePlain (numbers : List ExactNumber) : Prop :=
  ∀ number ∈ numbers, Scalar.isFinite number = true ∨ Scalar.isUndefined number = true

instance (numbers : List ExactNumber) : Decidable (ArePlain numbers) :=
  inferInstanceAs (Decidable (∀ number ∈ numbers, _ ∨ _))

variable {numbers earlier later : List ExactNumber} {number middle best : ExactNumber}

@[simp] theorem rationals_append :
    rationals (earlier ++ later) = rationals earlier ++ rationals later :=
  List.filterMap_append

theorem mem_rationals {rational : ℚ} : rational ∈ rationals numbers ↔ finite rational ∈ numbers := by
  unfold rationals
  rw [List.mem_filterMap]
  constructor
  · rintro ⟨number, isMember, same⟩
    cases number with
    | finite other =>
        cases same
        exact isMember
    | undefined => cases same
    | infinite negative => cases same
  · intro isMember
    exact ⟨_, isMember, rfl⟩

theorem exists_finite (isFinite : Scalar.isFinite number = true) : ∃ rational, number = finite rational := by
  cases number with
  | finite rational => exact ⟨rational, rfl⟩
  | undefined => cases isFinite
  | infinite negative => cases isFinite

theorem ArePlain.ofRational_eq (plain : ArePlain numbers) :
    (numbers.map rational?).map ofRational = numbers := by
  rw [List.map_map]
  refine (List.map_congr_left fun number isMember => ?_).trans (List.map_id numbers)
  cases number with
  | finite rational => rfl
  | undefined => rfl
  | infinite negative => exact (plain _ isMember).elim nofun nofun

theorem ArePlain.filter_isDefined (plain : ArePlain numbers) :
    numbers.filter (fun number => !Scalar.isUndefined number) = (rationals numbers).map finite := by
  have ofRationals := filter_defined (numbers.map rational?)
  rw [plain.ofRational_eq] at ofRationals
  rw [ofRationals, rationals, List.reduceOption, List.filterMap_map]
  rfl

theorem ArePlain.of_subset (plain : ArePlain later) (isSubset : earlier ⊆ later) : ArePlain earlier :=
  fun number isMember => plain number (isSubset isMember)

section Order

variable (extreme : Extreme)

theorem isBelow_self (number : ExactNumber) : number.isBelow number = false := by
  cases number with
  | finite rational => exact decide_eq_false (lt_irrefl rational)
  | undefined => rfl
  | infinite negative => cases negative <;> rfl

theorem isBelow_trans (first : number.isBelow middle = true) (second : middle.isBelow best = true) :
    number.isBelow best = true := by
  cases number <;> cases middle <;> cases best <;> simp_all [isBelow]
  linarith

theorem beats_self : extreme.beats number number = false := by
  cases extreme <;> exact number.isBelow_self

theorem beats_trans (first : extreme.beats number middle = true)
    (second : extreme.beats middle best = true) : extreme.beats number best = true := by
  cases extreme with
  | least => exact isBelow_trans first second
  | greatest => exact isBelow_trans second first

theorem unbeaten_trans {rational : ℚ} (first : extreme.beats number (finite rational) = false)
    (second : extreme.beats (finite rational) best = false) : extreme.beats number best = false := by
  cases extreme <;> cases number <;> cases best <;>
    simp_all [Extreme.beats, Scalar.lt, isBelow]
  all_goals linarith

theorem beats_worst (rational : ℚ) : extreme.beats (finite rational) extreme.worst = true := by
  cases extreme <;> rfl

theorem not_beats_of_isUndefined (isUndefined : Scalar.isUndefined number = true) :
    extreme.beats number best = false := by
  obtain rfl : number = undefined := of_decide_eq_true isUndefined
  cases extreme <;> cases best <;> rfl

end Order

end ExactNumber

section ExactSums

variable {ω : Type} {columns : List (PlainColumn ExactNumber)}

theorem definedSum_exact {numbers : List ExactNumber} (plain : ArePlain numbers) :
    definedSum numbers = (finite (rationals numbers).sum, (rationals numbers).length) := by
  unfold definedSum
  rw [plain.filter_isDefined]
  dsimp only
  cases rationals numbers with
  | nil => rfl
  | cons first rest => rw [blockedSum_finite, List.length_map]; rfl

theorem columnsTotal_exact (plain : ArePlain (columnNumbers columns)) :
    columnsTotal columns = ⟨finite (rationals (columnNumbers columns)).sum,
      (rationals (columnNumbers columns)).length⟩ := by
  induction columns using List.reverseRecOn with
  | nil => rfl
  | append_singleton earlier last inductionHypothesis =>
      have pooled : columnNumbers (earlier ++ [last]) = columnNumbers earlier ++ last.numbers := by
        unfold columnNumbers
        rw [List.flatMap_append, List.flatMap_singleton]
      rw [pooled] at plain ⊢
      rw [columnsTotal_append, inductionHypothesis (plain.of_subset (List.subset_append_left _ _)),
        definedSum_exact (plain.of_subset (List.subset_append_right _ _)), rationals_append,
        List.sum_append, List.length_append]
      simp only [finite_add, Nat.cast_add]

theorem joinReals_finite (numbers : ω → ℚ) {shares : List ω} (someShare : shares ≠ []) :
    joinReals (· + ·) (shares.map fun share => finite (numbers share)) =
      finite (shares.map numbers).sum := by
  obtain ⟨first, rest, rfl⟩ := List.exists_cons_of_ne_nil someShare
  have added := foldl_finite (rest.map numbers) (numbers first)
  rw [List.map_map] at added
  exact added

/-- However the numbers are dealt, they add up to their sum. -/
theorem sharedTotal_exact (columnsOf : ω → List (PlainColumn ExactNumber)) {shares : List ω}
    (someShare : shares ≠ []) (plain : ArePlain (sharedNumbers columnsOf shares)) :
    sharedTotal columnsOf shares = ⟨finite (rationals (sharedNumbers columnsOf shares)).sum,
      (rationals (sharedNumbers columnsOf shares)).length⟩ := by
  let ownRationals (share : ω) : List ℚ := rationals (columnNumbers (columnsOf share))
  have own : ∀ share ∈ shares, columnsTotal (columnsOf share) =
      ⟨finite (ownRationals share).sum, (ownRationals share).length⟩ := by
    intro share isShare
    refine columnsTotal_exact (plain.of_subset fun number isNumber => ?_)
    exact List.mem_flatMap.mpr ⟨share, isShare, isNumber⟩
  have pooled : rationals (sharedNumbers columnsOf shares) = shares.flatMap ownRationals :=
    List.filterMap_flatMap
  unfold sharedTotal
  rw [List.map_congr_left fun share isShare => congrArg FieldSum.total (own share isShare),
    List.map_congr_left fun share isShare => congrArg FieldSum.count (own share isShare), pooled,
    joinReals_finite _ someShare, List.flatMap_def, List.sum_flatten, List.length_flatten,
    Nat.cast_list_sum, List.map_map, List.map_map, List.map_map]
  rfl

end ExactSums

section ExactExtrema

/-- A number is the extreme one of some exact numbers: it is one of them, and none beats it. -/
structure IsExtreme (extreme : Extreme) (numbers : List ExactNumber) (value : ExactNumber) : Prop where
  isFinite : Scalar.isFinite value = true
  isMember : value ∈ numbers
  unbeaten : ∀ number ∈ numbers, extreme.beats number value = false

variable {ω γ : Type} {extreme : Extreme}

/-- Of the extreme numbers of several lists the first best is the extreme one of all lists. -/
theorem IsExtreme.of_leader {items : List ω} {candidate : ω → Option γ} {value : γ → ExactNumber}
    {numbers : ω → List ExactNumber}
    (each : ∀ item ∈ items, ∀ own, candidate item = some own →
      IsExtreme extreme (numbers item) (value own))
    (missing : ∀ item ∈ items, candidate item = none →
      ∀ number ∈ numbers item, Scalar.isUndefined number = true) {best : γ}
    (leads : leader (fun candidate best => extreme.beats (value candidate) (value best))
      (items.map candidate) = some best) :
    IsExtreme extreme (items.flatMap numbers) (value best) := by
  obtain ⟨item, isItem, isBest⟩ := List.mem_map.mp (leader_mem leads)
  have ofItem := each item isItem best isBest
  refine ⟨ofItem.isFinite, List.mem_flatMap.mpr ⟨item, isItem, ofItem.isMember⟩, ?_⟩
  intro number isNumber
  obtain ⟨other, isOther, isMember⟩ := List.mem_flatMap.mp isNumber
  cases found : candidate other with
  | none => exact not_beats_of_isUndefined extreme (missing other isOther found number isMember)
  | some own =>
      have ofOther := each other isOther own found
      have notBetter : extreme.beats (value own) (value best) = false := by
        refine leader_unbeaten ?_ ?_ leads own (List.mem_map.mpr ⟨other, isOther, found⟩)
        · intro item
          exact beats_self extreme
        · intro first second third
          exact beats_trans extreme
      obtain ⟨rational, isRational⟩ := exists_finite ofOther.isFinite
      rw [isRational] at notBetter
      exact unbeaten_trans extreme (isRational ▸ ofOther.unbeaten number isMember) notBetter

/-- Without infinite entries the search of a column cannot stop at an undefined one. -/
theorem PlainColumn.found?_isExtreme {column : PlainColumn ExactNumber}
    (plain : ArePlain column.numbers) {value : ExactNumber} {index : Nat}
    (found : column.part.found? extreme = some (value, index)) :
    IsExtreme extreme column.numbers value := by
  obtain ⟨stands, isFirst⟩ := found?_eq_some extreme found
  have isMember := List.mem_of_getElem? stands
  have unbeaten : ∀ number ∈ column.numbers,
      extreme.beats (extreme.rankedAs number) (extreme.rankedAs value) = false := by
    intro number isNumber
    exact firstBest?_unbeaten (fun _ => beats_self extreme) (fun _ _ _ => beats_trans extreme)
      isFirst _ (List.mem_map_of_mem isNumber)
  have isDefined : Scalar.isUndefined value = false := by
    by_contra isUndefined
    obtain ⟨number, isNumber, numberDefined⟩ := exists_defined_of_found? extreme found
    have isFinite := (plain number isNumber).resolve_right (Bool.eq_false_iff.mp numberDefined)
    have notBetter := unbeaten number isNumber
    rw [Extreme.rankedAs_of_isDefined numberDefined,
      Extreme.rankedAs_of_isUndefined (Bool.not_eq_false _ ▸ isUndefined)] at notBetter
    obtain ⟨rational, rfl⟩ := exists_finite isFinite
    rw [beats_worst] at notBetter
    cases notBetter
  have isFinite := (plain value isMember).resolve_right (Bool.eq_false_iff.mp isDefined)
  refine ⟨isFinite, isMember, fun number isNumber => ?_⟩
  have notBetter := unbeaten number isNumber
  rw [Extreme.rankedAs_of_isDefined isDefined] at notBetter
  cases numberDefined : Scalar.isUndefined number with
  | true => exact not_beats_of_isUndefined extreme numberDefined
  | false =>
      rw [Extreme.rankedAs_of_isDefined numberDefined] at notBetter
      exact notBetter

theorem PlainColumn.best?_isExtreme {columns : List (PlainColumn ExactNumber)}
    (plain : ArePlain (columnNumbers columns)) {own : OwnExtremum ExactNumber}
    (leads : best? extreme columns = some own) :
    IsExtreme extreme (columnNumbers columns) own.value := by
  have each : ∀ column ∈ columns, ∀ found, (column.part.found? extreme).map (fun item =>
      (⟨item.1, item.2, column.part⟩ : OwnExtremum ExactNumber)) = some found →
        IsExtreme extreme column.numbers found.value := by
    intro column isColumn found isFound
    obtain ⟨item, isItem, rfl⟩ := Option.map_eq_some_iff.mp isFound
    refine found?_isExtreme (plain.of_subset fun number isNumber => ?_) isItem
    exact List.mem_flatMap.mpr ⟨column, isColumn, isNumber⟩
  refine IsExtreme.of_leader each ?_ leads
  intro column _ nothing
  exact (found?_eq_none_iff extreme).mp (Option.map_eq_none_iff.mp nothing)

theorem PlainColumn.elected?_isExtreme {columnsOf : ω → List (PlainColumn ExactNumber)}
    {shares : List ω} (plain : ArePlain (sharedNumbers columnsOf shares)) {value : ExactNumber}
    {rank : Nat} (elected : elected? columnsOf extreme shares = some (value, rank)) :
    IsExtreme extreme (sharedNumbers columnsOf shares) value := by
  have placed : shares.zipIdx.flatMap (fun item => columnNumbers (columnsOf item.1)) =
      sharedNumbers columnsOf shares := by
    unfold sharedNumbers
    rw [← List.zipIdx_map_fst 0 shares, List.flatMap_map, List.zipIdx_map_fst]
  rw [elected?_eq_leader] at elected
  rw [← placed]
  have each : ∀ item ∈ shares.zipIdx, ∀ found, (best? extreme (columnsOf item.1)).map (fun own =>
      (own.value, item.2)) = some found →
        IsExtreme extreme (columnNumbers (columnsOf item.1)) found.1 := by
    intro item isItem found isFound
    obtain ⟨own, isOwn, rfl⟩ := Option.map_eq_some_iff.mp isFound
    refine best?_isExtreme (plain.of_subset fun number isNumber => ?_) isOwn
    rw [← placed]
    exact List.mem_flatMap.mpr ⟨item, isItem, isNumber⟩
  refine IsExtreme.of_leader each ?_ elected
  intro item _ nothing
  exact (best?_eq_none_iff extreme).mp (Option.map_eq_none_iff.mp nothing)

end ExactExtrema

section Mean

/-- Two of some numbers that are the least and the greatest of them. -/
structure Spans (numbers : List ℚ) (low high : ℚ) : Prop where
  lowStands : low ∈ numbers
  highStands : high ∈ numbers
  bounds : ∀ number ∈ numbers, low ≤ number ∧ number ≤ high

variable {numbers : List ℚ} {low high : ℚ}

/-- The mean of some numbers lies between the least and the greatest of them. -/
theorem Spans.mean_between (spans : Spans numbers low high) :
    low ≤ numbers.sum / numbers.length ∧ numbers.sum / numbers.length ≤ high := by
  have hasLength : (0 : ℚ) < numbers.length :=
    Nat.cast_pos.mpr (List.length_pos_of_mem spans.lowStands)
  have atLeast := List.card_nsmul_le_sum numbers low fun number isNumber =>
    (spans.bounds number isNumber).1
  have atMost := List.sum_le_card_nsmul numbers high fun number isNumber =>
    (spans.bounds number isNumber).2
  rw [nsmul_eq_mul] at atLeast atMost
  rw [le_div_iff₀ hasLength, div_le_iff₀ hasLength, mul_comm low, mul_comm high]
  exact ⟨atLeast, atMost⟩

/-- The extreme ones of some exact numbers span the rational ones among them. -/
theorem spans_of_isExtreme {numbers : List ExactNumber}
    (isLeast : IsExtreme .least numbers (finite low))
    (isGreatest : IsExtreme .greatest numbers (finite high)) :
    Spans (rationals numbers) low high := by
  refine ⟨mem_rationals.mpr isLeast.isMember, mem_rationals.mpr isGreatest.isMember, ?_⟩
  intro number isNumber
  have notLess := isLeast.unbeaten _ (mem_rationals.mp isNumber)
  have notGreater := isGreatest.unbeaten _ (mem_rationals.mp isNumber)
  exact ⟨not_lt.mp (of_decide_eq_false notLess), not_lt.mp (of_decide_eq_false notGreater)⟩

end Mean

end FieldSurvey
