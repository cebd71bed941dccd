import FieldSurvey.Proofs.Kernel.FirstBest

/-!
The extreme entry of a list of doubles. Doubles that are not undefined are ordered by a whole number,
and so are comparisons with either end of the order. An array is searched by counting its undefined
entries as the worst of all. This finds the first best of the others, unless the array starts with an
undefined entry and none of the others is better than the worst.
-/

namespace FieldSurvey

namespace Extreme

/-- The whole number that orders doubles from the best to the worst. An undefined one has none. -/
def key (extreme : Extreme) (number : Float) : Int :=
  match extreme with
  | least => (orderRank? number).getD 0
  | greatest => -(orderRank? number).getD 0

theorem isUndefined_eq_false {number : Float} :
    Scalar.isUndefined number = false ↔ ∃ rank, orderRank? number = some rank := by
  show (orderRank? number).isNone = false ↔ _
  cases orderRank? number with
  | none => simp
  | some rank => simp

theorem beats_eq (extreme : Extreme) {candidate best : Float}
    (candidateDefined : Scalar.isUndefined candidate = false)
    (bestDefined : Scalar.isUndefined best = false) :
    extreme.beats candidate best = decide (extreme.key candidate < extreme.key best) := by
  obtain ⟨low, hasLow⟩ := isUndefined_eq_false.mp candidateDefined
  obtain ⟨high, hasHigh⟩ := isUndefined_eq_false.mp bestDefined
  cases extreme with
  | least => simp only [beats, key, Scalar.lt, hasLow, hasHigh, Option.getD_some]
  | greatest =>
      simp only [beats, key, Scalar.lt, hasLow, hasHigh, Option.getD_some]
      congr 1
      simp only [eq_iff_iff]
      omega

theorem eq_false_of_key_lt (extreme : Extreme) {left right : Float}
    (less : extreme.key left < extreme.key right) : Scalar.eq right left = false := by
  cases hasRight : orderRank? right with
  | none => simp only [Scalar.eq, hasRight]
  | some high =>
      cases hasLeft : orderRank? left with
      | none => simp only [Scalar.eq, hasRight, hasLeft]
      | some low =>
          have different : high ≠ low := by
            cases extreme with
            | least =>
                simp only [key, hasLeft, hasRight, Option.getD_some] at less
                omega
            | greatest =>
                simp only [key, hasLeft, hasRight, Option.getD_some] at less
                omega
          simp only [Scalar.eq, hasRight, hasLeft, different, decide_false]

theorem eq_of_key_eq (extreme : Extreme) {left right : Float}
    (leftDefined : Scalar.isUndefined left = false) (rightDefined : Scalar.isUndefined right = false)
    (same : extreme.key left = extreme.key right) : Scalar.eq left right = true := by
  obtain ⟨low, hasLow⟩ := isUndefined_eq_false.mp leftDefined
  obtain ⟨high, hasHigh⟩ := isUndefined_eq_false.mp rightDefined
  have sameRank : low = high := by
    cases extreme with
    | least => simpa only [key, hasLow, hasHigh, Option.getD_some] using same
    | greatest =>
        simp only [key, hasLow, hasHigh, Option.getD_some] at same
        omega
  simp only [Scalar.eq, hasLow, hasHigh, sameRank, decide_true]

/-- Numbers of which neither beats the other are equal. -/
theorem eq_of_unbeaten (extreme : Extreme) {left right : Float}
    (leftDefined : Scalar.isUndefined left = false) (rightDefined : Scalar.isUndefined right = false)
    (notBetter : extreme.beats left right = false) (notWorse : extreme.beats right left = false) :
    Scalar.eq left right = true := by
  rw [extreme.beats_eq leftDefined rightDefined, decide_eq_false_iff_not] at notBetter
  rw [extreme.beats_eq rightDefined leftDefined, decide_eq_false_iff_not] at notWorse
  exact extreme.eq_of_key_eq leftDefined rightDefined (by omega)

theorem orderRank?_of_isUndefined {number : Float}
    (isUndefined : Scalar.isUndefined number = true) : orderRank? number = none := by
  cases rank : orderRank? number with
  | none => rfl
  | some value =>
      have isDefined := isUndefined_eq_false.mpr ⟨value, rank⟩
      rw [isDefined] at isUndefined
      cases isUndefined

theorem beats_of_isUndefined (extreme : Extreme) {candidate : Float} (best : Float)
    (isUndefined : Scalar.isUndefined candidate = true) :
    extreme.beats candidate best = false := by
  have noRank := orderRank?_of_isUndefined isUndefined
  cases extreme with
  | least => simp only [beats, Scalar.lt, noRank]
  | greatest =>
      simp only [beats, Scalar.lt, noRank]
      cases orderRank? best <;> rfl

theorem eq_of_isUndefined {left : Float} (right : Float)
    (isUndefined : Scalar.isUndefined left = true) : Scalar.eq left right = false := by
  simp only [Scalar.eq, orderRank?_of_isUndefined isUndefined]

theorem orderRank?_of_isFinite {number : Float} (isFinite : Scalar.isFinite number = true) :
    ∃ rank, orderRank? number = some rank ∧ -(FloatWidth.double.infinityBits : Int) < rank ∧
      rank < FloatWidth.double.infinityBits := by
  have magnitude_lt : number.toBits.toNat % 2 ^ 63 < FloatWidth.double.infinityBits := by
    by_contra beyond
    have notFinite : FloatWidth.double.decode number.toBits.toBitVec =
          .infinite (decide (2 ^ 63 ≤ number.toBits.toNat)) ∨
        FloatWidth.double.decode number.toBits.toBitVec = .undefined := by
      rcases Nat.lt_or_eq_of_le (Nat.le_of_not_lt beyond) with above | same
      · exact .inr ((if_neg (Nat.ne_of_gt above)).trans (if_pos above))
      · exact .inl (if_pos same.symm)
    cases notFinite with
    | inl isInfinite =>
        simp only [Scalar.isFinite, binaryParts, isInfinite] at isFinite
        cases isFinite
    | inr isUndefined =>
        simp only [Scalar.isFinite, binaryParts, isUndefined] at isFinite
        cases isFinite
  unfold orderRank?
  simp only
  rw [if_neg (by omega)]
  split
  · exact ⟨_, rfl, by omega, by omega⟩
  · exact ⟨_, rfl, by omega, by omega⟩

theorem orderRank?_infinity :
    orderRank? (Scalar.infinity : Float) = some (FloatWidth.double.infinityBits : Int) := by
  decide +kernel

theorem orderRank?_negativeInfinity :
    orderRank? (Scalar.negativeInfinity : Float) = some (-(FloatWidth.double.infinityBits : Int)) := by
  decide +kernel

theorem isUndefined_worst (extreme : Extreme) :
    Scalar.isUndefined (extreme.worst : Float) = false := by
  cases extreme with
  | least => exact isUndefined_eq_false.mpr ⟨_, orderRank?_infinity⟩
  | greatest => exact isUndefined_eq_false.mpr ⟨_, orderRank?_negativeInfinity⟩

theorem key_le_key_worst (extreme : Extreme) {number : Float}
    (isDefined : Scalar.isUndefined number = false) :
    extreme.key number ≤ extreme.key extreme.worst := by
  obtain ⟨rank, hasRank⟩ := isUndefined_eq_false.mp isDefined
  have inRange : -(FloatWidth.double.infinityBits : Int) ≤ rank ∧
      rank ≤ FloatWidth.double.infinityBits := by
    unfold orderRank? at hasRank
    simp only at hasRank
    split at hasRank
    · cases hasRank
    · split at hasRank
      · cases hasRank
        omega
      · cases hasRank
        omega
  cases extreme with
  | least =>
      simp only [key, worst, hasRank, orderRank?_infinity, Option.getD_some]
      exact inRange.2
  | greatest =>
      simp only [key, worst, hasRank, orderRank?_negativeInfinity, Option.getD_some]
      omega

theorem key_lt_key_worst (extreme : Extreme) {number : Float}
    (isFinite : Scalar.isFinite number = true) :
    extreme.key number < extreme.key extreme.worst := by
  obtain ⟨rank, hasRank, above, below⟩ := orderRank?_of_isFinite isFinite
  cases extreme with
  | least =>
      simp only [key, worst, hasRank, orderRank?_infinity, Option.getD_some]
      exact below
  | greatest =>
      simp only [key, worst, hasRank, orderRank?_negativeInfinity, Option.getD_some]
      omega

end Extreme

def definedEntries (entries : List Float) : List (Option (Float × Nat)) :=
  entries.zipIdx.map fun item => if Scalar.isUndefined item.1 then none else some item

def Extreme.ofEntries (extreme : Extreme) (entries : List Float) : Option (Float × Nat) :=
  leader (fun candidate best => extreme.beats candidate.1 best.1) (definedEntries entries)

theorem getElem?_definedEntries {entries : List Float} {place : Nat} {item : Float × Nat} :
    (definedEntries entries)[place]? = some (some item) ↔
      entries[place]? = some item.1 ∧ item.2 = place ∧ Scalar.isUndefined item.1 = false := by
  unfold definedEntries
  rw [List.getElem?_map, List.getElem?_zipIdx]
  cases found : entries[place]? with
  | none => simp
  | some number =>
      obtain ⟨value, stood⟩ := item
      cases isUndefined : Scalar.isUndefined number with
      | true =>
          simp only [Option.map_some, isUndefined, if_true, Option.some.injEq]
          constructor
          · rintro ⟨⟩
          · rintro ⟨same, _, isDefined⟩
            rw [← same, isUndefined] at isDefined
            cases isDefined
      | false =>
          simp only [Option.map_some, isUndefined, Bool.false_eq_true, if_false, Option.some.injEq,
            Prod.mk.injEq, Nat.zero_add]
          constructor
          · rintro ⟨rfl, rfl⟩
            exact ⟨rfl, rfl, isUndefined⟩
          · rintro ⟨rfl, rfl, _⟩
            exact ⟨rfl, rfl⟩

theorem mem_definedEntries {entries : List Float} {item : Float × Nat}
    (isMember : some item ∈ definedEntries entries) :
    entries[item.2]? = some item.1 ∧ Scalar.isUndefined item.1 = false := by
  obtain ⟨place, found⟩ := List.getElem?_of_mem isMember
  obtain ⟨stands, rfl, isDefined⟩ := getElem?_definedEntries.mp found
  exact ⟨stands, isDefined⟩

theorem Extreme.ofEntries_isFirstBest {extreme : Extreme} {entries : List Float} {value : Float}
    {place : Nat} (found : extreme.ofEntries entries = some (value, place)) :
    IsFirstBest (fun item : Float × Nat => extreme.key item.1) (definedEntries entries)
      (value, place) place := by
  have keyed : ∀ candidate old, some candidate ∈ definedEntries entries →
      some old ∈ definedEntries entries →
      extreme.beats candidate.1 old.1 = decide (extreme.key candidate.1 < extreme.key old.1) := by
    intro candidate old isCandidate isOld
    exact extreme.beats_eq (mem_definedEntries isCandidate).2 (mem_definedEntries isOld).2
  obtain ⟨stood, isBest⟩ := leader_isFirstBest (fun item : Float × Nat => extreme.key item.1) keyed found
  obtain ⟨_, samePlace, _⟩ := getElem?_definedEntries.mp isBest.stands
  have same : place = stood := samePlace
  rw [same] at isBest ⊢
  exact isBest

theorem Extreme.ofEntries_eq_none {extreme : Extreme} {entries : List Float} :
    extreme.ofEntries entries = none ↔ entries.all Scalar.isUndefined = true := by
  unfold Extreme.ofEntries
  rw [leader_eq_none, List.all_eq_true]
  constructor
  · intro missing number isEntry
    obtain ⟨place, stands⟩ := List.getElem?_of_mem isEntry
    by_contra notUndefined
    have isDefined : Scalar.isUndefined number = false := by simpa using notUndefined
    have present := getElem?_definedEntries.mpr
      (show entries[place]? = some (number, place).1 ∧ (number, place).2 = place ∧ _ from
        ⟨stands, rfl, isDefined⟩)
    cases missing _ (List.mem_of_getElem? present)
  · intro allUndefined candidate isMember
    cases candidate with
    | none => rfl
    | some item =>
        obtain ⟨stands, isDefined⟩ := mem_definedEntries isMember
        have isUndefined := allUndefined _ (List.mem_of_getElem? stands)
        rw [isDefined] at isUndefined
        cases isUndefined

theorem Extreme.ofEntries_of_entry (extreme : Extreme) {entries : List Float} {index : Nat}
    {number : Float} (stands : entries[index]? = some number)
    (isDefined : Scalar.isUndefined number = false) :
    ∃ value place, extreme.ofEntries entries = some (value, place) ∧
      extreme.key value ≤ extreme.key number ∧
      (index < place → extreme.key value < extreme.key number) := by
  have present : (definedEntries entries)[index]? = some (some (number, index)) :=
    getElem?_definedEntries.mpr ⟨stands, rfl, isDefined⟩
  cases found : extreme.ofEntries entries with
  | none =>
      have allUndefined := List.all_eq_true.mp (Extreme.ofEntries_eq_none.mp found)
      have isUndefined := allUndefined number (List.mem_of_getElem? stands)
      rw [isDefined] at isUndefined
      cases isUndefined
  | some item =>
      obtain ⟨value, place⟩ := item
      have isBest := Extreme.ofEntries_isFirstBest found
      exact ⟨value, place, rfl, isBest.least index (number, index) present,
        fun isBefore => isBest.first index (number, index) isBefore present⟩

section Search

/-- The entries as the search compares them: an undefined one counts as the worst number. -/
def Extreme.ranked (extreme : Extreme) (number : Float) : Float :=
  if Scalar.isUndefined number then extreme.worst else number

/-- An array in which the search cannot stop at an undefined entry. It could only stop at the first
one, if that is undefined and no other entry is better than the worst number. -/
def Extreme.Searches (extreme : Extreme) (entries : List Float) : Prop :=
  (entries.head?.any Scalar.isUndefined = true ∧ ∃ number ∈ entries,
      Scalar.isUndefined number = false) →
    ∃ number ∈ entries, extreme.beats number extreme.worst = true

theorem Extreme.searches_of_plain (extreme : Extreme) {entries : List Float}
    (plain : ∀ number ∈ entries,
      Scalar.isFinite number = true ∨ Scalar.isUndefined number = true) :
    extreme.Searches entries := by
  rintro ⟨_, number, isEntry, isDefined⟩
  refine ⟨number, isEntry, ?_⟩
  cases plain number isEntry with
  | inl isFinite =>
      rw [extreme.beats_eq isDefined extreme.isUndefined_worst]
      exact decide_eq_true (extreme.key_lt_key_worst isFinite)
  | inr isUndefined =>
      rw [isDefined] at isUndefined
      cases isUndefined

theorem Extreme.isUndefined_ranked (extreme : Extreme) (number : Float) :
    Scalar.isUndefined (extreme.ranked number) = false := by
  unfold Extreme.ranked
  split
  · exact extreme.isUndefined_worst
  · rename_i isDefined
    simpa using isDefined

theorem Extreme.ranked_of_isDefined (extreme : Extreme) {number : Float}
    (isDefined : Scalar.isUndefined number = false) : extreme.ranked number = number := by
  unfold Extreme.ranked
  rw [isDefined]
  rfl

def rankedEntries (extreme : Extreme) (entries : List Float) : List (Option Float) :=
  entries.map fun number => some (extreme.ranked number)

theorem getElem?_rankedEntries {extreme : Extreme} {entries : List Float} {place : Nat}
    {best : Float} :
    (rankedEntries extreme entries)[place]? = some (some best) ↔
      ∃ number, entries[place]? = some number ∧ extreme.ranked number = best := by
  unfold rankedEntries
  rw [List.getElem?_map, Option.map_eq_some_iff]
  simp only [Option.some.injEq]

/-- The search among the ranked entries finds the first that no other one beats. -/
theorem Extreme.firstBest?_ranked {extreme : Extreme} {entries : List Float} {place : Nat}
    {best : Float}
    (found : firstBest? extreme.beats (entries.map extreme.ranked) = some (place, best)) :
    IsFirstBest extreme.key (rankedEntries extreme entries) best place := by
  have isDefined : ∀ number ∈ entries.map extreme.ranked, Scalar.isUndefined number = false := by
    intro number isMember
    obtain ⟨entry, _, isRanked⟩ := List.mem_map.mp isMember
    rw [← isRanked]
    exact extreme.isUndefined_ranked entry
  have isBest := firstBest?_isFirstBest extreme.key
    (fun candidate isCandidate old isOld =>
      extreme.beats_eq (isDefined candidate isCandidate) (isDefined old isOld)) found
  rwa [List.map_map] at isBest

variable {extreme : Extreme} {entries : List Float} {place : Nat} {number best : Float}

/-- The search stops at an undefined entry only where it starts and nothing is better. -/
theorem Extreme.isDefined_of_searches (searches : extreme.Searches entries)
    (someDefined : ∃ number ∈ entries, Scalar.isUndefined number = false)
    (isBest : IsFirstBest extreme.key (rankedEntries extreme entries) best place)
    (isEntry : entries[place]? = some number) (isRanked : extreme.ranked number = best) :
    Scalar.isUndefined number = false := by
  by_contra notDefined
  have isUndefined : Scalar.isUndefined number = true := by simpa using notDefined
  have isWorst : best = extreme.worst := isRanked.symm.trans (if_pos isUndefined)
  have atStart : entries.head? = some number := by
    rw [List.head?_eq_getElem?]
    rcases Nat.eq_zero_or_pos place with rfl | isLater
    · exact isEntry
    · have inEntries := (List.getElem?_eq_some_iff.mp isEntry).1
      have atFirst : entries[0]? = some entries[0] := List.getElem?_eq_getElem (by omega)
      have better := isBest.first 0 _ isLater (getElem?_rankedEntries.mpr ⟨_, atFirst, rfl⟩)
      have atMost := extreme.key_le_key_worst (extreme.isUndefined_ranked entries[0])
      rw [isWorst] at better
      omega
  obtain ⟨other, isOther, better⟩ := searches ⟨by rw [atStart]; exact isUndefined, someDefined⟩
  have otherDefined : Scalar.isUndefined other = false := by
    by_contra undefinedOther
    rw [extreme.beats_of_isUndefined _ (by simpa using undefinedOther)] at better
    cases better
  obtain ⟨otherPlace, standsOther⟩ := List.getElem?_of_mem isOther
  have notBetter := isBest.least otherPlace other
    (getElem?_rankedEntries.mpr ⟨other, standsOther, extreme.ranked_of_isDefined otherDefined⟩)
  rw [extreme.beats_eq otherDefined extreme.isUndefined_worst, decide_eq_true_eq] at better
  rw [isWorst] at notBetter
  omega

/-- A search that stops at a defined entry stops at the first best of the defined ones. -/
theorem Extreme.ofEntries_of_found
    (isBest : IsFirstBest extreme.key (rankedEntries extreme entries) number place)
    (isEntry : entries[place]? = some number) (isDefined : Scalar.isUndefined number = false) :
    extreme.ofEntries entries = some (number, place) := by
  obtain ⟨value, stood, leads, notBetter, worseBefore⟩ :=
    extreme.ofEntries_of_entry isEntry isDefined
  obtain ⟨stands, valueDefined⟩ := mem_definedEntries (leader_mem leads)
  have standsRanked := getElem?_rankedEntries.mpr
    ⟨value, stands, extreme.ranked_of_isDefined valueDefined⟩
  have samePlace : place = stood := by
    rcases Nat.lt_trichotomy place stood with isBefore | same | isAfter
    · have better := worseBefore isBefore
      have notWorse := isBest.least stood value standsRanked
      omega
    · exact same
    · have better := isBest.first stood value isAfter standsRanked
      omega
  subst samePlace
  rw [leads, Option.some.inj (isEntry.symm.trans stands)]

/-- Where the search cannot stop at an undefined entry, the first best ranked entry is the first best
defined one. -/
theorem Extreme.firstBest?_eq_ofEntries (searches : extreme.Searches entries)
    (someDefined : ∃ number ∈ entries, Scalar.isUndefined number = false) :
    (firstBest? extreme.beats (entries.map extreme.ranked)).map Prod.swap =
      extreme.ofEntries entries := by
  cases found : firstBest? extreme.beats (entries.map extreme.ranked) with
  | none =>
      cases entries with
      | nil =>
          obtain ⟨_, isEntry, _⟩ := someDefined
          cases isEntry
      | cons first rest => cases found
  | some candidate =>
      obtain ⟨place, best⟩ := candidate
      have isBest := firstBest?_ranked found
      obtain ⟨number, isEntry, isRanked⟩ := getElem?_rankedEntries.mp isBest.stands
      have isDefined := isDefined_of_searches searches someDefined isBest isEntry isRanked
      rw [extreme.ranked_of_isDefined isDefined] at isRanked
      subst isRanked
      exact (ofEntries_of_found isBest isEntry isDefined).symm

end Search

/-- Searching an array finds the first best of its defined entries. -/
theorem Entries.extremum_reals (extreme : Extreme) (entries : List Float)
    (searches : extreme.Searches entries) :
    (Entries.reals entries).extremum extreme = .ok (extreme.ofEntries entries) := by
  unfold Entries.extremum
  simp only
  split
  · rename_i allUndefined
    rw [Extreme.ofEntries_eq_none.mpr allUndefined]
  · rename_i someDefined
    have hasDefined : ∃ number ∈ entries, Scalar.isUndefined number = false := by
      simpa using someDefined
    have agrees := Extreme.firstBest?_eq_ofEntries searches hasDefined
    have searched : (entries.map fun number =>
        if Scalar.isUndefined number = true then extreme.worst else number) =
        entries.map extreme.ranked := rfl
    rw [searched, ← agrees]
    cases found : firstBest? extreme.beats (entries.map extreme.ranked) with
    | none => rfl
    | some candidate =>
        rw [found] at agrees
        obtain ⟨stands, _⟩ := mem_definedEntries (leader_mem agrees.symm)
        simp only [Option.bind_eq_bind, Option.bind_some]
        rw [show entries[candidate.1]? = some candidate.2 from stands]
        rfl

end FieldSurvey
