import FieldSurvey.Proofs.Kernel.Extremum

/-!
What the search of an array finds, whatever the array holds. Undefined entries count as the worst
number, so an infinity that is the worst number itself does not stand out from them: where no entry
is better, the search stops at the first entry of all, be it undefined or not. Of several results
the first that was found decides whether the best of them is undefined, for an undefined one neither
beats another nor is beaten.
-/

namespace FieldSurvey

/-- The first best of the defined entries and its place, if any entry is defined. -/
def FindsFirst (extreme : Extreme) (entries : List Float) : Option (Float × Nat) → Prop
  | none => ∀ number ∈ entries, Scalar.isUndefined number = true
  | some (value, place) =>
      entries[place]? = some value ∧ Scalar.isUndefined value = false ∧
        (∀ number ∈ entries, extreme.beats number value = false) ∧
        ∀ (earlier : Nat) (number : Float), earlier < place → entries[earlier]? = some number →
          Scalar.eq number value = false

namespace Extreme

/-- What the search of an array of doubles finds. -/
def foundIn (extreme : Extreme) (entries : List Float) : Option (Float × Nat) :=
  match (Entries.reals entries).extremum extreme with
  | .ok found => found
  | .error _ => none

variable {extreme : Extreme} {entries : List Float}

theorem extremum_eq_foundIn :
    (Entries.reals entries).extremum extreme = .ok (extreme.foundIn entries) := by
  unfold foundIn Entries.extremum
  simp only
  split <;> rfl

theorem findsFirst_ofEntries : FindsFirst extreme entries (extreme.ofEntries entries) := by
  cases found : extreme.ofEntries entries with
  | none =>
      have allUndefined := List.all_eq_true.mp (ofEntries_eq_none.mp found)
      exact allUndefined
  | some item =>
      obtain ⟨value, place⟩ := item
      have isBest := ofEntries_isFirstBest found
      obtain ⟨stands, isDefined⟩ := mem_definedEntries (leader_mem found)
      refine ⟨stands, isDefined, ?_, ?_⟩
      · intro number isEntry
        cases numberDefined : Scalar.isUndefined number with
        | true => exact extreme.beats_of_isUndefined value numberDefined
        | false =>
            obtain ⟨index, atIndex⟩ := List.getElem?_of_mem isEntry
            have notBetter := isBest.least index (number, index)
              (getElem?_definedEntries.mpr ⟨atIndex, rfl, numberDefined⟩)
            rw [extreme.beats_eq numberDefined isDefined, decide_eq_false_iff_not]
            exact Int.not_lt.mpr notBetter
      · intro earlier number isBefore atEarlier
        cases numberDefined : Scalar.isUndefined number with
        | true => exact eq_of_isUndefined value numberDefined
        | false =>
            exact extreme.eq_false_of_key_lt (isBest.first earlier (number, earlier) isBefore
              (getElem?_definedEntries.mpr ⟨atEarlier, rfl, numberDefined⟩))

theorem firstBestFrom_unbeaten {beats : Float → Float → Bool} {best : Nat × Float}
    {items : List Float}
    (unbeaten : ∀ item ∈ items, beats item best.2 = false) (place : Nat) :
    firstBestFrom beats place best items = best := by
  induction items generalizing place with
  | nil => rfl
  | cons first rest inductionHypothesis =>
      unfold firstBestFrom
      rw [unbeaten first List.mem_cons_self]
      exact inductionHypothesis (fun item isLater => unbeaten item (List.mem_cons_of_mem _ isLater)) _

/-- Where nothing is better than the worst number, the search stops at the first entry. -/
theorem foundIn_of_not_searches (stops : ¬extreme.Searches entries) :
    ∃ value, extreme.foundIn entries = some (value, 0) ∧ Scalar.isUndefined value = true := by
  unfold Searches at stops
  push Not at stops
  obtain ⟨⟨startsUndefined, other, isOther, otherDefined⟩, noneBetter⟩ := stops
  cases entries with
  | nil => cases isOther
  | cons first rest =>
      have firstUndefined : Scalar.isUndefined first = true := startsUndefined
      refine ⟨first, ?_, firstUndefined⟩
      have someDefined : (first :: rest).all Scalar.isUndefined = false := by
        rw [List.all_eq_false]
        exact ⟨other, isOther, by rw [otherDefined]; exact Bool.false_ne_true⟩
      have isWorst : extreme.ranked first = extreme.worst := if_pos firstUndefined
      have unbeaten : ∀ item ∈ rest.map extreme.ranked, extreme.beats item (0, extreme.ranked first).2 =
          false := by
        intro item isItem
        obtain ⟨number, isEntry, rfl⟩ := List.mem_map.mp isItem
        rw [isWorst]
        unfold ranked
        split
        · rw [extreme.beats_eq extreme.isUndefined_worst extreme.isUndefined_worst]
          exact decide_eq_false (Int.lt_irrefl _)
        · exact Bool.eq_false_iff.mpr (noneBetter number (List.mem_cons_of_mem _ isEntry))
      unfold foundIn Entries.extremum
      simp only [someDefined]
      change (do
        let (place, _) ← firstBest? extreme.beats ((first :: rest).map extreme.ranked)
        let number ← (first :: rest)[place]?
        return (number, place)) = _
      have stopped : firstBest? extreme.beats ((first :: rest).map extreme.ranked) =
          some (0, extreme.ranked first) := congrArg some (firstBestFrom_unbeaten unbeaten 1)
      rw [stopped]
      rfl

theorem foundIn_of_searches (searches : extreme.Searches entries) :
    extreme.foundIn entries = extreme.ofEntries entries :=
  Except.ok.inj (extremum_eq_foundIn.symm.trans (Entries.extremum_reals extreme entries searches))

/-- The search finds the first best of the defined entries, unless it stops at an undefined one. -/
theorem findsFirst_foundIn_iff :
    FindsFirst extreme entries (extreme.foundIn entries) ↔ extreme.Searches entries := by
  constructor
  · intro findsFirst
    by_contra stops
    obtain ⟨value, found, isUndefined⟩ := foundIn_of_not_searches stops
    rw [found] at findsFirst
    obtain ⟨_, isDefined, _⟩ := findsFirst
    rw [isUndefined] at isDefined
    cases isDefined
  · intro searches
    rw [foundIn_of_searches searches]
    exact findsFirst_ofEntries

theorem foundIn_eq_none_iff :
    extreme.foundIn entries = none ↔
      (entries.any fun number => !Scalar.isUndefined number) = false := by
  rw [List.any_eq_false]
  by_cases searches : extreme.Searches entries
  · have findsFirst := findsFirst_foundIn_iff.mpr searches
    cases found : extreme.foundIn entries with
    | none =>
        rw [found] at findsFirst
        refine iff_of_true rfl fun number isEntry => ?_
        rw [findsFirst number isEntry]
        exact Bool.false_ne_true
    | some item =>
        obtain ⟨value, place⟩ := item
        rw [found] at findsFirst
        obtain ⟨stands, isDefined, _⟩ := findsFirst
        refine iff_of_false nofun fun noneDefined => ?_
        have isUndefined := noneDefined value (List.mem_of_getElem? stands)
        rw [isDefined] at isUndefined
        exact isUndefined rfl
  · obtain ⟨value, found, _⟩ := foundIn_of_not_searches searches
    unfold Searches at searches
    push Not at searches
    obtain ⟨⟨_, other, isOther, otherDefined⟩, _⟩ := searches
    rw [found]
    refine iff_of_false nofun fun noneDefined => ?_
    have isUndefined := noneDefined other isOther
    rw [otherDefined] at isUndefined
    exact isUndefined rfl

/-- What is found is undefined exactly where the search stops at an undefined entry. -/
theorem isUndefined_foundIn {value : Float} {place : Nat}
    (found : extreme.foundIn entries = some (value, place)) :
    Scalar.isUndefined value = true ↔ ¬extreme.Searches entries := by
  constructor
  · intro isUndefined searches
    have findsFirst := findsFirst_foundIn_iff.mpr searches
    rw [found] at findsFirst
    obtain ⟨_, isDefined, _⟩ := findsFirst
    rw [isUndefined] at isDefined
    cases isDefined
  · intro stops
    obtain ⟨other, foundOther, isUndefined⟩ := foundIn_of_not_searches stops
    cases foundOther.symm.trans found
    exact isUndefined

theorem isDefined_of_beats {candidate best : Float} (beats : extreme.beats candidate best = true) :
    Scalar.isUndefined candidate = false ∧ Scalar.isUndefined best = false := by
  have candidateDefined : Scalar.isUndefined candidate = false := by
    by_contra isUndefined
    rw [extreme.beats_of_isUndefined best (by simpa using isUndefined)] at beats
    cases beats
  refine ⟨candidateDefined, ?_⟩
  by_contra isUndefined
  have noRank := orderRank?_of_isUndefined (by simpa using isUndefined)
  obtain ⟨rank, hasRank⟩ := isUndefined_eq_false.mp candidateDefined
  cases extreme with
  | least =>
      simp only [Extreme.beats, Scalar.lt, noRank, hasRank] at beats
      cases beats
  | greatest =>
      simp only [Extreme.beats, Scalar.lt, noRank] at beats
      cases beats

theorem beats_self (number : Float) : extreme.beats number number = false := by
  cases isUndefined : Scalar.isUndefined number with
  | true => exact extreme.beats_of_isUndefined number isUndefined
  | false =>
      rw [extreme.beats_eq isUndefined isUndefined]
      exact decide_eq_false (Int.lt_irrefl _)

theorem beats_trans {first second third : Float} (better : extreme.beats first second = true)
    (good : extreme.beats second third = true) : extreme.beats first third = true := by
  obtain ⟨firstDefined, secondDefined⟩ := isDefined_of_beats better
  obtain ⟨_, thirdDefined⟩ := isDefined_of_beats good
  rw [extreme.beats_eq firstDefined secondDefined, decide_eq_true_eq] at better
  rw [extreme.beats_eq secondDefined thirdDefined, decide_eq_true_eq] at good
  rw [extreme.beats_eq firstDefined thirdDefined, decide_eq_true_eq]
  exact Int.lt_trans better good

end Extreme

section Leading

variable {γ : Type} {extreme : Extreme} {value : γ → Float}

theorem isUndefined_foldl_leading (best : Option γ) (candidates : List (Option γ)) :
    (candidates.foldl (leading fun candidate best => extreme.beats (value candidate) (value best))
        best).map (fun item => Scalar.isUndefined (value item)) =
      (best <|> candidates.findSome? id).map fun item => Scalar.isUndefined (value item) := by
  induction candidates generalizing best with
  | nil => cases best <;> rfl
  | cons candidate rest inductionHypothesis =>
      rw [List.foldl_cons, inductionHypothesis]
      cases candidate with
      | none => cases best <;> rfl
      | some candidate =>
          cases best with
          | none => rfl
          | some best =>
              unfold leading
              simp only
              split
              · rename_i beats
                obtain ⟨candidateDefined, bestDefined⟩ := Extreme.isDefined_of_beats beats
                exact congrArg some (candidateDefined.trans bestDefined.symm)
              · rfl

/-- Who leads is as undefined as the first candidate: no one takes over from an undefined one, and
from a defined one only a defined one does. -/
theorem isUndefined_leader (extreme : Extreme) (value : γ → Float) (candidates : List (Option γ)) :
    (leader (fun candidate best => extreme.beats (value candidate) (value best)) candidates).map
        (fun item => Scalar.isUndefined (value item)) =
      (candidates.findSome? id).map fun item => Scalar.isUndefined (value item) :=
  isUndefined_foldl_leading none candidates

end Leading

end FieldSurvey
