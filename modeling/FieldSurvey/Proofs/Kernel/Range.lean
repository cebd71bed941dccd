import FieldSurvey.Proofs.Group.Exchange
import FieldSurvey.Proofs.Kernel.Extremum

/-!
The least and the greatest of some doubles, however they are grouped. Joining two numbers keeps one
of them that the other does not beat. So numbers that are kept of several lists can be joined in
their place. The infinity that a search starts from counts as one of the numbers; it is kept just if
there is nothing finite.
-/

namespace FieldSurvey

/-- One of some defined numbers that none of them beats. -/
structure IsBest (extreme : Extreme) (numbers : List Float) (best : Float) : Prop where
  isMember : best ∈ numbers
  areDefined : ∀ number ∈ numbers, Scalar.isUndefined number = false
  unbeaten : ∀ number ∈ numbers, extreme.beats number best = false

/-- Of two defined numbers the second is kept only if it beats the first. -/
def Extreme.Keeps (extreme : Extreme) (join : Float → Float → Float) : Prop :=
  ∀ first second, Scalar.isUndefined first = false → Scalar.isUndefined second = false →
    join first second = if extreme.beats second first then second else first

namespace Extreme

theorem keeps_lesser : least.Keeps Scalar.lesser := fun _ _ _ _ => rfl

theorem keeps_greater : greatest.Keeps Scalar.greater := fun _ _ _ _ => rfl

theorem keeps_minimum : least.Keeps Scalar.minimum := by
  intro first second firstDefined secondDefined
  unfold Scalar.minimum
  rw [firstDefined, secondDefined]
  rfl

theorem keeps_maximum : greatest.Keeps Scalar.maximum := by
  intro first second firstDefined secondDefined
  unfold Scalar.maximum
  rw [firstDefined, secondDefined]
  rfl

theorem beats_worst_of_isFinite (extreme : Extreme) {number : Float}
    (isFinite : Scalar.isFinite number = true) : extreme.beats number extreme.worst = true := by
  obtain ⟨rank, hasRank, _⟩ := orderRank?_of_isFinite isFinite
  rw [extreme.beats_eq (isUndefined_eq_false.mpr ⟨rank, hasRank⟩) extreme.isUndefined_worst]
  exact decide_eq_true (extreme.key_lt_key_worst isFinite)

end Extreme

namespace IsBest

variable {ι : Type} {extreme : Extreme} {join : Float → Float → Float} {best number : Float}
  {numbers earlier later : List Float} {items : List ι} {candidates : ι → List Float}
  {bests : ι → Float}

theorem isDefined (isBest : IsBest extreme numbers best) : Scalar.isUndefined best = false :=
  isBest.areDefined best isBest.isMember

theorem key_le (isBest : IsBest extreme numbers best) (isMember : number ∈ numbers) :
    extreme.key best ≤ extreme.key number := by
  have notBetter := isBest.unbeaten number isMember
  rw [extreme.beats_eq (isBest.areDefined number isMember) isBest.isDefined,
    decide_eq_false_iff_not] at notBetter
  exact Int.not_lt.mp notBetter

theorem of_key_le (isMember : best ∈ numbers)
    (areDefined : ∀ number ∈ numbers, Scalar.isUndefined number = false)
    (least : ∀ number ∈ numbers, extreme.key best ≤ extreme.key number) :
    IsBest extreme numbers best := by
  refine ⟨isMember, areDefined, fun number isNumber => ?_⟩
  rw [extreme.beats_eq (areDefined number isNumber) (areDefined best isMember)]
  exact decide_eq_false (Int.not_lt.mpr (least number isNumber))

theorem singleton (isDefined : Scalar.isUndefined number = false) :
    IsBest extreme [number] number := by
  refine of_key_le List.mem_cons_self ?_ ?_
  · intro other isOther
    rwa [List.mem_singleton.mp isOther]
  · intro other isOther
    obtain rfl := List.mem_singleton.mp isOther
    exact Int.le_refl _

theorem append (keeps : extreme.Keeps join) {second : Float} (first : IsBest extreme earlier best)
    (next : IsBest extreme later second) :
    IsBest extreme (earlier ++ later) (join best second) := by
  have areDefined : ∀ number ∈ earlier ++ later, Scalar.isUndefined number = false := by
    intro number isMember
    rcases List.mem_append.mp isMember with isEarlier | isLater
    · exact first.areDefined number isEarlier
    · exact next.areDefined number isLater
  have kept : join best second ∈ earlier ++ later ∧
      extreme.key (join best second) ≤ extreme.key best ∧
      extreme.key (join best second) ≤ extreme.key second := by
    rw [keeps best second first.isDefined next.isDefined,
      extreme.beats_eq next.isDefined first.isDefined]
    simp only [decide_eq_true_eq]
    split
    · rename_i isBetter
      exact ⟨List.mem_append_right _ next.isMember, Int.le_of_lt isBetter, Int.le_refl _⟩
    · rename_i notBetter
      exact ⟨List.mem_append_left _ first.isMember, Int.le_refl _, Int.not_lt.mp notBetter⟩
  obtain ⟨isMember, atMostFirst, atMostNext⟩ := kept
  refine of_key_le isMember areDefined fun number isNumber => ?_
  rcases List.mem_append.mp isNumber with isEarlier | isLater
  · exact Int.le_trans atMostFirst (first.key_le isEarlier)
  · exact Int.le_trans atMostNext (next.key_le isLater)

/-- What has been kept of several lists is joined to what has been kept so far. -/
theorem foldl (keeps : extreme.Keeps join)
    (each : ∀ item ∈ items, IsBest extreme (candidates item) (bests item))
    (first : IsBest extreme earlier best) :
    IsBest extreme (earlier ++ items.flatMap candidates) ((items.map bests).foldl join best) := by
  induction items generalizing earlier best with
  | nil =>
      rw [List.flatMap_nil, List.append_nil]
      exact first
  | cons item rest inductionHypothesis =>
      rw [List.flatMap_cons, ← List.append_assoc]
      exact inductionHypothesis (fun other isLater => each other (List.mem_cons_of_mem _ isLater))
        (first.append keeps (each item List.mem_cons_self))

theorem joinReals (keeps : extreme.Keeps join)
    (each : ∀ item ∈ items, IsBest extreme (candidates item) (bests item)) (someItem : items ≠ []) :
    IsBest extreme (items.flatMap candidates) (joinReals join (items.map bests)) := by
  cases items with
  | nil => exact absurd rfl someItem
  | cons item rest =>
      exact (each item List.mem_cons_self).foldl keeps
        fun other isLater => each other (List.mem_cons_of_mem _ isLater)

/-- The infinity that a search starts from is not kept if there is anything finite. -/
theorem isFinite_of_any (isBest : IsBest extreme numbers best)
    (orFinite : ∀ number ∈ numbers, number = extreme.worst ∨ Scalar.isFinite number = true)
    (isMember : number ∈ numbers) (isFinite : Scalar.isFinite number = true) :
    Scalar.isFinite best = true := by
  refine (orFinite best isBest.isMember).resolve_left ?_
  rintro rfl
  have unbeaten := isBest.unbeaten number isMember
  rw [extreme.beats_worst_of_isFinite isFinite] at unbeaten
  cases unbeaten

end IsBest

namespace Entries

theorem span_eq_joinReals {numbers : List Float} (someNumber : numbers ≠ []) :
    span numbers =
      some (joinReals Scalar.minimum numbers, joinReals Scalar.maximum numbers) := by
  cases numbers with
  | nil => exact absurd rfl someNumber
  | cons first rest => rfl

/-- The range of an array is that of its finite entries, if it has any. -/
theorem finiteRange_reals (entries : List Float) :
    (reals entries).finiteRange = .ok none ∧ entries.filter Scalar.isFinite = [] ∨
      ∃ low high, (reals entries).finiteRange = .ok (some (low, high)) ∧
        IsBest .least (entries.filter Scalar.isFinite) low ∧
        IsBest .greatest (entries.filter Scalar.isFinite) high := by
  by_cases someFinite : entries.filter Scalar.isFinite = []
  · refine .inl ⟨?_, someFinite⟩
    show Except.ok (span (entries.filter Scalar.isFinite)) = _
    rw [someFinite]
    rfl
  · have alone (extreme : Extreme) : ∀ number ∈ entries.filter Scalar.isFinite,
        IsBest extreme [number] number := by
      intro number isFinite
      obtain ⟨rank, hasRank, _⟩ := Extreme.orderRank?_of_isFinite (List.mem_filter.mp isFinite).2
      exact .singleton (Extreme.isUndefined_eq_false.mpr ⟨rank, hasRank⟩)
    have low := IsBest.joinReals Extreme.keeps_minimum (alone .least) someFinite
    have high := IsBest.joinReals Extreme.keeps_maximum (alone .greatest) someFinite
    rw [List.map_id', List.flatMap_singleton'] at low high
    exact .inr ⟨_, _, congrArg Except.ok (span_eq_joinReals someFinite), low, high⟩

end Entries

end FieldSurvey
