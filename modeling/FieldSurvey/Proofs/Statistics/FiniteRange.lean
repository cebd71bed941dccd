import FieldSurvey.Proofs.Binary.Doubles
import FieldSurvey.Proofs.Group.Shares
import FieldSurvey.Proofs.Kernel.Range
import FieldSurvey.Proofs.Statistics.Aggregates
import FieldSurvey.Proofs.Statistics.Search

/-!
The range of the finite entries of a field over a group. Every process starts from the infinities,
so a process without finite entries hands these in, and a group without finite entries ends with
them. They are in the wrong order, and no two entries are.
-/

namespace FieldSurvey

open ProcessGroup Collective

/-- All entries of a field, by rank and then by domain. -/
def fieldEntries (name : String) (datasets : List Dataset) : List Float :=
  (fieldArrays name datasets).flatten

def Dataset.finiteEntries (name : String) (dataset : Dataset) : List Float :=
  (dataset.holders name).flatMap fun holder =>
    (holder.2.reals?.getD []).filter Scalar.isFinite

/-- The least and the greatest finite entry. -/
structure IsFiniteRange (entries : List Float) (low high : Float) : Prop where
  lowStands : low ∈ entries
  highStands : high ∈ entries
  lowFinite : Scalar.isFinite low = true
  highFinite : Scalar.isFinite high = true
  bounds : ∀ number ∈ entries, Scalar.isFinite number = true →
    Scalar.le low number = true ∧ Scalar.le number high = true

section Ends

variable {name : String} {datasets : List Dataset} {dataset : Dataset} {kind : GroupKind}
  {number low high : Float}

theorem mem_finiteEntries : (∃ dataset ∈ datasets, number ∈ dataset.finiteEntries name) ↔
    number ∈ fieldEntries name datasets ∧ Scalar.isFinite number = true := by
  unfold Dataset.finiteEntries fieldEntries fieldArrays
  simp only [List.mem_flatMap, List.mem_filter, List.mem_flatten, List.mem_map]
  constructor
  · rintro ⟨dataset, isShare, holder, isHolder, isEntry, isFinite⟩
    exact ⟨⟨_, ⟨dataset, isShare, holder, isHolder, rfl⟩, isEntry⟩, isFinite⟩
  · rintro ⟨⟨_, ⟨dataset, isShare, holder, isHolder, rfl⟩, isEntry⟩, isFinite⟩
    exact ⟨dataset, isShare, holder, isHolder, isEntry, isFinite⟩

/-- What is kept of the finite entries of a process, the infinity that the search starts from being
one of the candidates. -/
def IsOwnBest (extreme : Extreme) (name : String) (dataset : Dataset) (best : Float) : Prop :=
  IsBest extreme (extreme.worst :: dataset.finiteEntries name) best

theorem ownRange_isBest (holdsReals : HoldsReals name datasets) (isShare : dataset ∈ datasets) :
    ∃ range, (dataset.fieldShare (.text name)).ownRange = .ok range ∧
      IsOwnBest .least name dataset range.1 ∧ IsOwnBest .greatest name dataset range.2 := by
  let finiteIn : Domain × Field → List Float := fun holder =>
    (holder.2.reals?.getD []).filter Scalar.isFinite
  unfold FieldShare.ownRange FieldShare.foldEntries Dataset.fieldShare
  simp only [havingField_text, ok_bind, pure_eq_ok, List.foldlM_map]
  refine foldlM_reaches (fun passed (range : Float × Float) =>
    IsBest .least (Extreme.least.worst :: passed.flatMap finiteIn) range.1 ∧
      IsBest .greatest (Extreme.greatest.worst :: passed.flatMap finiteIn) range.2) ?_ ?_
  · rintro passed holder range isHolder ⟨isLow, isHigh⟩
    have isPart : (holder.1.fieldPart (Value.text name).spelled holder.2).entries = _ :=
      holdsReals.entries_eq isShare isHolder
    simp only [isPart, ok_bind, List.flatMap_append, List.flatMap_singleton]
    rcases Entries.finiteRange_reals (holder.2.reals?.getD []) with
      ⟨isNone, noneFinite⟩ | ⟨least, greatest, isSome, isLeast, isGreatest⟩
    · have unchanged : finiteIn holder = [] := noneFinite
      simp only [isNone, ok_bind, unchanged, List.append_nil]
      exact ⟨_, rfl, isLow, isHigh⟩
    · simp only [isSome, ok_bind]
      exact ⟨_, rfl, isLow.append Extreme.keeps_lesser isLeast,
        isHigh.append Extreme.keeps_greater isGreatest⟩
  · exact ⟨.singleton (Extreme.isUndefined_worst .least),
      .singleton (Extreme.isUndefined_worst .greatest)⟩

/-- What is kept over a group is an infinity just if no process has a finite entry. -/
theorem isBest_of_group {extreme : Extreme} {join : Float → Float → Float} {own : Dataset → Float}
    (keeps : extreme.Keeps join) (someShare : datasets ≠ [])
    (each : ∀ dataset ∈ datasets, IsOwnBest extreme name dataset (own dataset)) :
    let best := joinReals join (datasets.map own)
    ((∀ number ∈ fieldEntries name datasets, Scalar.isFinite number = false) →
      best = extreme.worst) ∧
    ((∃ number ∈ fieldEntries name datasets, Scalar.isFinite number = true) →
      best ∈ fieldEntries name datasets ∧ Scalar.isFinite best = true ∧
      ∀ number ∈ fieldEntries name datasets, Scalar.isFinite number = true →
        extreme.beats number best = false) := by
  intro best
  have isBest := IsBest.joinReals keeps each someShare
  have isCandidate : ∀ number, number ∈ datasets.flatMap (fun dataset =>
      (extreme.worst :: dataset.finiteEntries name : List Float)) →
      number = extreme.worst ∨
        number ∈ fieldEntries name datasets ∧ Scalar.isFinite number = true := by
    intro number isMember
    obtain ⟨dataset, isShare, isMember⟩ := List.mem_flatMap.mp isMember
    rcases List.mem_cons.mp isMember with isWorst | isFinite
    · exact .inl isWorst
    · exact .inr (mem_finiteEntries.mp ⟨dataset, isShare, isFinite⟩)
  have finiteCandidate : ∀ number ∈ fieldEntries name datasets, Scalar.isFinite number = true →
      number ∈ datasets.flatMap fun dataset =>
        (extreme.worst :: dataset.finiteEntries name : List Float) := by
    intro number isEntry isFinite
    obtain ⟨dataset, isShare, isOwn⟩ := mem_finiteEntries.mpr ⟨isEntry, isFinite⟩
    exact List.mem_flatMap.mpr ⟨dataset, isShare, List.mem_cons_of_mem _ isOwn⟩
  constructor
  · intro noneFinite
    refine (isCandidate best isBest.isMember).resolve_right ?_
    rintro ⟨isEntry, isFinite⟩
    rw [noneFinite best isEntry] at isFinite
    cases isFinite
  · rintro ⟨number, isEntry, isFinite⟩
    have bestFinite : Scalar.isFinite best = true :=
      isBest.isFinite_of_any (fun other isOther => (isCandidate other isOther).imp_right And.right)
        (finiteCandidate number isEntry isFinite) isFinite
    refine ⟨?_, bestFinite, fun other isOther otherFinite =>
      isBest.unbeaten other (finiteCandidate other isOther otherFinite)⟩
    refine ((isCandidate best isBest.isMember).resolve_left fun isWorst => ?_).1
    have unbeaten := isBest.unbeaten number (finiteCandidate number isEntry isFinite)
    rw [show joinReals join (datasets.map own) = extreme.worst from isWorst,
      extreme.beats_worst_of_isFinite isFinite] at unbeaten
    cases unbeaten

theorem le_of_not_lt {left right : Float} (leftFinite : Scalar.isFinite left = true)
    (rightFinite : Scalar.isFinite right = true) (notLess : Scalar.lt right left = false) :
    Scalar.le left right = true := by
  obtain ⟨leftRank, hasLeft, _⟩ := isFinite_iff.mp leftFinite
  obtain ⟨rightRank, hasRight, _⟩ := isFinite_iff.mp rightFinite
  rw [lt_eq hasRight hasLeft, decide_eq_false_iff_not] at notLess
  rw [le_eq hasLeft hasRight]
  exact decide_eq_true (Int.not_lt.mp notLess)

section Together

variable {β : Type}

/-- What the processes found is joined, and the join is the range unless it is in the wrong order. -/
theorem together_joinedRange (connects : kind.Connects datasets.length) {own : Dataset → Float × Float}
    (finds : ∀ dataset ∈ datasets, (dataset.fieldShare (.text name)).ownRange = .ok (own dataset))
    (next : ProcessGroup → Dataset → Float × Float → Collective Float β) :
    let low := joinReals Scalar.minimum (datasets.map fun dataset => (own dataset).1)
    let high := joinReals Scalar.maximum (datasets.map fun dataset => (own dataset).2)
    together kind (fun group dataset =>
        (dataset.fieldShare (.text name)).finiteRange group >>= next group dataset) datasets =
      together kind (fun group dataset =>
        (if Scalar.lt high low then Collective.fail (.noFiniteValues name) else pure (low, high)) >>=
          next group dataset) datasets := by
  unfold FieldShare.finiteRange
  simp only [liftM_eq_ofExcept, bind_bind]
  rw [together_own_step _ own finds, together_reduceReal connects rfl,
    together_reduceReal connects rfl]
  rfl

/-- The processes go on with the least and the greatest finite entry of all of them, and if there is
none, all fail. -/
theorem together_finiteRange (connects : kind.Connects datasets.length)
    (holdsReals : HoldsReals name datasets)
    (next : ProcessGroup → Dataset → Float × Float → Collective Float β) :
    ((∃ number ∈ fieldEntries name datasets, Scalar.isFinite number = true) →
      ∃ low high, IsFiniteRange (fieldEntries name datasets) low high ∧
        together kind (fun group dataset =>
          (dataset.fieldShare (.text name)).finiteRange group >>= next group dataset) datasets =
        together kind (fun group dataset => next group dataset (low, high)) datasets) ∧
    ((∀ number ∈ fieldEntries name datasets, Scalar.isFinite number = false) →
      together kind (fun group dataset =>
          (dataset.fieldShare (.text name)).finiteRange group >>= next group dataset) datasets =
        datasets.map fun _ => .error (.noFiniteValues name)) := by
  obtain ⟨own, finds⟩ := exists_results fun dataset isShare =>
    (ownRange_isBest holdsReals isShare).imp fun _ found => found.1
  have bests : ∀ dataset ∈ datasets, IsOwnBest .least name dataset (own dataset).1 ∧
      IsOwnBest .greatest name dataset (own dataset).2 := by
    intro dataset isShare
    obtain ⟨range, found, isLow, isHigh⟩ := ownRange_isBest holdsReals isShare
    cases found.symm.trans (finds dataset isShare)
    exact ⟨isLow, isHigh⟩
  have someShare : datasets ≠ [] := List.length_pos_iff.mp connects.pos
  have lowOf := isBest_of_group Extreme.keeps_minimum someShare fun dataset isShare =>
    (bests dataset isShare).1
  have highOf := isBest_of_group Extreme.keeps_maximum someShare fun dataset isShare =>
    (bests dataset isShare).2
  rw [together_joinedRange connects finds next]
  generalize joinReals Scalar.minimum (datasets.map fun dataset => (own dataset).1) = low at lowOf ⊢
  generalize joinReals Scalar.maximum (datasets.map fun dataset => (own dataset).2) = high
    at highOf ⊢
  constructor
  · intro someFinite
    obtain ⟨lowStands, lowFinite, lowBest⟩ := lowOf.2 someFinite
    obtain ⟨highStands, highFinite, highBest⟩ := highOf.2 someFinite
    have inOrder : Scalar.lt high low = false := lowBest high highStands highFinite
    refine ⟨low, high, ⟨lowStands, highStands, lowFinite, highFinite, ?_⟩, ?_⟩
    · intro number isEntry isFinite
      exact ⟨le_of_not_lt lowFinite isFinite (lowBest number isEntry isFinite),
        le_of_not_lt isFinite highFinite (highBest number isEntry isFinite)⟩
    · simp only [inOrder, Bool.false_eq_true, if_false]
      rfl
  · intro noneFinite
    have reversed : Scalar.lt high low = true := by
      rw [lowOf.1 noneFinite, highOf.1 noneFinite]
      decide +kernel
    simp only [reversed, if_true]
    exact together_finish (.error (.noFiniteValues name))

end Together

end Ends

namespace Aggregate

/-- All processes return the least and the greatest finite entry of all of them, and if there is
none, all fail for missing data. -/
theorem finiteRange_of_all_entries {name : String} {kind : GroupKind} {datasets : List Dataset}
    (connects : kind.Connects datasets.length) (holdsReals : HoldsReals name datasets) :
    ((∃ number ∈ fieldEntries name datasets, Scalar.isFinite number = true) →
      ∃ low high, IsFiniteRange (fieldEntries name datasets) low high ∧
        together kind (finiteRange (.text name)).program datasets =
          datasets.map fun _ => .ok (.range low high)) ∧
    ((∀ number ∈ fieldEntries name datasets, Scalar.isFinite number = false) →
      together kind (finiteRange (.text name)).program datasets =
          datasets.map (fun _ => .error (.noFiniteValues name)) ∧
        (Error.noFiniteValues name).category = .missingData) := by
  obtain ⟨returns, fails⟩ := together_finiteRange connects holdsReals
    fun _ _ range => Collective.ofExcept (.ok (Answer.range range.1 range.2))
  refine ⟨fun someFinite => ?_, fun noneFinite => ⟨fails noneFinite, rfl⟩⟩
  obtain ⟨low, high, isRange, ends⟩ := returns someFinite
  exact ⟨low, high, isRange, ends.trans (together_finish (.ok (Answer.range low high)))⟩

/-- Of an undefined entry, an infinity and a 1 only the last counts, and without it there is no
range. -/
theorem finiteRange_of_all_entries_in_glow :
    GroupKind.lockstep.Connects 2 ∧
    HoldsReals "warmth" [[glowDomain], [warmDomain "vertex"]] ∧
    HoldsReals "warmth" [[], [glowDomain]] ∧
    (∃ low high, IsFiniteRange [Scalar.undefined, Scalar.infinity, 1.0] low high ∧
      together .lockstep (finiteRange (.text "warmth")).program
        [[glowDomain], [warmDomain "vertex"]] = [.ok (.range low high), .ok (.range low high)]) ∧
    together .lockstep (finiteRange (.text "warmth")).program [[], [glowDomain]] =
      [.error (.noFiniteValues "warmth"), .error (.noFiniteValues "warmth")] := by
  have inGroup : GroupKind.lockstep.Connects 2 := by decide
  have glows : HoldsReals "warmth" [[], [glowDomain]] := by decide +kernel
  have warms : HoldsReals "warmth" [[glowDomain], [warmDomain "vertex"]] := by decide +kernel
  have entries : fieldEntries "warmth" [[glowDomain], [warmDomain "vertex"]] =
      [Scalar.undefined, Scalar.infinity, 1.0] := by decide +kernel
  obtain ⟨returns, _⟩ := finiteRange_of_all_entries inGroup warms
  obtain ⟨_, fails⟩ := finiteRange_of_all_entries inGroup glows
  rw [entries] at returns
  exact ⟨inGroup, warms, glows, returns (by decide +kernel), (fails (by decide +kernel)).1⟩

end Aggregate

end FieldSurvey
