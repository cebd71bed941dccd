import FieldSurvey.Proofs.Statistics.ExactShares
import FieldSurvey.Proofs.Statistics.FiniteRange
import FieldSurvey.Proofs.Statistics.Repartition

/-!
Sums, averages and extreme entries of one field agree with each other. All of them find nothing to
report exactly where no entry is defined, on every process of a group. In exact numbers the average
lies between the extreme entries.
-/

namespace FieldSurvey

open ProcessGroup Collective ExactNumber

section Datasets

variable {name : String} {datasets : List Dataset} {dataset : Dataset} {kind : GroupKind}

theorem Dataset.Resolves.of_holder (resolves : dataset.Resolves name) {holder : Domain × Field}
    (isHolder : holder ∈ dataset.holders name) {index : Nat} {number : Float}
    (stands : (holder.2.reals?.getD [])[index]? = some number) :
    (∃ position, holder.1.locate name (.ok index) = .ok position) ∧
      ∃ domainId, holder.1.id = .ok domainId ∧ -(2 ^ 63) ≤ domainId ∧ domainId < 2 ^ 64 := by
  obtain ⟨domain, isDomain, isField⟩ := List.mem_filterMap.mp isHolder
  obtain ⟨field, hasField, rfl⟩ := Option.map_eq_some_iff.mp isField
  obtain ⟨place, atPlace⟩ := List.getElem?_of_mem isDomain
  refine resolves place domain index number atPlace ?_
  unfold Dataset.entry?
  cases areReals : field.reals? with
  | none =>
      rw [areReals] at stands
      cases stands
  | some entries =>
      rw [areReals] at stands
      simp only [Option.bind_eq_bind, Option.bind_some, atPlace, hasField, areReals]
      exact stands

/-- A field of reals whose places can all be told is a share of plain columns. -/
theorem Dataset.exists_columns (holdsReals : HoldsReals name datasets)
    (isShare : dataset ∈ datasets) (resolves : dataset.Resolves name) :
    ∃ columns : List (PlainColumn Float),
      dataset.fieldShare (.text name) = .ofColumns name (Value.text name).spelled columns ∧
      columnNumbers columns = (dataset.holders name).flatMap fun holder => holder.2.reals?.getD [] := by
  let columns : List (PlainColumn Float) := (dataset.holders name).attach.map fun holder =>
    { part := holder.1.1.fieldPart name holder.1.2
      numbers := holder.1.2.reals?.getD []
      entries := holdsReals.entries_eq isShare holder.2
      places := fun _ _ => resolves.of_holder holder.2 }
  have areParts : columns.map PlainColumn.part =
      (dataset.holders name).map fun holder => holder.1.fieldPart name holder.2 := by
    rw [List.map_map]
    exact List.attach_map_val (f := fun holder : Domain × Field =>
      holder.1.fieldPart name holder.2)
  have areNumbers : columns.map PlainColumn.numbers =
      (dataset.holders name).map fun holder => holder.2.reals?.getD [] := by
    rw [List.map_map]
    exact List.attach_map_val (f := fun holder : Domain × Field => holder.2.reals?.getD [])
  refine ⟨columns, ?_, ?_⟩
  · unfold FieldShare.ofColumns
    rw [areParts]
    unfold Dataset.fieldShare
    rw [havingField_text]
    rfl
  · unfold columnNumbers
    rw [List.flatMap_def, areNumbers, ← List.flatMap_def]

theorem exists_columnsOf (holdsReals : HoldsReals name datasets)
    (resolves : ∀ dataset ∈ datasets, dataset.Resolves name) :
    ∃ columnsOf : Dataset → List (PlainColumn Float),
      (∀ dataset ∈ datasets, dataset.fieldShare (.text name) =
        .ofColumns name (Value.text name).spelled (columnsOf dataset)) ∧
      sharedNumbers columnsOf datasets = fieldEntries name datasets := by
  choose! columnsOf isShare hasNumbers using fun dataset isShare =>
    Dataset.exists_columns holdsReals isShare (resolves dataset isShare)
  refine ⟨columnsOf, isShare, ?_⟩
  unfold sharedNumbers fieldEntries fieldArrays
  rw [List.flatten_eq_flatMap, List.flatMap_assoc, List.flatMap_def, List.flatMap_def,
    List.map_congr_left hasNumbers]
  simp only [List.flatMap_map, id]

/-- A program that asks nothing but the share of a field runs on the columns. -/
theorem together_columns {β : Type} {label : String} {columnsOf : Dataset → List (PlainColumn Float)}
    (areColumns : ∀ dataset ∈ datasets, dataset.fieldShare (.text name) =
      .ofColumns name label (columnsOf dataset))
    (program : ProcessGroup → FieldShare Float → Collective Float β) :
    together kind (fun group dataset => program group (dataset.fieldShare (.text name))) datasets =
      together kind (fun group dataset =>
        program group (.ofColumns name label (columnsOf dataset))) datasets := by
  unfold together
  congr 1
  apply List.map_congr_left
  intro seat isSeat
  exact congrArg (program seat.1) (areColumns seat.2 (share_mem_of_mem_seats isSeat))

end Datasets

section Together

variable {kind : GroupKind} {name label : String}

/-- All processes fail for missing data. -/
def MissesData {α β ω : Type} (kind : GroupKind) (program : ProcessGroup → ω → Collective α β)
    (shares : List ω) : Prop :=
  ∃ cause, cause.category = .missingData ∧
    together kind program shares = shares.map fun _ => .error cause

/-- All processes return the same. -/
def Returns {α β ω : Type} (kind : GroupKind) (program : ProcessGroup → ω → Collective α β)
    (shares : List ω) (result : β) : Prop :=
  together kind program shares = shares.map fun _ => .ok result

section Doubles

/-- The average of a share of doubles, as it is answered. -/
def averageAnswer (group : ProcessGroup) (share : FieldShare Float) : Collective Float Answer := do
  return .scalar (.ofFloat (← share.average group))

variable {datasets : List Dataset} (connects : kind.Connects datasets.length)
  (holdsReals : HoldsReals name datasets) (resolves : ∀ dataset ∈ datasets, dataset.Resolves name)

include connects holdsReals resolves

theorem average_and_extrema_return (someDefined : ∃ number ∈ fieldEntries name datasets,
      Scalar.isUndefined number = false) :
    (∃ mean, Returns kind (Aggregate.average (.text name)).program datasets mean) ∧
      ∀ extreme, ∃ found, Returns kind (extremumProgram extreme (.text name)) datasets found := by
  obtain ⟨columnsOf, areColumns, sameNumbers⟩ := exists_columnsOf holdsReals resolves
  have notAll : ¬ ∀ number ∈ sharedNumbers columnsOf datasets,
      Scalar.isUndefined number = true := by
    intro noneDefined
    obtain ⟨number, isEntry, isDefined⟩ := someDefined
    rw [← sameNumbers] at isEntry
    rw [noneDefined number isEntry] at isDefined
    cases isDefined
  constructor
  · let total := sharedTotal columnsOf datasets
    refine ⟨.scalar (.ofFloat (total.total / Scalar.ofInt total.count)), ?_⟩
    refine (together_columns areColumns averageAnswer).trans ?_
    refine (together_average_ofColumns columnsOf connects fun mean =>
      Answer.scalar (.ofFloat mean)).trans ?_
    rw [FieldSum.mean?, if_neg ((sharedTotal_count_eq_zero_iff columnsOf).not.mpr notAll)]
    rfl
  · intro extreme
    cases elected : PlainColumn.elected? columnsOf extreme datasets with
    | none => exact absurd ((PlainColumn.elected?_eq_none_iff columnsOf).mp elected) notAll
    | some winner =>
        obtain ⟨value, rank⟩ := winner
        obtain ⟨domain, position, goesOn⟩ := together_extremum_of_elected columnsOf connects elected
        refine ⟨⟨value, rank, domain, position⟩, ?_⟩
        refine (together_columns areColumns fun group share =>
          share.loggedExtremum extreme group).trans ?_
        unfold FieldShare.loggedExtremum
        rw [goesOn, together_log]
        exact together_finish _

theorem average_and_extrema_miss (noneDefined : ∀ number ∈ fieldEntries name datasets,
      Scalar.isUndefined number = true) :
    MissesData kind (Aggregate.average (.text name)).program datasets ∧
      ∀ extreme, MissesData kind (extremumProgram extreme (.text name)) datasets := by
  obtain ⟨columnsOf, areColumns, sameNumbers⟩ := exists_columnsOf holdsReals resolves
  rw [← sameNumbers] at noneDefined
  constructor
  · refine ⟨.averageUndefined name, rfl, ?_⟩
    refine (together_columns areColumns averageAnswer).trans ?_
    refine (together_average_ofColumns columnsOf connects fun mean =>
      Answer.scalar (.ofFloat mean)).trans ?_
    rw [FieldSum.mean?, if_pos ((sharedTotal_count_eq_zero_iff columnsOf).mpr noneDefined)]
    rfl
  · intro extreme
    refine ⟨.noDefinedValues name, rfl, ?_⟩
    refine (together_columns areColumns fun group share =>
      share.loggedExtremum extreme group).trans ?_
    exact together_extremum_of_undefined columnsOf connects extreme noneDefined _

end Doubles

section Exact

/-- A program on the share of a field that consists of some columns. -/
def onColumns {α β : Type} (name label : String)
    (program : ProcessGroup → FieldShare α → Collective α β) (group : ProcessGroup)
    (columns : List (PlainColumn α)) : Collective α β :=
  program group (.ofColumns name label columns)

theorem together_onColumns {α β : Type} (program : ProcessGroup → FieldShare α → Collective α β)
    (processes : List (List (PlainColumn α))) :
    together kind (onColumns name label program) processes =
      together kind (fun group columns =>
        program group (.ofColumns name label (id columns)) >>= pure) processes := by
  simp only [bind_pure]
  rfl

variable {processes : List (List (PlainColumn ExactNumber))}
  (connects : kind.Connects processes.length) (plain : ArePlain (processes.flatMap columnNumbers))

include connects plain

theorem exactTotal_eq :
    sharedTotal id processes = ⟨finite (rationals (processes.flatMap columnNumbers)).sum,
      (rationals (processes.flatMap columnNumbers)).length⟩ :=
  sharedTotal_exact id (List.length_pos_iff.mp connects.pos) plain

/-- The sum of all defined entries and their number, wherever they are held. -/
theorem exact_sum_returns :
    Returns kind (onColumns name label FieldShare.sum) processes
      ⟨finite (rationals (processes.flatMap columnNumbers)).sum,
        (rationals (processes.flatMap columnNumbers)).length⟩ := by
  rw [← exactTotal_eq connects plain]
  refine (together_onColumns FieldShare.sum processes).trans ?_
  exact together_sum_ofColumns id connects Except.ok

theorem exact_average_returns (someDefined : rationals (processes.flatMap columnNumbers) ≠ []) :
    Returns kind (onColumns name label FieldShare.average) processes
      (finite ((rationals (processes.flatMap columnNumbers)).sum /
        (rationals (processes.flatMap columnNumbers)).length)) := by
  have hasLength : (rationals (processes.flatMap columnNumbers)).length ≠ 0 :=
    (List.length_pos_iff.mpr someDefined).ne'
  refine (together_onColumns FieldShare.average processes).trans ?_
  refine (together_average_ofColumns id connects fun mean => mean).trans ?_
  rw [exactTotal_eq connects plain, FieldSum.mean?, if_neg (Int.natCast_ne_zero.mpr hasLength)]
  simp only [ofInt_eq, Int.cast_natCast, finite_div _ (Nat.cast_ne_zero.mpr hasLength)]
  rfl

variable (name label) in
theorem exact_extremum_returns (extreme : Extreme)
    (someDefined : rationals (processes.flatMap columnNumbers) ≠ []) :
    ∃ found, Returns kind (onColumns name label (FieldShare.extremum extreme)) processes found ∧
      IsExtreme extreme (processes.flatMap columnNumbers) found.value := by
  cases elected : PlainColumn.elected? id extreme processes with
  | none =>
      obtain ⟨rational, isDefined⟩ := List.exists_mem_of_ne_nil _ someDefined
      have isUndefined := (PlainColumn.elected?_eq_none_iff id).mp elected _
        (mem_rationals.mp isDefined)
      cases isUndefined
  | some winner =>
      obtain ⟨value, rank⟩ := winner
      obtain ⟨domain, position, goesOn⟩ := together_extremum_of_elected id connects elected
      refine ⟨⟨value, rank, domain, position⟩, ?_, PlainColumn.elected?_isExtreme plain elected⟩
      refine (together_onColumns (FieldShare.extremum extreme) processes).trans ?_
      rw [goesOn]
      exact together_finish _

/-- The average lies between the extreme entries. -/
theorem exact_average_between (someDefined : rationals (processes.flatMap columnNumbers) ≠ []) :
    let defined := rationals (processes.flatMap columnNumbers)
    let mean := defined.sum / defined.length
    ∃ (low high : ℚ) (leastFound greatestFound : FieldExtremum ExactNumber),
      Returns kind (onColumns name label FieldShare.average) processes (finite mean) ∧
      Returns kind (onColumns name label (FieldShare.extremum .least)) processes leastFound ∧
      Returns kind (onColumns name label (FieldShare.extremum .greatest)) processes greatestFound ∧
      leastFound.value = finite low ∧ greatestFound.value = finite high ∧
      Spans defined low high ∧ low ≤ mean ∧ mean ≤ high := by
  intro defined mean
  obtain ⟨leastFound, leastReturns, isLeast⟩ := exact_extremum_returns name label
    connects plain .least someDefined
  obtain ⟨greatestFound, greatestReturns, isGreatest⟩ := exact_extremum_returns name label
    connects plain .greatest someDefined
  obtain ⟨low, isLow⟩ := exists_finite isLeast.isFinite
  obtain ⟨high, isHigh⟩ := exists_finite isGreatest.isFinite
  have spans : Spans defined low high := spans_of_isExtreme (isLow ▸ isLeast) (isHigh ▸ isGreatest)
  exact ⟨low, high, leastFound, greatestFound, exact_average_returns connects plain someDefined,
    leastReturns, greatestReturns, isLow, isHigh, spans, spans.mean_between⟩

end Exact

/-- Where some entry of a field of doubles is defined, all processes of a group return one average,
one least entry and one greatest entry; where none is, all processes fail for missing data, whichever
of these they are asked for. In exact numbers, none of them infinite, all processes return the sum
of all defined entries and their number; if there are any, they return the mean of these and the least
and the greatest of them, between which the mean lies. -/
theorem aggregates_cohere (kind : GroupKind) (name label : String) :
    (∀ datasets : List Dataset, kind.Connects datasets.length → HoldsReals name datasets →
      (∀ dataset ∈ datasets, dataset.Resolves name) →
      ((∃ number ∈ fieldEntries name datasets, Scalar.isUndefined number = false) →
        (∃ mean, Returns kind (Aggregate.average (.text name)).program datasets mean) ∧
        ∀ extreme, ∃ found, Returns kind (extremumProgram extreme (.text name)) datasets found) ∧
      ((∀ number ∈ fieldEntries name datasets, Scalar.isUndefined number = true) →
        MissesData kind (Aggregate.average (.text name)).program datasets ∧
        ∀ extreme, MissesData kind (extremumProgram extreme (.text name)) datasets)) ∧
    ∀ processes : List (List (PlainColumn ExactNumber)), kind.Connects processes.length →
      ArePlain (processes.flatMap columnNumbers) →
      let defined := rationals (processes.flatMap columnNumbers)
      let mean := defined.sum / defined.length
      Returns kind (onColumns name label FieldShare.sum) processes
        ⟨finite defined.sum, defined.length⟩ ∧
      (defined ≠ [] →
        ∃ (low high : ℚ) (leastFound greatestFound : FieldExtremum ExactNumber),
          Returns kind (onColumns name label FieldShare.average) processes (finite mean) ∧
          Returns kind (onColumns name label (FieldShare.extremum .least)) processes leastFound ∧
          Returns kind (onColumns name label (FieldShare.extremum .greatest)) processes
            greatestFound ∧
          leastFound.value = finite low ∧ greatestFound.value = finite high ∧
          Spans defined low high ∧ low ≤ mean ∧ mean ≤ high) := by
  constructor
  · intro datasets connects holdsReals resolves
    exact ⟨average_and_extrema_return connects holdsReals resolves,
      average_and_extrema_miss connects holdsReals resolves⟩
  · intro processes connects plain
    exact ⟨exact_sum_returns connects plain, exact_average_between connects plain⟩

/-- A column of rational numbers, some of them undefined. -/
def rationalColumn (numbers : List (Option ℚ)) : PlainColumn ExactNumber where
  part := ⟨.ok (.reals (numbers.map .ofRational)), fun _ => .ok ⟨finite 0, finite 0, finite 0⟩, .ok 0⟩
  numbers := numbers.map .ofRational
  entries := rfl
  places := fun _ _ _ => ⟨⟨_, rfl⟩, 0, rfl, by decide⟩

/-- Four defined entries in three columns on three processes, one of which holds nothing. -/
def spreadColumns : List (List (PlainColumn ExactNumber)) :=
  [[rationalColumn [some 1, none, some (1 / 2)]], [],
    [rationalColumn [some 1], rationalColumn [none, some 0]]]

/-- A vertex with an undefined entry. -/
def undefinedVertex : Dataset := [warmVertex 0 0 0x7ff8000000000000]

/-- Three vertices have an average, and a vertex whose only entry is undefined has neither an average
nor a least entry. The four rational entries, of 1, 1/2, 1 and 0, add up to 5/2. -/
theorem aggregates_cohere_for_spread :
    (∃ mean, Returns .lockstep (Aggregate.average (.text "warmth")).program [[], tiedVertices] mean) ∧
    MissesData .lockstep (Aggregate.average (.text "warmth")).program [[], undefinedVertex] ∧
    MissesData .lockstep (extremumProgram .least (.text "warmth")) [[], undefinedVertex] ∧
    Returns .lockstep (onColumns "warmth" "warmth" FieldShare.sum) spreadColumns
      ⟨finite (5 / 2), 4⟩ ∧
    Returns .lockstep (onColumns "warmth" "warmth" FieldShare.average) spreadColumns
      (finite (5 / 8)) ∧
    ∃ low high : ℚ, Spans [1, 1 / 2, 1, 0] low high ∧ low ≤ 5 / 8 ∧ 5 / 8 ≤ high := by
  have pair : GroupKind.lockstep.Connects 2 := by decide
  have nowhere : Dataset.Resolves "warmth" [] := by
    intro place domain index number stands
    cases stands
  have resolves : ∀ dataset ∈ [[], tiedVertices], Dataset.Resolves "warmth" dataset := by
    intro dataset isShare
    rcases List.mem_pair.mp isShare with rfl | rfl
    · exact nowhere
    · exact tiedVertices_resolve
  have undefinedResolves : ∀ dataset ∈ [[], undefinedVertex],
      Dataset.Resolves "warmth" dataset := by
    intro dataset isShare
    rcases List.mem_pair.mp isShare with rfl | rfl
    · exact nowhere
    · apply warmVertices_resolve
      intro domain isVertex
      exact ⟨0, _, _, List.mem_singleton.mp isVertex, by decide⟩
  have plain : ArePlain (spreadColumns.flatMap columnNumbers) := by decide +kernel
  have pooled : rationals (spreadColumns.flatMap columnNumbers) = [1, 1 / 2, 1, 0] := rfl
  obtain ⟨ofDoubles, ofExact⟩ := aggregates_cohere .lockstep "warmth" "warmth"
  obtain ⟨averaged, _⟩ := (ofDoubles [[], tiedVertices] pair (by decide +kernel) resolves).1
    (by decide +kernel)
  obtain ⟨averageMissing, extremaMissing⟩ := (ofDoubles [[], undefinedVertex] pair (by decide +kernel)
    undefinedResolves).2 (by decide +kernel)
  obtain ⟨summed, between⟩ := ofExact spreadColumns (by decide) plain
  have total : ([1, 1 / 2, 1, 0] : List ℚ).sum = 5 / 2 := by norm_num
  have mean : ([1, 1 / 2, 1, 0] : List ℚ).sum / ([1, 1 / 2, 1, 0] : List ℚ).length = 5 / 8 := by
    norm_num
  rw [pooled, total] at summed
  rw [pooled, mean] at between
  obtain ⟨low, high, _, _, exactAverage, _, _, _, _, spans, atLeast, atMost⟩ :=
    between (List.cons_ne_nil _ _)
  exact ⟨averaged, averageMissing, extremaMissing .least, summed, exactAverage, low, high, spans,
    atLeast, atMost⟩

end Together

end FieldSurvey
