import FieldSurvey.Proofs.Agreement.Ballots

/-!
Votes on the element type of arrays. In each domain that defines what is asked for, a process looks
at one array only: the first component of a field, the first axis of coordinates. So the vote settles
what the types of these leading arrays are, and it speaks for all arrays exactly if the others have
no type that a leading one would have had to report.
-/

namespace FieldSurvey

open ProcessGroup

/-- The two widths of real numbers that fields and coordinates are meant to have. -/
def ElementType.IsFloating (type : ElementType) : Prop :=
  type = .float .single ∨ type = .float .double

instance (type : ElementType) : Decidable type.IsFloating :=
  inferInstanceAs (Decidable (_ ∨ _))

theorem Dataset.notFloating?_isSome {types : List ElementType} :
    (Dataset.notFloating? types).isSome = true ↔ ∃ type ∈ types, ¬ type.IsFloating := by
  simp [Dataset.notFloating?, ElementType.IsFloating, not_or]

/-- The types of all arrays of a field: a single one, or one for each component. -/
def Field.arrayTypes (field : Field) : List ElementType :=
  match field.values with
  | .scalar column => [column.elementType]
  | .components columns => columns.map fun component => component.2.elementType

/-- The type of a field is that of its first array. -/
theorem Field.head?_arrayTypes {field : Field} {type : ElementType}
    (isType : field.elementType = .ok type) : field.arrayTypes.head? = some type := by
  unfold elementType at isType
  unfold arrayTypes
  split at isType <;> rename_i isValues
  · rw [isValues]
    exact congrArg some (Except.ok.inj isType)
  · rw [isValues]
    exact congrArg some (Except.ok.inj isType)
  · cases isType

namespace Domain

/-- The types of all arrays that a domain stores for a field. -/
def fieldTypes (name : String) (domain : Domain) : List ElementType :=
  match domain.fields.find? name with
  | some field => field.arrayTypes
  | none => []

/-- The coordinate set that is looked up for a topology, under the first one if the name is empty. -/
def coordsetBehind (name : String) (domain : Domain) : Except Error Coordset := do
  let found ← domain.chooseTopology (.text name)
  domain.coordset found

/-- The types of all arrays of coordinates that a domain stores for a topology. -/
def axisTypes (name : String) (domain : Domain) : List ElementType :=
  if domain.hasTopology name then
    match domain.coordsetBehind name with
    | .ok coordset => coordset.columns.map Column.elementType
    | .error _ => []
  else []

end Domain

namespace Ballot

/-- The types of all arrays that a ballot on types is about. -/
def arrayTypes (ballot : Ballot) (name : String) (domain : Domain) : List ElementType :=
  match ballot with
  | fieldType => domain.fieldTypes name
  | coordinateType => domain.axisTypes name
  | _ => []

/-- The type of the one array that a process looks at. -/
def leadingType? (ballot : Ballot) (name : String) (domain : Domain) : Option ElementType :=
  (ballot.arrayTypes name domain).head?

/-- What a ballot on types finds in a domain whose leading array has a type, or that has none. -/
def typeFinding (ballot : Ballot) (leading : Option ElementType) : Finding where
  first := leading.toList.contains (.float .single)
  second := match ballot with
    | fieldType => leading.toList.contains (.float .double)
    | _ => false
  objection := Dataset.notFloating? leading.toList

/-- The ballots on the element type of arrays. -/
def AsksType (ballot : Ballot) : Prop := ballot = fieldType ∨ ballot = coordinateType

/-- Types can be looked up wherever they are asked for: a field has a component, and a topology has a
coordinate set that fits. -/
def HasTypes (ballot : Ballot) (name : String) (domain : Domain) : Prop :=
  match ballot with
  | fieldType => ∀ field, domain.fields.find? name = some field → field.values ≠ .components []
  | coordinateType =>
      domain.hasTopology name = true → ∃ coordset, domain.coordsetBehind name = .ok coordset
  | _ => True

section Domains

variable {ballot : Ballot} {name : String} {domain : Domain}

theorem look_of_undefined_type (asksType : ballot.AsksType)
    (undefined : ballot.defines name domain = false) :
    (ballot.query name).look [domain] = .ok (ballot.typeFinding (ballot.leadingType? name domain)) := by
  have noTypes : ballot.arrayTypes name domain = [] := by
    obtain rfl | rfl := asksType
    · simp only [defines, Domain.hasField, Registry.has, Option.isSome_eq_false_iff,
        Option.isNone_iff_eq_none] at undefined
      simp only [arrayTypes, Domain.fieldTypes, undefined]
    · simp only [defines] at undefined
      simp [arrayTypes, Domain.axisTypes, undefined]
  unfold leadingType?
  rw [look_of_undefined undefined, noTypes]
  obtain rfl | rfl := asksType <;> rfl

/-- A domain that defines what is asked for reports the type of its leading array, and no other. -/
theorem look_eq_leading (asksType : ballot.AsksType) (hasTypes : ballot.HasTypes name domain) :
    (ballot.query name).look [domain] = .ok (ballot.typeFinding (ballot.leadingType? name domain)) := by
  cases isDefined : ballot.defines name domain with
  | false => exact look_of_undefined_type asksType isDefined
  | true =>
      obtain rfl | rfl := asksType
      · obtain ⟨field, has⟩ := Option.isSome_iff_exists.mp isDefined
        obtain ⟨type, isType⟩ := elementType_of_columns (hasTypes field has)
        have isLeading : leadingType? fieldType name domain = some type := by
          simp only [leadingType?, arrayTypes, Domain.fieldTypes, has]
          exact Field.head?_arrayTypes isType
        rw [look_type has isType, isLeading]
        rfl
      · obtain ⟨topology, has⟩ := Option.isSome_iff_exists.mp isDefined
        obtain ⟨coordset, isBehind⟩ := hasTypes isDefined
        have isLeading : leadingType? coordinateType name domain =
            coordset.columns.head?.map Column.elementType := by
          have isStored : domain.hasTopology name = true := isDefined
          simp only [leadingType?, arrayTypes, Domain.axisTypes, isBehind, isStored, if_true,
            List.head?_map]
        have found : Dataset.coordinateType? (.text name) domain =
            .ok (coordset.columns.head?.map Column.elementType) := by
          obtain ⟨chosen, isChosen, isCoordset⟩ := bind_eq_ok.mp isBehind
          unfold Dataset.coordinateType?
          rw [isChosen, ok_bind, isCoordset, ok_bind]
          rfl
        rw [isLeading]
        simp only [query, MetadataQuery.look, Dataset.havingTopology, Dataset.having_text, has,
          List.filterMap_cons, Option.map_some, List.filterMap_nil, ok_bind, List.mapM_cons,
          List.mapM_nil, found, pure_eq_ok]
        cases coordset.columns.head? <;> rfl

theorem heard_of_hasTypes (asksType : ballot.AsksType) (hasTypes : ballot.HasTypes name domain) :
    (ballot.query name).look [domain] = .ok (ballot.testimony name domain) := by
  unfold testimony
  rw [look_eq_leading asksType hasTypes]

theorem testimony_eq_leading (asksType : ballot.AsksType) (hasTypes : ballot.HasTypes name domain) :
    ballot.testimony name domain = ballot.typeFinding (ballot.leadingType? name domain) := by
  unfold testimony
  rw [look_eq_leading asksType hasTypes]

end Domains

section Verdicts

variable {ballot : Ballot} {name : String} {domains : Dataset}

/-- The types that processes look at, those of the leading arrays of all domains. -/
def leadingTypes (ballot : Ballot) (name : String) (domains : Dataset) : List ElementType :=
  domains.filterMap (ballot.leadingType? name)

/-- The types of all arrays of all domains. -/
def allTypes (ballot : Ballot) (name : String) (domains : Dataset) : List ElementType :=
  domains.flatMap (ballot.arrayTypes name)

theorem leadingTypes_subset {type : ElementType}
    (isLeading : type ∈ ballot.leadingTypes name domains) : type ∈ ballot.allTypes name domains := by
  obtain ⟨domain, isDomain, isFirst⟩ := List.mem_filterMap.mp isLeading
  exact List.mem_flatMap.mpr ⟨domain, isDomain, List.mem_of_mem_head? isFirst⟩

/-- Where there is any array, there is a leading one. -/
theorem leadingTypes_eq_nil (noLeading : ballot.leadingTypes name domains = []) :
    ballot.allTypes name domains = [] := by
  refine List.flatMap_eq_nil_iff.mpr ?_
  intro domain isDomain
  have noFirst := List.filterMap_eq_nil_iff.mp noLeading domain isDomain
  exact List.head?_eq_none_iff.mp noFirst

section Testimonies

variable (asksType : ballot.AsksType) (hasTypes : ∀ domain ∈ domains, ballot.HasTypes name domain)

include asksType hasTypes

theorem any_testimony (flag : Finding → Bool) (reports : ElementType → Prop)
    (flags : ∀ leading : Option ElementType,
      flag (ballot.typeFinding leading) = true ↔ ∃ type ∈ leading, reports type) :
    (domains.map (ballot.testimony name)).any flag = true ↔
      ∃ type ∈ ballot.leadingTypes name domains, reports type := by
  rw [List.any_map, List.any_eq_true]
  constructor
  · rintro ⟨domain, isDomain, isFlagged⟩
    rw [Function.comp_apply, testimony_eq_leading asksType (hasTypes domain isDomain), flags]
      at isFlagged
    obtain ⟨type, isLeading, reported⟩ := isFlagged
    exact ⟨type, List.mem_filterMap.mpr ⟨domain, isDomain, isLeading⟩, reported⟩
  · rintro ⟨type, isLeading, reported⟩
    obtain ⟨domain, isDomain, isFirst⟩ := List.mem_filterMap.mp isLeading
    refine ⟨domain, isDomain, ?_⟩
    rw [Function.comp_apply, testimony_eq_leading asksType (hasTypes domain isDomain), flags]
    exact ⟨type, isFirst, reported⟩

theorem any_objects : (domains.map (ballot.testimony name)).any Finding.objects = true ↔
    ∃ type ∈ ballot.leadingTypes name domains, ¬ type.IsFloating := by
  apply any_testimony asksType hasTypes
  intro leading
  refine Dataset.notFloating?_isSome.trans ?_
  cases leading <;> simp

theorem any_single : (domains.map (ballot.testimony name)).any Finding.first = true ↔
    .float .single ∈ ballot.leadingTypes name domains := by
  rw [any_testimony asksType hasTypes Finding.first (· = .float .single)]
  · simp
  · intro leading
    cases leading <;> simp [typeFinding, eq_comm]

omit asksType in
theorem any_double (isFieldType : ballot = fieldType) :
    (domains.map (ballot.testimony name)).any Finding.second = true ↔
      .float .double ∈ ballot.leadingTypes name domains := by
  subst isFieldType
  rw [any_testimony (.inl rfl) hasTypes Finding.second (· = .float .double)]
  · simp
  · intro leading
    cases leading <;> simp [typeFinding, eq_comm]

end Testimonies

/-- What a vote on the type of a field comes to: the one type that all arrays have which are looked
at. -/
def sharedType (types : List ElementType) : Except ErrorCategory Answer :=
  if types = [] then .error .missingData
  else if ∀ type ∈ types, type = .float .single then .ok (.value (.text "float"))
  else if ∀ type ∈ types, type = .float .double then .ok (.value (.text "double"))
  else .error .consistency

/-- What a vote on the type of coordinates comes to: they are single where any array is that is looked
at. -/
def coarsestType (types : List ElementType) : Except ErrorCategory Answer :=
  if ∃ type ∈ types, ¬ type.IsFloating then .error .consistency
  else .ok (.value (.text (if .float .single ∈ types then "float" else "double")))

theorem verdict_fieldType (hasTypes : ∀ domain ∈ domains, fieldType.HasTypes name domain) :
    fieldType.verdict name domains = sharedType (fieldType.leadingTypes name domains) := by
  have objects := any_objects (.inl rfl) hasTypes
  have single := any_single (.inl rfl) hasTypes
  have double := any_double hasTypes rfl
  have differ : ElementType.float .single ≠ .float .double := by decide
  unfold verdict sharedType
  generalize fieldType.leadingTypes name domains = types at *
  have tells : (fieldType.query name).tells (domains.map (fieldType.testimony name)) =
      (domains.map (fieldType.testimony name)).any Finding.objects := rfl
  simp only [tells]
  by_cases someObjects : ∃ type ∈ types, ¬ type.IsFloating
  · obtain ⟨type, isLeading, notFloating⟩ := someObjects
    rw [if_pos (objects.mpr ⟨type, isLeading, notFloating⟩), if_neg (List.ne_nil_of_mem isLeading),
      if_neg fun allSingle => notFloating (.inl (allSingle type isLeading)),
      if_neg fun allDouble => notFloating (.inr (allDouble type isLeading))]
    rfl
  · have floating : ∀ type ∈ types, type.IsFloating := by
      intro type isLeading
      by_contra notFloating
      exact someObjects ⟨type, isLeading, notFloating⟩
    rw [if_neg (mt objects.mp someObjects)]
    by_cases isSingle : .float .single ∈ types
    · rw [single.mpr isSingle, if_neg (List.ne_nil_of_mem isSingle)]
      by_cases isDouble : .float .double ∈ types
      · rw [double.mpr isDouble, if_neg fun allSingle => differ (allSingle _ isDouble).symm,
          if_neg fun allDouble => differ (allDouble _ isSingle)]
        rfl
      · have allSingle : ∀ type ∈ types, type = .float .single := by
          intro type isLeading
          refine (floating type isLeading).resolve_right ?_
          rintro rfl
          exact isDouble isLeading
        rw [Bool.eq_false_iff.mpr (mt double.mp isDouble), if_pos allSingle]
        rfl
    · have allDouble : ∀ type ∈ types, type = .float .double := by
        intro type isLeading
        refine (floating type isLeading).resolve_left ?_
        rintro rfl
        exact isSingle isLeading
      rw [Bool.eq_false_iff.mpr (mt single.mp isSingle)]
      cases types with
      | nil =>
          rw [Bool.eq_false_iff.mpr (mt double.mp (by simp)), if_pos rfl]
          rfl
      | cons first rest =>
          have isDouble : .float .double ∈ first :: rest :=
            allDouble first List.mem_cons_self ▸ List.mem_cons_self
          rw [double.mpr isDouble, if_neg (List.cons_ne_nil _ _),
            if_neg fun allSingle => differ (allSingle _ isDouble).symm, if_pos allDouble]
          rfl

theorem verdict_coordinateType
    (hasTypes : ∀ domain ∈ domains, coordinateType.HasTypes name domain) :
    coordinateType.verdict name domains =
      coarsestType (coordinateType.leadingTypes name domains) := by
  have objects := any_objects (.inr rfl) hasTypes
  have single := any_single (.inr rfl) hasTypes
  unfold verdict coarsestType
  have tells : (coordinateType.query name).tells (domains.map (coordinateType.testimony name)) =
      (domains.map (coordinateType.testimony name)).any Finding.objects := rfl
  simp only [tells]
  by_cases someObjects : ∃ type ∈ coordinateType.leadingTypes name domains, ¬ type.IsFloating
  · rw [if_pos (objects.mpr someObjects), if_pos someObjects]
    rfl
  · rw [if_neg (mt objects.mp someObjects), if_neg someObjects]
    by_cases isSingle : .float .single ∈ coordinateType.leadingTypes name domains
    · rw [single.mpr isSingle, if_pos isSingle]
      cases (domains.map (coordinateType.testimony name)).any Finding.second <;> rfl
    · rw [Bool.eq_false_iff.mpr (mt single.mp isSingle), if_neg isSingle]
      cases (domains.map (coordinateType.testimony name)).any Finding.second <;> rfl

end Verdicts

section Answers

variable {ballot : Ballot} {name : String} {kind : GroupKind} {datasets : List Dataset}

theorem canTell_of_brief_types (someDataset : datasets ≠ []) (asksType : ballot.AsksType)
    (hasTypes : ∀ domain ∈ datasets.flatten, ballot.HasTypes name domain)
    (brief : ∀ type ∈ ballot.leadingTypes name datasets.flatten, type.name.toUTF8.size < 2 ^ 32) :
    kind.CanTell (ballot.toldObjection name datasets) := by
  refine canTell_of_speak someDataset fun domain isDomain => ?_
  refine ⟨heard_of_hasTypes asksType (hasTypes domain isDomain), ?_⟩
  intro text objected
  rw [testimony_eq_leading asksType (hasTypes domain isDomain)] at objected
  obtain ⟨type, isFound, rfl⟩ := Option.map_eq_some_iff.mp objected
  refine brief type (List.mem_filterMap.mpr ⟨domain, isDomain, ?_⟩)
  exact Option.mem_toList.mp (List.mem_of_find?_eq_some isFound)

/-- What cannot be told is the name of the type of a leading array. -/
theorem exists_leading_of_cannotTell (asksType : ballot.AsksType)
    (hasTypes : ∀ domain ∈ datasets.flatten, ballot.HasTypes name domain)
    (cannotTell : ¬ kind.CanTell (ballot.toldObjection name datasets)) :
    ∃ type ∈ ballot.leadingTypes name datasets.flatten, ¬ type.IsFloating :=
  (any_objects asksType hasTypes).mp (objects_of_cannotTell cannotTell)

/-- All processes end with an answer of some kind exactly if what they object to can be told and their
verdict is such an answer. Where an array has a type that is not supported, this takes an answer that
is no failure to tell of it. -/
theorem all_answers_iff (connects : kind.Connects datasets.length) (asksType : ballot.AsksType)
    (hasTypes : ∀ domain ∈ datasets.flatten, ballot.HasTypes name domain)
    (isAnswer : Except ErrorCategory Answer → Prop)
    (refuses : (∃ type ∈ ballot.allTypes name datasets.flatten, ¬ type.IsFloating) →
      ∀ category, isAnswer (.error category) → category = .consistency) :
    (∀ outcome ∈ together kind (ballot.query name).program datasets,
        isAnswer (outcome.mapError Error.category)) ↔
      kind.CanTell (ballot.toldObjection name datasets) ∧
        isAnswer (ballot.verdict name datasets.flatten) := by
  have heard : ∀ domain ∈ datasets.flatten, (ballot.query name).look [domain] =
      .ok (ballot.testimony name domain) := fun domain isDomain =>
    heard_of_hasTypes asksType (hasTypes domain isDomain)
  have tellsObjections : ∀ findings,
      (ballot.query name).tells findings = findings.any Finding.objects := by
    obtain rfl | rfl := asksType <;> exact fun _ => rfl
  by_cases canTell : kind.CanTell (ballot.toldObjection name datasets)
  · have same := together_eq_verdict_of_canTell connects heard canTell
    rw [← List.forall_mem_map (P := isAnswer), same, List.forall_mem_map]
    have someDataset := List.exists_mem_of_ne_nil datasets (List.ne_nil_of_length_pos connects.pos)
    constructor
    · intro answers
      obtain ⟨dataset, isShare⟩ := someDataset
      exact ⟨canTell, answers dataset isShare⟩
    · rintro ⟨_, answers⟩ _ _
      exact answers
  · obtain ⟨type, isLeading, notFloating⟩ := exists_leading_of_cannotTell asksType hasTypes canTell
    obtain ⟨cause, isOutcome, notConsistency⟩ :=
      fails_of_cannotTell connects tellsObjections heard canTell
    constructor
    · intro answers
      exact absurd (refuses ⟨type, leadingTypes_subset isLeading, notFloating⟩ _
        (answers _ isOutcome)) notConsistency
    · rintro ⟨tellable, _⟩
      exact absurd tellable canTell

end Answers

/-- An answer about the type of a field that speaks for arrays of some types. It is float or double only
if all of them are, and an inconsistency where one is neither or both occur. -/
structure IsSharedType (types : List ElementType) (answer : Except ErrorCategory Answer) : Prop where
  float : answer = .ok (.value (.text "float")) → ∀ type ∈ types, type = .float .single
  double : answer = .ok (.value (.text "double")) → ∀ type ∈ types, type = .float .double
  consistency : (∃ type ∈ types, ¬ type.IsFloating) ∨
    (.float .single ∈ types ∧ .float .double ∈ types) → answer = .error .consistency

/-- An answer about the type of coordinates that speaks for arrays of some types. It is an inconsistency
where one is neither float nor double, and otherwise float where any is and double where none is. -/
structure IsCoarsestType (types : List ElementType) (answer : Except ErrorCategory Answer) :
    Prop where
  consistency : (∃ type ∈ types, ¬ type.IsFloating) → answer = .error .consistency
  float : (∀ type ∈ types, type.IsFloating) → .float .single ∈ types →
    answer = .ok (.value (.text "float"))
  double : (∀ type ∈ types, type.IsFloating) → .float .single ∉ types →
    answer = .ok (.value (.text "double"))

section Leading

variable {leading types : List ElementType}

/-- Arrays of one supported type give nothing to object to. -/
theorem not_allOf_of_differ
    (differ : (∃ type ∈ types, ¬ type.IsFloating) ∨ (.float .single ∈ types ∧ .float .double ∈ types))
    {width : FloatWidth} (isWidth : width = .single ∨ width = .double) :
    ¬ ∀ type ∈ types, type = .float width := by
  intro allAlike
  rcases differ with ⟨type, isType, notFloating⟩ | ⟨isSingle, isDouble⟩
  · rw [allAlike type isType] at notFloating
    obtain rfl | rfl := isWidth
    · exact notFloating (.inl rfl)
    · exact notFloating (.inr rfl)
  · have alike := (allAlike _ isSingle).trans (allAlike _ isDouble).symm
    cases alike

/-- What some arrays share speaks for more of them exactly if these have the type that the first ones
share, where they share one. -/
theorem sharedType_isShared_iff (someLeading : leading = [] → types = []) :
    IsSharedType types (sharedType leading) ↔
      ∀ width ∈ [FloatWidth.single, .double], (∀ type ∈ leading, type = .float width) →
        ∀ type ∈ types, type = .float width := by
  by_cases noLeading : leading = []
  · rw [someLeading noLeading]
    refine ⟨fun _ _ _ _ _ isType => (List.not_mem_nil isType).elim, fun _ => ⟨?_, ?_, ?_⟩⟩
    · exact fun _ _ isType => (List.not_mem_nil isType).elim
    · exact fun _ _ isType => (List.not_mem_nil isType).elim
    · simp
  obtain ⟨first, isFirst⟩ := List.exists_mem_of_ne_nil leading noLeading
  unfold sharedType
  rw [if_neg noLeading]
  constructor
  · intro isShared width isWidth allLeading
    rcases List.mem_pair.mp isWidth with rfl | rfl
    · exact isShared.float (if_pos allLeading)
    · refine isShared.double ?_
      have notSingle : ¬ ∀ type ∈ leading, type = .float .single := by
        intro allSingle
        have alike := (allSingle first isFirst).symm.trans (allLeading first isFirst)
        cases alike
      rw [if_neg notSingle, if_pos allLeading]
  · intro sameWidth
    have single := sameWidth .single (by simp)
    have double := sameWidth .double (by simp)
    by_cases allSingle : ∀ type ∈ leading, type = .float .single
    · rw [if_pos allSingle]
      refine ⟨fun _ => single allSingle, fun isDouble => ?_,
        fun differ => absurd (single allSingle) (not_allOf_of_differ differ (.inl rfl))⟩
      simp at isDouble
    · rw [if_neg allSingle]
      by_cases allDouble : ∀ type ∈ leading, type = .float .double
      · rw [if_pos allDouble]
        refine ⟨fun isFloat => ?_, fun _ => double allDouble,
          fun differ => absurd (double allDouble) (not_allOf_of_differ differ (.inr rfl))⟩
        simp at isFloat
      · rw [if_neg allDouble]
        exact ⟨nofun, nofun, fun _ => rfl⟩

/-- The coarsest type of some arrays speaks for more of them exactly if any array that is not supported,
and any single one among supported ones, has its like among the first ones. -/
theorem coarsestType_isCoarsest_iff (isPart : leading ⊆ types) :
    IsCoarsestType types (coarsestType leading) ↔
      ((∃ type ∈ types, ¬ type.IsFloating) → ∃ type ∈ leading, ¬ type.IsFloating) ∧
      ((∀ type ∈ types, type.IsFloating) → .float .single ∈ types → .float .single ∈ leading) := by
  have leadingFloating (floating : ∀ type ∈ types, type.IsFloating) :
      ¬ ∃ type ∈ leading, ¬ type.IsFloating := by
    rintro ⟨type, isLeading, notFloating⟩
    exact notFloating (floating type (isPart isLeading))
  unfold coarsestType
  constructor
  · intro isCoarsest
    constructor
    · intro unsupported
      by_contra noLeading
      have isError := isCoarsest.consistency unsupported
      rw [if_neg noLeading] at isError
      cases isError
    · intro floating isSingle
      have isFloat := isCoarsest.float floating isSingle
      rw [if_neg (leadingFloating floating)] at isFloat
      by_contra notLeading
      rw [if_neg notLeading] at isFloat
      simp at isFloat
  · rintro ⟨reported, single⟩
    refine ⟨?_, ?_, ?_⟩
    · intro unsupported
      rw [if_pos (reported unsupported)]
    · intro floating isSingle
      rw [if_neg (leadingFloating floating), if_pos (single floating isSingle)]
    · intro floating notSingle
      rw [if_neg (leadingFloating floating), if_neg fun isLeading => notSingle (isPart isLeading)]

end Leading

/-- How processes answer about the type of a field. All end with what the leading arrays of all domains
share, if what they object to can be told. This speaks for all arrays exactly if the others have the
type that the leading ones share, where these share one. -/
theorem fieldType_isShared_iff (kind : GroupKind) (name : String) (datasets : List Dataset)
    (connects : kind.Connects datasets.length)
    (hasComponents : ∀ domain ∈ datasets.flatten, ∀ field,
      domain.fields.find? name = some field → field.values ≠ .components []) :
    (kind.CanTell (fieldType.toldObjection name datasets) →
      (together kind (fieldType.query name).program datasets).map (Except.mapError Error.category) =
        datasets.map fun _ => sharedType (fieldType.leadingTypes name datasets.flatten)) ∧
    ((∀ outcome ∈ together kind (fieldType.query name).program datasets,
        IsSharedType (fieldType.allTypes name datasets.flatten) (outcome.mapError Error.category)) ↔
      kind.CanTell (fieldType.toldObjection name datasets) ∧
        ∀ width ∈ [FloatWidth.single, .double],
          (∀ type ∈ fieldType.leadingTypes name datasets.flatten, type = .float width) →
            ∀ type ∈ fieldType.allTypes name datasets.flatten, type = .float width) := by
  have hasTypes : ∀ domain ∈ datasets.flatten, fieldType.HasTypes name domain := hasComponents
  constructor
  · intro canTell
    rw [← verdict_fieldType hasTypes]
    exact together_eq_verdict_of_canTell connects
      (fun domain isDomain => heard_of_hasTypes (.inl rfl) (hasTypes domain isDomain)) canTell
  · rw [all_answers_iff connects (.inl rfl) hasTypes (IsSharedType _), verdict_fieldType hasTypes,
      sharedType_isShared_iff leadingTypes_eq_nil]
    intro unsupported category isShared
    exact Except.error.inj (isShared.consistency (.inl unsupported))

/-- A field with two components, of their own types. -/
def flowOf (first second : FloatWidth) : Domain :=
  ⟨[], [], [("flow", ⟨"flow", "vertex", "mesh",
    .components [("u", .float first []), ("v", .float second [])]⟩)], []⟩

theorem fieldType_isShared_iff_for_flow :
    GroupKind.lockstep.Connects 2 ∧
    ∀ outcome ∈ together .lockstep (fieldType.query "flow").program
        [[flowOf .single .single], [flowOf .single .single]],
      IsSharedType [.float .single, .float .single, .float .single, .float .single]
        (outcome.mapError Error.category) := by
  have hasComponents : ∀ domain ∈ [flowOf .single .single, flowOf .single .single], ∀ field,
      domain.fields.find? "flow" = some field → field.values ≠ .components [] := by
    intro domain isDomain field has
    rcases List.mem_pair.mp isDomain with rfl | rfl <;> cases has <;> simp
  obtain ⟨_, shares⟩ := fieldType_isShared_iff .lockstep "flow"
    [[flowOf .single .single], [flowOf .single .single]] (by decide) hasComponents
  refine ⟨by decide, shares.mpr ⟨?_, by decide⟩⟩
  exact canTell_of_brief_types (by simp) (.inl rfl) hasComponents (by decide)

/-- A field whose first component is float and whose second one is double is taken for float. -/
theorem fieldType_of_unlike_components :
    ¬ ∀ outcome ∈ together .alone (fieldType.query "flow").program [[flowOf .single .double]],
      IsSharedType (fieldType.allTypes "flow" [flowOf .single .double])
        (outcome.mapError Error.category) := by
  intro shares
  have ends : together .alone (fieldType.query "flow").program [[flowOf .single .double]] =
      [.ok (.value (.text "float"))] := rfl
  rw [ends] at shares
  have alike := (shares _ List.mem_cons_self).float rfl (.float .double) (by decide)
  cases alike

/-- How processes answer about the type of coordinates. All end with the coarsest type of the leading
arrays of all domains, if what they object to can be told. This speaks for the arrays along all axes
exactly if any that is not supported, and any single one among supported ones, has its like among the
leading ones. -/
theorem coordinateType_isCoarsest_iff (kind : GroupKind) (name : String) (datasets : List Dataset)
    (connects : kind.Connects datasets.length)
    (resolve : ∀ domain ∈ datasets.flatten, domain.hasTopology name = true →
      ∃ coordset, domain.coordsetBehind name = .ok coordset) :
    (kind.CanTell (coordinateType.toldObjection name datasets) →
      (together kind (coordinateType.query name).program datasets).map
          (Except.mapError Error.category) =
        datasets.map fun _ => coarsestType (coordinateType.leadingTypes name datasets.flatten)) ∧
    ((∀ outcome ∈ together kind (coordinateType.query name).program datasets,
        IsCoarsestType (coordinateType.allTypes name datasets.flatten)
          (outcome.mapError Error.category)) ↔
      kind.CanTell (coordinateType.toldObjection name datasets) ∧
        ((∃ type ∈ coordinateType.allTypes name datasets.flatten, ¬ type.IsFloating) →
          ∃ type ∈ coordinateType.leadingTypes name datasets.flatten, ¬ type.IsFloating) ∧
        ((∀ type ∈ coordinateType.allTypes name datasets.flatten, type.IsFloating) →
          .float .single ∈ coordinateType.allTypes name datasets.flatten →
            .float .single ∈ coordinateType.leadingTypes name datasets.flatten)) := by
  have hasTypes : ∀ domain ∈ datasets.flatten, coordinateType.HasTypes name domain := resolve
  constructor
  · intro canTell
    rw [← verdict_coordinateType hasTypes]
    exact together_eq_verdict_of_canTell connects
      (fun domain isDomain => heard_of_hasTypes (.inr rfl) (hasTypes domain isDomain)) canTell
  · rw [all_answers_iff connects (.inr rfl) hasTypes (IsCoarsestType _),
      verdict_coordinateType hasTypes, coarsestType_isCoarsest_iff fun _ => leadingTypes_subset]
    intro unsupported category isCoarsest
    exact Except.error.inj (isCoarsest.consistency unsupported)

/-- Points whose coordinates along either axis have their own type. -/
def meshOf (first second : FloatWidth) : Domain :=
  ⟨[("coords", .explicit ⟨.float first [], .float second [], none⟩)],
    [("mesh", ⟨"coords", .points⟩)], [], []⟩

theorem coordinateType_isCoarsest_iff_for_mesh :
    GroupKind.lockstep.Connects 2 ∧
    ∀ outcome ∈ together .lockstep (coordinateType.query "mesh").program
        [[meshOf .double .double], [meshOf .single .double]],
      IsCoarsestType [.float .double, .float .double, .float .single, .float .double]
        (outcome.mapError Error.category) := by
  have resolve : ∀ domain ∈ [meshOf .double .double, meshOf .single .double],
      domain.hasTopology "mesh" = true → ∃ coordset, domain.coordsetBehind "mesh" = .ok coordset := by
    intro domain isDomain _
    rcases List.mem_pair.mp isDomain with rfl | rfl <;> exact ⟨_, rfl⟩
  obtain ⟨_, isCoarsest⟩ := coordinateType_isCoarsest_iff .lockstep "mesh"
    [[meshOf .double .double], [meshOf .single .double]] (by decide) resolve
  refine ⟨by decide, isCoarsest.mpr ⟨?_, by decide, by decide⟩⟩
  exact canTell_of_brief_types (by simp) (.inr rfl) resolve (by decide)

/-- Coordinates that are double along the first axis and single along the second are taken for
double. -/
theorem coordinateType_of_unlike_axes :
    ¬ ∀ outcome ∈ together .alone (coordinateType.query "mesh").program [[meshOf .double .single]],
      IsCoarsestType (coordinateType.allTypes "mesh" [meshOf .double .single])
        (outcome.mapError Error.category) := by
  intro answers
  have ends : together .alone (coordinateType.query "mesh").program [[meshOf .double .single]] =
      [.ok (.value (.text "double"))] := rfl
  rw [ends] at answers
  have isFloat := (answers _ List.mem_cons_self).float (by decide) (by decide)
  simp [Except.mapError] at isFloat

end Ballot

end FieldSurvey
