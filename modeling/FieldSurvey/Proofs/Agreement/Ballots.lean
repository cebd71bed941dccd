import FieldSurvey.Proofs.Agreement.Ends
import FieldSurvey.Proofs.Group.LongestText

/-!
Queries that are settled by a vote. What a process finds in several domains is what it finds in each
of them, joined; so the findings of a group, joined, are those of one process that holds all domains.
The vote only asks whether anybody is for an alternative or objects, and so it does not matter who
holds which domains.
-/

namespace FieldSurvey

/-- The queries that are settled by a vote. -/
inductive Ballot where
  | hasField
  | hasTopology
  | fieldAssociation
  | fieldType
  | spatialDimensions
  | coordinateType
  | isScalarField
  deriving DecidableEq, Repr

namespace Finding

/-- What is found in some domains and in some others after them. -/
def join (earlier later : Finding) : Finding where
  first := earlier.first || later.first
  second := earlier.second || later.second
  objection := earlier.objection <|> later.objection

def joinAll (findings : List Finding) : Finding := findings.foldr join {}

def objects (finding : Finding) : Bool := finding.objection.isSome

/-- Something that is found in one place or another, and nowhere if nothing is found. -/
structure IsFoundAnywhere (flag : Finding → Bool) : Prop where
  nowhere : flag {} = false
  join : ∀ earlier later, flag (earlier.join later) = (flag earlier || flag later)

theorem IsFoundAnywhere.joinAll {flag : Finding → Bool} (found : IsFoundAnywhere flag)
    (findings : List Finding) : flag (joinAll findings) = findings.any flag := by
  induction findings with
  | nil => exact found.nowhere
  | cons finding rest inductionHypothesis =>
      rw [List.any_cons, ← inductionHypothesis]
      exact found.join finding _

theorem first_isFoundAnywhere : IsFoundAnywhere first := ⟨rfl, fun _ _ => rfl⟩

theorem second_isFoundAnywhere : IsFoundAnywhere second := ⟨rfl, fun _ _ => rfl⟩

theorem objects_isFoundAnywhere : IsFoundAnywhere objects := by
  refine ⟨rfl, ?_⟩
  intro earlier later
  unfold objects join
  cases earlier.objection <;> rfl

theorem objection_joinAll (findings : List Finding) :
    (joinAll findings).objection = findings.findSome? objection := by
  induction findings with
  | nil => rfl
  | cons finding rest inductionHypothesis =>
      have joined : (joinAll (finding :: rest)).objection =
          (finding.objection <|> (joinAll rest).objection) := rfl
      rw [joined, inductionHypothesis, List.findSome?_cons]
      cases finding.objection <;> rfl

end Finding

namespace Ballot

open ProcessGroup MetadataQuery

def query (ballot : Ballot) (name : String) : MetadataQuery :=
  match ballot with
  | hasField => .hasField (.text name)
  | hasTopology => .hasTopology (.text name)
  | fieldAssociation => .fieldAssociation (.text name)
  | fieldType => .fieldType (.text name)
  | spatialDimensions => .spatialDimensions (.text name)
  | coordinateType => .coordinateType (.text name)
  | isScalarField => .isScalarField (.text name)

theorem isEmpty_append {γ : Type} (earlier later : List γ) :
    (earlier ++ later).isEmpty = (earlier.isEmpty && later.isEmpty) := by
  cases earlier <;> rfl

theorem unsupportedAssociation?_append (earlier later : List String) :
    Dataset.unsupportedAssociation? (earlier ++ later) =
      (Dataset.unsupportedAssociation? earlier <|> Dataset.unsupportedAssociation? later) := by
  unfold Dataset.unsupportedAssociation?
  rw [List.find?_append]
  cases earlier.find? fun association => association != "vertex" && association != "element" <;> rfl

theorem notFloating?_append (earlier later : List ElementType) :
    Dataset.notFloating? (earlier ++ later) =
      (Dataset.notFloating? earlier <|> Dataset.notFloating? later) := by
  unfold Dataset.notFloating?
  rw [List.find?_append]
  cases earlier.find? fun type => type != .float .single && type != .float .double <;> rfl

/-- What is found in several domains is what is found in each of them, joined. -/
theorem look_append (ballot : Ballot) (name : String) (earlier later : Dataset) :
    (ballot.query name).look (earlier ++ later) = (do
      let found ← (ballot.query name).look earlier
      let other ← (ballot.query name).look later
      return found.join other) := by
  cases ballot <;> simp only [query, look, Dataset.havingField, Dataset.havingTopology,
    Dataset.having_text, ok_bind, pure_eq_ok, List.filterMap_append, List.map_append,
    List.mapM_append, bind_assoc, List.contains_append, isEmpty_append, Bool.not_and,
    unsupportedAssociation?_append, notFloating?_append] <;> rfl

/-- What is found in a domain alone. -/
def testimony (ballot : Ballot) (name : String) (domain : Domain) : Finding :=
  match (ballot.query name).look [domain] with
  | .ok finding => finding
  | .error _ => {}

/-- Whether a domain can be looked through, and what it objects to is no longer than texts may be that
are packed. -/
structure Speaks (ballot : Ballot) (name : String) (domain : Domain) : Prop where
  heard : (ballot.query name).look [domain] = .ok (ballot.testimony name domain)
  brief : ∀ text, (ballot.testimony name domain).objection = some text → text.toUTF8.size < 2 ^ 32

def summary (ballot : Ballot) (name : String) (dataset : Dataset) : Finding :=
  Finding.joinAll (dataset.map (ballot.testimony name))

theorem look_eq_summary {ballot : Ballot} {name : String} {dataset : Dataset}
    (heard : ∀ domain ∈ dataset,
      (ballot.query name).look [domain] = .ok (ballot.testimony name domain)) :
    (ballot.query name).look dataset = .ok (ballot.summary name dataset) := by
  induction dataset with
  | nil => cases ballot <;> rfl
  | cons domain rest inductionHypothesis =>
      have ofDomain := heard domain List.mem_cons_self
      have ofRest := inductionHypothesis fun other isLater =>
        heard other (List.mem_cons_of_mem domain isLater)
      have split : domain :: rest = [domain] ++ rest := rfl
      rw [split, look_append, ofDomain, ofRest]
      rfl

/-- What a vote over domains comes to, whoever holds them: a value or a class of errors. -/
def verdict (ballot : Ballot) (name : String) (domains : Dataset) :
    Except ErrorCategory Answer :=
  let findings := domains.map (ballot.testimony name)
  if (ballot.query name).tells findings then
    .error ((ballot.query name).objectionCause "").category
  else
    ((ballot.query name).voted (.of (findings.any Finding.first) (findings.any Finding.second))).mapError
      Error.category

theorem objectionCause_category (query : MetadataQuery) (text : String) :
    (query.objectionCause text).category = (query.objectionCause "").category := by
  cases query <;> rfl

theorem told_eq_error (ballot : Ballot) (name : String) (arrived : Value) :
    (ballot.query name).told arrived =
      .error ((ballot.query name).objectionCause arrived.spelled) := by
  cases ballot <;> rfl

theorem bid_eq (ballot : Ballot) (name : String) (finding : Finding) :
    (ballot.query name).bid finding = .ofText (finding.objection.getD "") := by
  cases ballot <;> rfl

/-- Something is found by some process exactly if it is found in some domain. -/
theorem any_summary {flag : Finding → Bool} (found : Finding.IsFoundAnywhere flag) (ballot : Ballot)
    (name : String) (datasets : List Dataset) :
    (datasets.map (ballot.summary name)).any flag =
      (datasets.flatten.map (ballot.testimony name)).any flag := by
  have ofDataset : flag ∘ ballot.summary name = fun dataset =>
      (dataset.map (ballot.testimony name)).any flag := by
    funext dataset
    exact found.joinAll _
  rw [List.any_map, ofDataset, List.map_flatten, List.any_flatten, List.any_map]
  rfl

theorem tells_summary (ballot : Ballot) (name : String) (datasets : List Dataset) :
    (ballot.query name).tells (datasets.map (ballot.summary name)) =
      (ballot.query name).tells (datasets.flatten.map (ballot.testimony name)) := by
  cases ballot with
  | fieldAssociation => exact any_summary Finding.objects_isFoundAnywhere _ name datasets
  | fieldType => exact any_summary Finding.objects_isFoundAnywhere _ name datasets
  | coordinateType => exact any_summary Finding.objects_isFoundAnywhere _ name datasets
  | _ => rfl

/-- What a process would tell the others that it objects to. -/
def objectionText (ballot : Ballot) (name : String) (dataset : Dataset) : String :=
  (ballot.summary name dataset).objection.getD ""

/-- The objection that a group tells if there is any. -/
def toldObjection (ballot : Ballot) (name : String) (datasets : List Dataset) : String :=
  Bid.longest (datasets.map (ballot.objectionText name))

theorem bids_eq (ballot : Ballot) (name : String) (datasets : List Dataset) :
    (datasets.map (ballot.summary name)).map (ballot.query name).bid =
      (datasets.map (ballot.objectionText name)).map .ofText := by
  rw [List.map_map, List.map_map]
  apply List.map_congr_left
  intro dataset _
  exact bid_eq ballot name _

/-- The findings of a group come to the verdict over all of its domains. -/
theorem conclusion_eq_verdict (ballot : Ballot) (name : String) (kind : GroupKind)
    {datasets : List Dataset} (someDataset : datasets ≠ []) :
    ((ballot.query name).conclusion kind (datasets.map (ballot.summary name))).mapError
        Error.category = ballot.verdict name datasets.flatten := by
  unfold conclusion verdict
  simp only [tells_summary, any_summary Finding.first_isFoundAnywhere,
    any_summary Finding.second_isFoundAnywhere]
  split
  · -- An objection is told by the process that wins the vote, whichever it is.
    rw [bids_eq, toldResult_longest (List.map_eq_nil_iff.not.mpr someDataset), told_eq_error]
    exact congrArg Except.error (objectionCause_category _ _)
  · cases ballot <;> rfl

section Together

variable {ballot : Ballot} {name : String} {kind : GroupKind} {datasets : List Dataset}

theorem mapM_look_eq (heard : ∀ domain ∈ datasets.flatten,
      (ballot.query name).look [domain] = .ok (ballot.testimony name domain)) :
    datasets.mapM (ballot.query name).look = .ok (datasets.map (ballot.summary name)) := by
  apply mapM_of_forall_ok
  intro dataset isShare
  exact look_eq_summary fun domain isDomain =>
    heard domain (List.mem_flatten.mpr ⟨dataset, isShare, isDomain⟩)

/-- Once all domains are looked through, a process has only its objection to tell. -/
theorem ownStep_eq (heard : ∀ domain ∈ datasets.flatten,
      (ballot.query name).look [domain] = .ok (ballot.testimony name domain))
    {seat : ProcessGroup × Dataset} (isSeat : seat ∈ seats kind datasets) :
    (ballot.query name).ownStep datasets seat.1 seat.2 =
      seat.1.tellStep
        (if (ballot.query name).tells (datasets.map (ballot.summary name)) then
          Bid.winner? ((datasets.map (ballot.objectionText name)).map .ofText)
        else none)
        (.ofText (ballot.objectionText name seat.2)) := by
  have isShare := share_mem_of_mem_seats isSeat
  have looked : (ballot.query name).look seat.2 = .ok (ballot.summary name seat.2) :=
    look_eq_summary fun domain isDomain =>
      heard domain (List.mem_flatten.mpr ⟨seat.2, isShare, isDomain⟩)
  unfold ownStep winner?
  rw [looked, mapM_look_eq heard, ok_bind, bid_eq]
  simp only [bids_eq]
  rfl

theorem together_eq_verdict_of_canTell (connects : kind.Connects datasets.length)
    (heard : ∀ domain ∈ datasets.flatten,
      (ballot.query name).look [domain] = .ok (ballot.testimony name domain))
    (canTell : kind.CanTell (ballot.toldObjection name datasets)) :
    (together kind (ballot.query name).program datasets).map (Except.mapError Error.category) =
      datasets.map fun _ => ballot.verdict name datasets.flatten := by
  have succeeded : ∀ seat ∈ seats kind datasets,
      (ballot.query name).ownStep datasets seat.1 seat.2 = .ok () := by
    intro seat isSeat
    rw [ownStep_eq heard isSeat]
    split
    · exact tellStep_of_canTell canTell isSeat
    · exact tellStep_none _ _
  have same : together kind (ballot.query name).program datasets = _ :=
    ((ballot.query name).ends connects).agree succeeded
  have isResult : (ballot.query name).result kind datasets =
      (ballot.query name).conclusion kind (datasets.map (ballot.summary name)) := by
    unfold result
    rw [mapM_look_eq heard, ok_bind]
  rw [same, isResult, List.map_map]
  simp only [Function.comp_def,
    conclusion_eq_verdict ballot name kind (List.ne_nil_of_length_pos connects.pos)]

/-- What cannot be told is an objection of some domain. -/
theorem objects_of_cannotTell (cannotTell : ¬ kind.CanTell (ballot.toldObjection name datasets)) :
    (datasets.flatten.map (ballot.testimony name)).any Finding.objects = true := by
  rw [← any_summary Finding.objects_isFoundAnywhere]
  by_contra silent
  rw [Bool.not_eq_true, List.any_map, List.any_eq_false] at silent
  have isEmpty : ballot.toldObjection name datasets = "" := by
    refine Bid.longest_eq_empty.mpr (List.forall_mem_map.mpr ?_)
    intro dataset isShare
    have noObjection := silent dataset isShare
    unfold objectionText
    cases objected : (ballot.summary name dataset).objection with
    | none => rfl
    | some text => simp [Finding.objects, objected] at noObjection
  rw [isEmpty] at cannotTell
  exact cannotTell (.inr (by decide))

/-- If an objection cannot be told, the process that should tell it fails by itself. -/
theorem fails_of_cannotTell (connects : kind.Connects datasets.length)
    (tellsObjections : ∀ findings,
      (ballot.query name).tells findings = findings.any Finding.objects)
    (heard : ∀ domain ∈ datasets.flatten,
      (ballot.query name).look [domain] = .ok (ballot.testimony name domain))
    (cannotTell : ¬ kind.CanTell (ballot.toldObjection name datasets)) :
    ∃ cause, .error cause ∈ together kind (ballot.query name).program datasets ∧
      cause.category ≠ .consistency := by
  have objects : (ballot.query name).tells (datasets.map (ballot.summary name)) = true := by
    rw [tells_summary, tellsObjections]
    exact objects_of_cannotTell cannotTell
  obtain ⟨seat, isSeat, cause, fails⟩ :=
    exists_tellStep_of_cannotTell (List.ne_nil_of_length_pos connects.pos) cannotTell
  have step := ownStep_eq heard isSeat
  rw [if_pos objects, fails] at step
  have stranded : together kind (ballot.query name).program datasets = _ :=
    ((ballot.query name).ends connects).strand ⟨seat, isSeat, cause, step⟩
  refine ⟨cause, ?_, ((ballot.query name).failsAlone_ownStep datasets seat.1 seat.2 cause step).2⟩
  rw [stranded]
  exact List.mem_map.mpr ⟨seat, isSeat, by rw [step]; rfl⟩

theorem canTell_of_speak (someDataset : datasets ≠ [])
    (speak : ∀ domain ∈ datasets.flatten, ballot.Speaks name domain) :
    kind.CanTell (ballot.toldObjection name datasets) := by
  obtain ⟨dataset, isShare, isTold⟩ := List.mem_map.mp
    (Bid.longest_mem (List.map_eq_nil_iff.not.mpr someDataset :
      datasets.map (ballot.objectionText name) ≠ []))
  right
  unfold toldObjection
  rw [← isTold]
  unfold objectionText
  cases objected : (ballot.summary name dataset).objection with
  | none => decide
  | some text =>
      unfold summary at objected
      rw [Finding.objection_joinAll] at objected
      obtain ⟨finding, isFinding, objects⟩ := List.exists_of_findSome?_eq_some objected
      obtain ⟨domain, isDomain, rfl⟩ := List.mem_map.mp isFinding
      exact (speak domain (List.mem_flatten.mpr ⟨dataset, isShare, isDomain⟩)).brief text objects

theorem together_eq_verdict (connects : kind.Connects datasets.length)
    (speak : ∀ domain ∈ datasets.flatten, ballot.Speaks name domain) :
    (together kind (ballot.query name).program datasets).map (Except.mapError Error.category) =
      datasets.map fun _ => ballot.verdict name datasets.flatten :=
  together_eq_verdict_of_canTell connects (fun domain isDomain => (speak domain isDomain).heard)
    (canTell_of_speak (List.ne_nil_of_length_pos connects.pos) speak)

end Together

/-- A verdict does not depend on the order of the domains. -/
theorem verdict_perm (ballot : Ballot) (name : String) {domains others : Dataset}
    (same : domains.Perm others) : ballot.verdict name domains = ballot.verdict name others := by
  have permuted := same.map (ballot.testimony name)
  have sameTells : (ballot.query name).tells (domains.map (ballot.testimony name)) =
      (ballot.query name).tells (others.map (ballot.testimony name)) := by
    cases ballot with
    | fieldAssociation => exact permuted.any_eq
    | fieldType => exact permuted.any_eq
    | coordinateType => exact permuted.any_eq
    | _ => rfl
  unfold verdict
  simp only [sameTells, permuted.any_eq]

/-- Whether a domain defines what a ballot asks for. -/
def defines (ballot : Ballot) (name : String) (domain : Domain) : Bool :=
  match ballot with
  | hasTopology => domain.hasTopology name
  | spatialDimensions => domain.hasTopology name
  | coordinateType => domain.hasTopology name
  | _ => domain.hasField name

/-- What a ballot asks for can be looked up wherever it is defined: a field has a column of values, and
a topology, asked for by a name that is not empty, has a coordinate set that fits. -/
def Resolves (ballot : Ballot) (name : String) (domain : Domain) : Prop :=
  match ballot with
  | hasTopology | spatialDimensions | coordinateType => name ≠ "" ∧
      (domain.hasTopology name = true → ∃ coordset, domain.coordset name = .ok coordset)
  | _ => ∀ field, domain.fields.find? name = some field → field.values ≠ .components []

section Testimony

variable {ballot : Ballot} {name : String} {domain : Domain}

theorem elementType_of_columns {field : Field} (hasColumn : field.values ≠ .components []) :
    ∃ type, field.elementType = .ok type := by
  unfold Field.elementType
  split
  · exact ⟨_, rfl⟩
  · exact ⟨_, rfl⟩
  · rename_i isEmpty
    exact absurd isEmpty hasColumn

/-- What is found in a domain that does not define what is asked for. -/
theorem look_of_undefined (undefined : ballot.defines name domain = false) :
    (ballot.query name).look [domain] = .ok {} := by
  cases ballot <;> simp [defines, Domain.hasField, Domain.hasTopology, Registry.has] at undefined <;>
    simp [query, look, Dataset.havingField, Dataset.havingTopology, Dataset.having_text, undefined] <;>
    rfl

theorem look_association {field : Field} (has : domain.fields.find? name = some field) :
    (fieldAssociation.query name).look [domain] = .ok {
      first := [field.association].contains "vertex"
      second := [field.association].contains "element"
      objection := Dataset.unsupportedAssociation? [field.association] } := by
  simp [query, look, Dataset.havingField, Dataset.having_text, has]

theorem look_type {field : Field} (has : domain.fields.find? name = some field) {type : ElementType}
    (isType : field.elementType = .ok type) :
    (fieldType.query name).look [domain] = .ok {
      first := [type].contains (.float .single)
      second := [type].contains (.float .double)
      objection := Dataset.notFloating? [type] } := by
  simp [query, look, Dataset.havingField, Dataset.having_text, has, isType]

theorem look_dimensions {topology : Topology} (has : domain.topologies.find? name = some topology)
    (named : name ≠ "") {coordset : Coordset} (isUnder : domain.coordset name = .ok coordset) :
    (spatialDimensions.query name).look [domain] = .ok {
      first := [coordset.isThreeDimensional].contains true
      second := [coordset.isThreeDimensional].contains false } := by
  obtain ⟨found, chosen, isName⟩ := Domain.chooseTopology_of_has has
  rw [isName named] at chosen
  simp [query, look, Dataset.havingTopology, Dataset.having_text, has, chosen,
    Domain.isThreeDimensional, isUnder]

theorem look_coordinates {topology : Topology} (has : domain.topologies.find? name = some topology)
    (named : name ≠ "") {coordset : Coordset} (isUnder : domain.coordset name = .ok coordset) :
    ∃ finding, (coordinateType.query name).look [domain] = .ok finding := by
  obtain ⟨found, chosen, isName⟩ := Domain.chooseTopology_of_has has
  rw [isName named] at chosen
  simp [query, look, Dataset.havingTopology, Dataset.having_text, has, chosen,
    Dataset.coordinateType?, isUnder]

/-- A domain can be looked through if what is asked for can be looked up. -/
theorem look_of_resolves (resolves : ballot.Resolves name domain) :
    (ballot.query name).look [domain] = .ok (ballot.testimony name domain) := by
  have looked : ∃ finding, (ballot.query name).look [domain] = .ok finding := by
    cases isDefined : ballot.defines name domain with
    | false => exact ⟨_, look_of_undefined isDefined⟩
    | true =>
        cases ballot with
        | hasField => exact ⟨_, rfl⟩
        | hasTopology => exact ⟨_, rfl⟩
        | fieldAssociation => exact ⟨_, rfl⟩
        | isScalarField => exact ⟨_, rfl⟩
        | fieldType =>
            obtain ⟨field, has⟩ := Option.isSome_iff_exists.mp isDefined
            obtain ⟨type, isType⟩ := elementType_of_columns (resolves field has)
            exact ⟨_, look_type has isType⟩
        | spatialDimensions =>
            obtain ⟨topology, has⟩ := Option.isSome_iff_exists.mp isDefined
            obtain ⟨coordset, isUnder⟩ := resolves.2 isDefined
            exact ⟨_, look_dimensions has resolves.1 isUnder⟩
        | coordinateType =>
            obtain ⟨topology, has⟩ := Option.isSome_iff_exists.mp isDefined
            obtain ⟨coordset, isUnder⟩ := resolves.2 isDefined
            exact look_coordinates has resolves.1 isUnder
  obtain ⟨finding, found⟩ := looked
  unfold testimony
  rw [found]

/-- What a domain says about an association: it votes for one that is supported and objects to any
other. -/
theorem testimony_association (name : String) (domain : Domain) :
    ((fieldAssociation.testimony name domain).first = true ↔
      ∃ field, domain.fields.find? name = some field ∧ field.association = "vertex") ∧
    ((fieldAssociation.testimony name domain).second = true ↔
      ∃ field, domain.fields.find? name = some field ∧ field.association = "element") ∧
    ((fieldAssociation.testimony name domain).objects = true ↔
      ∃ field, domain.fields.find? name = some field ∧
        field.association ≠ "vertex" ∧ field.association ≠ "element") := by
  unfold testimony
  cases has : domain.fields.find? name with
  | none =>
      have undefined : fieldAssociation.defines name domain = false := by
        simp [defines, Domain.hasField, Registry.has, has]
      rw [look_of_undefined undefined]
      simp [Finding.objects]
  | some field =>
      rw [look_association has]
      have contains (supported : String) : [field.association].contains supported = true ↔
          field.association = supported := by
        rw [List.contains_iff_mem, List.mem_singleton, eq_comm]
      refine ⟨?_, ?_, ?_⟩
      · simpa using contains "vertex"
      · simpa using contains "element"
      · by_cases isVertex : field.association = "vertex"
        · simp [Finding.objects, Dataset.unsupportedAssociation?, isVertex]
        · by_cases isElement : field.association = "element" <;>
            simp [Finding.objects, Dataset.unsupportedAssociation?, isVertex, isElement]

/-- The queries whose answer is a value that all domains share. -/
def AsksValue (ballot : Ballot) : Prop :=
  ballot = fieldAssociation ∨ ballot = fieldType ∨ ballot = spatialDimensions

/-- A domain that defines what is asked for votes or objects. -/
theorem speaks_up (asksValue : ballot.AsksValue) (resolves : ballot.Resolves name domain)
    (isDefined : ballot.defines name domain = true) :
    (ballot.query name).tells [ballot.testimony name domain] = true ∨
      (ballot.testimony name domain).first = true ∨ (ballot.testimony name domain).second = true := by
  have found := look_of_resolves resolves
  obtain rfl | rfl | rfl := asksValue
  · obtain ⟨field, has⟩ := Option.isSome_iff_exists.mp isDefined
    obtain ⟨votesVertex, votesElement, objects⟩ := testimony_association name domain
    by_cases isVertex : field.association = "vertex"
    · exact .inr (.inl (votesVertex.mpr ⟨field, has, isVertex⟩))
    · by_cases isElement : field.association = "element"
      · exact .inr (.inr (votesElement.mpr ⟨field, has, isElement⟩))
      · simp only [query, tells, List.any_cons, List.any_nil, Bool.or_false]
        exact .inl (objects.mpr ⟨field, has, isVertex, isElement⟩)
  · obtain ⟨field, has⟩ := Option.isSome_iff_exists.mp isDefined
    obtain ⟨type, isType⟩ := elementType_of_columns (resolves field has)
    rw [look_type has isType] at found
    rw [← Except.ok.inj found]
    by_cases isSingle : type = .float .single
    · simp [isSingle]
    · by_cases isDouble : type = .float .double <;>
        simp [query, tells, Dataset.notFloating?, isSingle, isDouble]
  · obtain ⟨topology, has⟩ := Option.isSome_iff_exists.mp isDefined
    obtain ⟨coordset, isUnder⟩ := resolves.2 isDefined
    rw [look_dimensions has resolves.1 isUnder] at found
    rw [← Except.ok.inj found]
    cases coordset.isThreeDimensional <;> simp

theorem testimony_of_undefined (undefined : ballot.defines name domain = false) :
    ballot.testimony name domain = {} := by
  unfold testimony
  rw [look_of_undefined undefined]

end Testimony

section Verdict

variable {name : String} {domains : Dataset}

theorem tells_eq_any (ballot : Ballot) (name : String) (findings : List Finding) :
    (ballot.query name).tells findings = findings.any fun finding =>
      (ballot.query name).tells [finding] := by
  cases ballot <;> simp [query, tells]

theorem of_eq_neither (first second : Bool) :
    Vote.of first second = .neither ↔ first = false ∧ second = false := by
  cases first <;> cases second <;> decide

theorem voted_missing_iff {ballot : Ballot} (asksValue : ballot.AsksValue) (vote : Vote) :
    ((ballot.query name).voted vote).mapError Error.category = .error .missingData ↔
      vote = .neither := by
  obtain rfl | rfl | rfl := asksValue <;> cases vote <;>
    simp [query, voted, Except.mapError, Error.category]

theorem verdict_missing_iff {ballot : Ballot} (asksValue : ballot.AsksValue) :
    ballot.verdict name domains = .error .missingData ↔
      (ballot.query name).tells (domains.map (ballot.testimony name)) = false ∧
        (domains.map (ballot.testimony name)).any Finding.first = false ∧
        (domains.map (ballot.testimony name)).any Finding.second = false := by
  have notMissing : ((ballot.query name).objectionCause "").category ≠ .missingData := by
    cases ballot <;> simp [query, objectionCause, Error.category]
  unfold verdict
  simp only
  cases (ballot.query name).tells (domains.map (ballot.testimony name)) with
  | true => simp [notMissing]
  | false =>
      simp only [Bool.false_eq_true, if_false, true_and]
      rw [voted_missing_iff asksValue, of_eq_neither]

theorem silent_iff {ballot : Ballot} :
    ((ballot.query name).tells (domains.map (ballot.testimony name)) = false ∧
      (domains.map (ballot.testimony name)).any Finding.first = false ∧
      (domains.map (ballot.testimony name)).any Finding.second = false) ↔
      ∀ domain ∈ domains, (ballot.query name).tells [ballot.testimony name domain] = false ∧
        (ballot.testimony name domain).first = false ∧
        (ballot.testimony name domain).second = false := by
  rw [tells_eq_any]
  simp only [List.any_map, List.any_eq_false, Function.comp_apply, Bool.not_eq_true, forall_and]

/-- Data is found missing exactly if no domain defines what is asked for. -/
theorem missing_iff_nowhere {ballot : Ballot} (asksValue : ballot.AsksValue)
    (resolve : ∀ domain ∈ domains, ballot.Resolves name domain) :
    ballot.verdict name domains = .error .missingData ↔
      ∀ domain ∈ domains, ballot.defines name domain = false := by
  rw [verdict_missing_iff asksValue, silent_iff]
  constructor
  · intro silent domain isDomain
    obtain ⟨notTold, notFirst, notSecond⟩ := silent domain isDomain
    cases isDefined : ballot.defines name domain with
    | false => rfl
    | true =>
        have speaks := speaks_up asksValue (resolve domain isDomain) isDefined
        simp [notTold, notFirst, notSecond] at speaks
  · intro nowhere domain isDomain
    rw [testimony_of_undefined (nowhere domain isDomain)]
    cases ballot <;> simp [AsksValue] at asksValue <;> exact ⟨rfl, rfl, rfl⟩

/-- Some domain defines a field with an association. -/
def CarriedBy (association : String) (name : String) (domains : Dataset) : Prop :=
  ∃ domain ∈ domains, ∃ field, domain.fields.find? name = some field ∧
    field.association = association

theorem any_vertex : (domains.map (fieldAssociation.testimony name)).any Finding.first = true ↔
    CarriedBy "vertex" name domains := by
  simp only [List.any_map, List.any_eq_true, Function.comp_apply, CarriedBy,
    fun domain => (testimony_association name domain).1]

theorem any_element : (domains.map (fieldAssociation.testimony name)).any Finding.second = true ↔
    CarriedBy "element" name domains := by
  simp only [List.any_map, List.any_eq_true, Function.comp_apply, CarriedBy,
    fun domain => (testimony_association name domain).2.1]

theorem association_tells :
    (fieldAssociation.query name).tells (domains.map (fieldAssociation.testimony name)) = true ↔
      ∃ association, association ≠ "vertex" ∧ association ≠ "element" ∧
        CarriedBy association name domains := by
  have anyObjects : (fieldAssociation.query name).tells
      (domains.map (fieldAssociation.testimony name)) =
      (domains.map (fieldAssociation.testimony name)).any Finding.objects := rfl
  rw [anyObjects]
  simp only [List.any_map, List.any_eq_true, Function.comp_apply, CarriedBy,
    fun domain => (testimony_association name domain).2.2]
  constructor
  · rintro ⟨domain, isDomain, field, has, notVertex, notElement⟩
    exact ⟨_, notVertex, notElement, domain, isDomain, field, has, rfl⟩
  · rintro ⟨association, notVertex, notElement, domain, isDomain, field, has, rfl⟩
    exact ⟨domain, isDomain, field, has, notVertex, notElement⟩

/-- An association is returned exactly if it is supported and is the only one that the field has. -/
theorem association_returned_iff {answer : Answer} :
    fieldAssociation.verdict name domains = .ok answer ↔
      ∃ association, answer = .value (.text association) ∧
        (association = "vertex" ∨ association = "element") ∧ CarriedBy association name domains ∧
        ∀ other, CarriedBy other name domains → other = association := by
  have differ : "vertex" ≠ "element" := by decide
  unfold verdict
  simp only
  by_cases objects : (fieldAssociation.query name).tells
      (domains.map (fieldAssociation.testimony name)) = true
  · obtain ⟨other, notVertex, notElement, carried⟩ := association_tells.mp objects
    rw [if_pos objects]
    constructor
    · rintro ⟨⟩
    · rintro ⟨association, _, rfl | rfl, _, only⟩
      · exact absurd (only other carried) notVertex
      · exact absurd (only other carried) notElement
  · have supported : ∀ other, CarriedBy other name domains → other = "vertex" ∨ other = "element" := by
      intro other carried
      by_contra unsupported
      rw [not_or] at unsupported
      exact objects (association_tells.mpr ⟨other, unsupported.1, unsupported.2, carried⟩)
    rw [if_neg objects]
    by_cases onVertices : CarriedBy "vertex" name domains
    · rw [any_vertex.mpr onVertices]
      by_cases onElements : CarriedBy "element" name domains
      · rw [any_element.mpr onElements]
        constructor
        · rintro ⟨⟩
        · rintro ⟨association, _, _, _, only⟩
          exact absurd ((only _ onVertices).trans (only _ onElements).symm) differ
      · rw [Bool.eq_false_iff.mpr (mt any_element.mp onElements)]
        constructor
        · rintro ⟨⟩
          refine ⟨"vertex", rfl, .inl rfl, onVertices, ?_⟩
          intro other carried
          obtain rfl | rfl := supported other carried
          · rfl
          · exact absurd carried onElements
        · rintro ⟨association, rfl, _, _, only⟩
          rw [← only _ onVertices]
          rfl
    · rw [Bool.eq_false_iff.mpr (mt any_vertex.mp onVertices)]
      by_cases onElements : CarriedBy "element" name domains
      · rw [any_element.mpr onElements]
        constructor
        · rintro ⟨⟩
          refine ⟨"element", rfl, .inr rfl, onElements, ?_⟩
          intro other carried
          obtain rfl | rfl := supported other carried
          · exact absurd carried onVertices
          · rfl
        · rintro ⟨association, rfl, _, _, only⟩
          rw [← only _ onElements]
          rfl
      · rw [Bool.eq_false_iff.mpr (mt any_element.mp onElements)]
        constructor
        · rintro ⟨⟩
        · rintro ⟨association, _, rfl | rfl, carried, _⟩
          · exact absurd carried onVertices
          · exact absurd carried onElements

end Verdict

/-- A vote depends only on the domains, not on who holds them: every group that shares them out in any
way ends on every rank with one value or one class of errors. Data is missing exactly if no domain
defines what is asked for, and an association is returned exactly if it is supported and all domains
that define the field carry it. What is objected to has to fit into the texts that are packed. -/
theorem verdict_whoever_holds (ballot : Ballot) (name : String) (domains : Dataset)
    (resolve : ∀ domain ∈ domains, ballot.Resolves name domain)
    (brief : ∀ domain ∈ domains, ∀ text,
      (ballot.testimony name domain).objection = some text → text.toUTF8.size < 2 ^ 32) :
    ∃ verdict : Except ErrorCategory Answer,
      (∀ (kind : GroupKind) (datasets : List Dataset), kind.Connects datasets.length →
        datasets.flatten.Perm domains →
        (together kind (ballot.query name).program datasets).map (Except.mapError Error.category) =
          datasets.map fun _ => verdict) ∧
      (ballot.AsksValue →
        (verdict = .error .missingData ↔ ∀ domain ∈ domains, ballot.defines name domain = false)) ∧
      (ballot = fieldAssociation → ∀ answer, verdict = .ok answer ↔
        ∃ association, answer = .value (.text association) ∧
          (association = "vertex" ∨ association = "element") ∧
          CarriedBy association name domains ∧
          ∀ other, CarriedBy other name domains → other = association) := by
  refine ⟨ballot.verdict name domains, ?_, ?_, ?_⟩
  · intro kind datasets connects shared
    have speak : ∀ domain ∈ datasets.flatten, ballot.Speaks name domain := by
      intro domain isDomain
      have isMember := shared.mem_iff.mp isDomain
      exact ⟨look_of_resolves (resolve domain isMember), brief domain isMember⟩
    rw [together_eq_verdict connects speak, ballot.verdict_perm name shared]
  · intro asksValue
    exact missing_iff_nowhere asksValue resolve
  · rintro rfl answer
    exact association_returned_iff

def heightDomain (association : String) : Domain :=
  ⟨[], [], [("height", ⟨"height", association, "mesh", .scalar (.truth [true])⟩)], []⟩

theorem verdict_whoever_holds_height :
    GroupKind.lockstep.Connects 3 ∧ GroupKind.alone.Connects 1 ∧
    ∃ verdict : Except ErrorCategory Answer,
      (together .lockstep (fieldAssociation.query "height").program
        [[heightDomain "vertex"], [], [heightDomain "element"]]).map (Except.mapError Error.category) =
          [verdict, verdict, verdict] ∧
      (together .alone (fieldAssociation.query "height").program
        [[heightDomain "element", heightDomain "vertex"]]).map (Except.mapError Error.category) =
          [verdict] ∧
      verdict ≠ .error .missingData := by
  have resolve : ∀ domain ∈ [heightDomain "vertex", heightDomain "element"],
      fieldAssociation.Resolves "height" domain := by
    intro domain isDomain field has
    rcases List.mem_pair.mp isDomain with rfl | rfl <;> cases has <;> simp
  have brief : ∀ domain ∈ [heightDomain "vertex", heightDomain "element"], ∀ text,
      (fieldAssociation.testimony "height" domain).objection = some text →
        text.toUTF8.size < 2 ^ 32 := by
    intro domain isDomain text objects
    rcases List.mem_pair.mp isDomain with rfl | rfl <;> cases objects
  obtain ⟨verdict, alike, missing, _⟩ := verdict_whoever_holds fieldAssociation "height"
    [heightDomain "vertex", heightDomain "element"] resolve brief
  refine ⟨by decide, by decide, verdict,
    alike .lockstep [[heightDomain "vertex"], [], [heightDomain "element"]] (by decide) (.refl _),
    alike .alone [[heightDomain "element", heightDomain "vertex"]] (by decide) (.swap ..), ?_⟩
  rw [ne_eq, missing (.inl rfl)]
  intro nowhere
  cases nowhere (heightDomain "vertex") List.mem_cons_self

end Ballot

end FieldSurvey
