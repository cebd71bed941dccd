import FieldSurvey.Proofs.Group.Telling
import FieldSurvey.Proofs.Packed.Refusal

/-!
The queries about a whole dataset, each taken apart: what a process finds in its own domains, what it
has to tell the others, and what the findings of all processes come to.
-/

namespace FieldSurvey

/-- The queries about a whole dataset, each for the name of a field, a topology or a state variable. -/
inductive MetadataQuery where
  | hasField (field : Value)
  | hasTopology (topology : Value)
  | fieldAssociation (field : Value)
  | fieldType (field : Value)
  | fieldTopology (field : Value)
  | spatialDimensions (topology : Value)
  | coordinateType (topology : Value)
  | topologyKinds (topology : Value)
  | isScalarField (field : Value)
  | stateVariable (wanted : Value)

/-- What a process finds in its own domains, as far as a query asks: whether it is for the first or the
second alternative of a vote, what it objects to, and what it counts or would tell. -/
structure Finding where
  first : Bool := false
  second : Bool := false
  objection : Option String := none
  text : String := ""
  counts : List Int := []
  value : Option Value := none
  deriving Inhabited

namespace MetadataQuery

open ProcessGroup

def program : MetadataQuery → ProcessGroup → Dataset → Collective Float Answer
  | hasField field, group, dataset => do
      return .value (.truth (← dataset.hasField group field))
  | hasTopology topology, group, dataset => do
      return .value (.truth (← dataset.hasTopology group topology))
  | fieldAssociation field, group, dataset => do
      return .value (.text (← dataset.fieldAssociation group field))
  | fieldType field, group, dataset => do
      return .value (.text (← dataset.fieldType group field))
  | fieldTopology field, group, dataset => do
      return .value (.text (← dataset.fieldTopology group field))
  | spatialDimensions topology, group, dataset => do
      return .value (.whole (← dataset.spatialDimensions group topology))
  | coordinateType topology, group, dataset => do
      return .value (.text (← dataset.coordinateType group topology))
  | topologyKinds topology, group, dataset => do
      return Engine.ofKinds (← dataset.topologyKinds group topology)
  | isScalarField field, group, dataset => do
      return .value (.truth (← dataset.isScalarField group field))
  | stateVariable wanted, group, dataset => do
      return .value (← dataset.stateVariable group wanted)

def onTopology? (engine : Engine) (bound : Engine.Bound) (ask : Value → MetadataQuery) :
    Option MetadataQuery :=
  (engine.requiredTopology (bound.get "topology")).toOption.map ask

def ofQuery? (engine : Engine) (query : Query) (bound : Engine.Bound) : Option MetadataQuery :=
  match query with
  | .hasField => some (hasField (bound.valueOf "field"))
  | .hasTopology => some (hasTopology (bound.valueOf "topology"))
  | .fieldAssociation => some (fieldAssociation (bound.valueOf "field"))
  | .fieldType => some (fieldType (bound.valueOf "field"))
  | .fieldTopology => some (fieldTopology (bound.valueOf "field"))
  | .isScalarField => some (isScalarField (bound.valueOf "field"))
  | .stateVariable => some (stateVariable (bound.valueOf "name"))
  | .spatialDimensions => onTopology? engine bound spatialDimensions
  | .coordinateType => onTopology? engine bound coordinateType
  | .topologyKinds => onTopology? engine bound topologyKinds
  | _ => none

theorem onTopology?_eq_some {engine : Engine} {bound : Engine.Bound} {ask : Value → MetadataQuery}
    {asked : MetadataQuery} (isAsked : onTopology? engine bound ask = some asked) :
    ∃ topology, engine.requiredTopology (bound.get "topology") = .ok topology ∧
      ask topology = asked := by
  unfold onTopology? at isAsked
  cases required : engine.requiredTopology (bound.get "topology") with
  | error cause =>
      rw [required] at isAsked
      cases isAsked
  | ok topology =>
      rw [required] at isAsked
      exact ⟨topology, rfl, Option.some.inj isAsked⟩

/-- An engine answers such a query by its program. -/
theorem answer_eq_program {engine : Engine} {dataset : Dataset} {query : Query}
    {bound : Engine.Bound} {asked : MetadataQuery} (isAsked : ofQuery? engine query bound = some asked) :
    engine.answer dataset query bound = asked.program engine.group dataset := by
  unfold ofQuery? at isAsked
  split at isAsked
  case h_8 | h_9 | h_10 =>
    obtain ⟨topology, required, rfl⟩ := onTopology?_eq_some isAsked
    unfold Engine.answer
    simp only [required]
    rfl
  all_goals cases isAsked
  all_goals rfl

/-- What a process finds when it looks through its own domains. -/
def look : MetadataQuery → Dataset → Except Error Finding
  | hasField field, dataset => do
      let holders ← dataset.havingField field
      return { first := !holders.isEmpty }
  | hasTopology topology, dataset => do
      let holders ← dataset.havingTopology topology
      return { first := !holders.isEmpty }
  | fieldAssociation field, dataset => do
      let holders ← dataset.havingField field
      let associations := holders.map fun holder => holder.2.association
      return {
        first := associations.contains "vertex"
        second := associations.contains "element"
        objection := Dataset.unsupportedAssociation? associations }
  | fieldType field, dataset => do
      let holders ← dataset.havingField field
      let types ← holders.mapM fun holder => holder.2.elementType
      return {
        first := types.contains (.float .single)
        second := types.contains (.float .double)
        objection := Dataset.notFloating? types }
  | fieldTopology field, dataset => do
      let holders ← dataset.havingField field
      return { text := (holders.head?.map fun holder => holder.2.topology).getD "" }
  | spatialDimensions topology, dataset => do
      let holders ← dataset.havingTopology topology
      let inSpace ← holders.mapM fun holder => do
        let found ← holder.1.chooseTopology topology
        holder.1.isThreeDimensional found
      return { first := inSpace.contains true, second := inSpace.contains false }
  | coordinateType topology, dataset => do
      let holders ← dataset.havingTopology topology
      let found ← holders.mapM fun holder => Dataset.coordinateType? topology holder.1
      let types := found.filterMap id
      return {
        first := types.contains (.float .single)
        objection := Dataset.notFloating? types }
  | topologyKinds topology, dataset => do
      let holders ← dataset.havingTopology topology
      let kinds := holders.map fun holder => holder.2.kind
      return { counts := TopologyKind.all.map fun kind => (kinds.count kind : Int) }
  | isScalarField field, dataset => do
      let holders ← dataset.havingField field
      let scalar := holders.map fun holder => holder.2.isScalar
      return { first := scalar.contains true, second := scalar.contains false }
  | stateVariable wanted, dataset => do
      let values ← dataset.havingState wanted
      return { value := values.head? }

/-- What a process has to tell the others if it wins the vote on that. -/
def bid : MetadataQuery → Finding → Bid
  | fieldTopology _, finding => .ofText finding.text
  | stateVariable _, finding => ⟨finding.value.getD .null, Scalar.zero, finding.value.isSome⟩
  | _, finding => .ofText (finding.objection.getD "")

/-- Whether a process tells the others something: the answer itself, or what some process objects to. -/
def tells : MetadataQuery → List Finding → Bool
  | fieldTopology _, _ => true
  | stateVariable _, _ => true
  | fieldAssociation _, findings => findings.any fun finding => finding.objection.isSome
  | fieldType _, findings => findings.any fun finding => finding.objection.isSome
  | coordinateType _, findings => findings.any fun finding => finding.objection.isSome
  | _, _ => false

def objectionCause : MetadataQuery → String → Error
  | fieldAssociation field, association => .unsupportedAssociation association field.putInto
  | fieldType field, typeName => .valuesNotFloating field.putInto typeName
  | coordinateType topology, typeName => .coordinatesNotFloating topology.putInto typeName
  | _, _ => .notImplemented

/-- What the processes make of a value that they are told. -/
def told : MetadataQuery → Value → Except Error Answer
  | fieldTopology _, arrived => .ok (.value (.text arrived.spelled))
  | stateVariable _, arrived => .ok (.value arrived)
  | query, arrived => .error (query.objectionCause arrived.spelled)

/-- The error of a group in which no process has anything to tell. -/
def untold : MetadataQuery → Nat → Error
  | stateVariable wanted, _ => .stateNowhere wanted.putInto
  | _, size => .rootOutside (toString (-1 : Int)) size

/-- What a vote comes to. -/
def voted : MetadataQuery → Vote → Except Error Answer
  | hasField _, vote => .ok (.value (.truth (vote = .both ∨ vote = .first)))
  | hasTopology _, vote => .ok (.value (.truth (vote = .both ∨ vote = .first)))
  | fieldAssociation field, vote =>
      match vote with
      | .both => .error (.associationsDiffer field.putInto)
      | .neither => .error (.fieldNowhere field.putInto)
      | .first => .ok (.value (.text "vertex"))
      | .second => .ok (.value (.text "element"))
  | fieldType field, vote =>
      match vote with
      | .both => .error (.typesDiffer field.putInto)
      | .neither => .error (.fieldNowhere field.putInto)
      | .first => .ok (.value (.text "float"))
      | .second => .ok (.value (.text "double"))
  | spatialDimensions topology, vote =>
      match vote with
      | .both => .error (.dimensionsDiffer topology.putInto)
      | .neither => .error (.topologyNowhere topology.putInto)
      | .first => .ok (.value (.whole 3))
      | .second => .ok (.value (.whole 2))
  | coordinateType _, vote =>
      .ok (.value (.text (if vote = .both ∨ vote = .first then "float" else "double")))
  | isScalarField field, vote =>
      match vote with
      | .both => .error (.componentsDiffer field.putInto)
      | .first => .ok (.value (.truth true))
      | _ => .ok (.value (.truth false))
  | _, _ => .ok (.value .null)

/-- What the findings of all processes come to, in the order of the ranks. -/
def conclusion (query : MetadataQuery) (kind : GroupKind) (findings : List Finding) :
    Except Error Answer :=
  if query.tells findings then
    toldResult kind (findings.map query.bid) (query.untold findings.length) query.told
  else
    match query with
    | topologyKinds _ =>
        .ok (Engine.ofKinds (TopologyKind.all.zip
          (countTotals TopologyKind.all.length (findings.map Finding.counts))))
    | query => query.voted (.of (findings.any Finding.first) (findings.any Finding.second))

/-- The bid that wins if every process can look through its own domains and something is told. -/
def winner? (query : MetadataQuery) (datasets : List Dataset) : Option (Nat × Bid) :=
  match datasets.mapM query.look with
  | .ok findings => if query.tells findings then Bid.winner? (findings.map query.bid) else none
  | .error _ => none

/-- What a process does by itself: it looks through its own domains, and if it wins the vote on who
tells the others something, it prepares that. -/
def ownStep (query : MetadataQuery) (datasets : List Dataset) (group : ProcessGroup)
    (dataset : Dataset) : Except Error Unit := do
  let finding ← query.look dataset
  group.tellStep (query.winner? datasets) (query.bid finding)

def result (query : MetadataQuery) (kind : GroupKind) (datasets : List Dataset) :
    Except Error Answer := do
  let findings ← datasets.mapM query.look
  query.conclusion kind findings

end MetadataQuery

section Looking

theorem Dataset.failsAlone_having {β : Type} (lookUp : String → Domain → Option β) (wanted : Value)
    (dataset : Dataset) : FailsAlone (dataset.having lookUp wanted) := by
  unfold having
  split
  · exact failsAlone_ok []
  · apply FailsAlone.bind
    · unfold Value.asName?
      repeat' split
      all_goals simp [Error.category]
    · intro name
      split <;> exact failsAlone_ok _

theorem Dataset.failsAlone_havingState (wanted : Value) (dataset : Dataset) :
    FailsAlone (dataset.havingState wanted) := by
  unfold havingState
  repeat' split
  all_goals simp [Error.category]

theorem Field.failsAlone_elementType (field : Field) : FailsAlone field.elementType := by
  unfold elementType
  split <;> simp [Error.category]

theorem Domain.failsAlone_coordset (name : String) (domain : Domain) :
    FailsAlone (domain.coordset name) := by
  apply FailsAlone.bind
  · unfold topology
    split <;> simp [Error.category]
  · intro topology
    repeat' split
    all_goals simp [Error.category]

/-- Asked for a text, a dataset yields every domain that defines it under that name. -/
theorem Dataset.having_text {β : Type} (lookUp : String → Domain → Option β) (name : String)
    (dataset : Dataset) :
    dataset.having lookUp (.text name) =
      .ok (dataset.filterMap fun domain => (lookUp name domain).map (domain, ·)) := by
  cases dataset <;> rfl

theorem Dataset.mem_having {β : Type} {lookUp : String → Domain → Option β} {wanted : Value}
    {dataset : Dataset} {holders : List (Domain × β)}
    (found : dataset.having lookUp wanted = .ok holders) {holder : Domain × β}
    (isHolder : holder ∈ holders) :
    ∃ name, wanted = .text name ∧ lookUp name holder.1 = some holder.2 := by
  by_cases isText : ∃ name, wanted = .text name
  · obtain ⟨name, rfl⟩ := isText
    rw [having_text] at found
    cases found
    obtain ⟨domain, _, looked⟩ := List.mem_filterMap.mp isHolder
    obtain ⟨content, finds, rfl⟩ := Option.map_eq_some_iff.mp looked
    exact ⟨name, rfl, finds⟩
  · -- Only a text can be the name of something that is defined.
    unfold having at found
    split at found
    · cases found
      cases isHolder
    · obtain ⟨name, named, found⟩ := bind_eq_ok.mp found
      have noName : name = none := by
        unfold Value.asName? at named
        split at named
        · exact absurd ⟨_, rfl⟩ isText
        · split at named <;> cases named
          rfl
      rw [noName] at found
      cases found
      cases isHolder

/-- A domain that defines a topology chooses it for its name, and its first one for the empty name. -/
theorem Domain.chooseTopology_of_has {name : String} {domain : Domain} {topology : Topology}
    (has : domain.topologies.find? name = some topology) :
    ∃ found, domain.chooseTopology (.text name) = .ok found ∧ (name ≠ "" → found = name) := by
  have isChosen : domain.chooseTopology (.text name) = domain.topologyName (some name) := rfl
  rw [isChosen]
  unfold topologyName
  by_cases unnamed : name = ""
  · rw [unnamed] at has ⊢
    cases topologies : domain.topologies with
    | nil =>
        rw [topologies] at has
        cases has
    | cons first rest => exact ⟨first.1, rfl, fun named => absurd rfl named⟩
  · refine ⟨name, ?_, fun _ => rfl⟩
    have isNamed : Option.filter (fun name : String => !name.isEmpty) (some name) = some name := by
      simp [Option.filter, unnamed]
    simp only [isNamed, hasTopology, Registry.has, has]
    rfl

end Looking

namespace MetadataQuery

open ProcessGroup

theorem failsAlone_atHolders {β γ : Type} {wanted : Value} {dataset : Dataset}
    (step : String → Domain → Except Error β) {next : List β → Except Error γ}
    (steps : ∀ domain found, FailsAlone (step found domain)) (after : ∀ found, FailsAlone (next found)) :
    FailsAlone (do
      let holders ← dataset.havingTopology wanted
      let found ← holders.mapM fun holder => do
        let found ← holder.1.chooseTopology wanted
        step found holder.1
      next found) := by
  intro cause fails
  cases held : dataset.havingTopology wanted with
  | error other =>
      rw [held] at fails
      cases fails
      exact Dataset.failsAlone_having _ _ _ _ held
  | ok holders =>
      rw [held, ok_bind] at fails
      refine FailsAlone.bind (FailsAlone.mapM ?_) after cause fails
      intro holder isHolder
      obtain ⟨name, rfl, has⟩ := Dataset.mem_having held isHolder
      obtain ⟨found, chosen, _⟩ := Domain.chooseTopology_of_has has
      rw [chosen, ok_bind]
      exact steps holder.1 found

theorem failsAlone_look (query : MetadataQuery) (dataset : Dataset) :
    FailsAlone (query.look dataset) := by
  cases query with
  | hasField field =>
      apply (Dataset.failsAlone_having _ _ _).bind
      simp
  | hasTopology topology =>
      apply (Dataset.failsAlone_having _ _ _).bind
      simp
  | fieldAssociation field =>
      apply (Dataset.failsAlone_having _ _ _).bind
      simp
  | fieldType field =>
      apply (Dataset.failsAlone_having _ _ _).bind
      intro holders
      apply (FailsAlone.mapM fun holder _ => Field.failsAlone_elementType holder.2).bind
      simp
  | fieldTopology field =>
      apply (Dataset.failsAlone_having _ _ _).bind
      simp
  | spatialDimensions topology =>
      apply failsAlone_atHolders fun found domain => domain.isThreeDimensional found
      · intro holder found
        apply (Domain.failsAlone_coordset found holder).bind
        simp
      · simp
  | coordinateType topology =>
      apply failsAlone_atHolders fun found domain => do
        let coordset ← domain.coordset found
        return coordset.columns.head?.map Column.elementType
      · intro holder found
        apply (Domain.failsAlone_coordset found holder).bind
        simp
      · simp
  | topologyKinds topology =>
      apply (Dataset.failsAlone_having _ _ _).bind
      simp
  | isScalarField field =>
      apply (Dataset.failsAlone_having _ _ _).bind
      simp
  | stateVariable wanted =>
      apply (Dataset.failsAlone_havingState _ _).bind
      simp

end MetadataQuery

end FieldSurvey
