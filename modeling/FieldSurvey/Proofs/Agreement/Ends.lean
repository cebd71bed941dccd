import FieldSurvey.Proofs.Agreement.Queries

/-!
How a group ends that asks about a whole dataset. After the look through its own domains a process
only votes, adds up or tells a value, and of these only preparing the value to be told can fail. What
the others find in their domains, and what they are told, leads all of them to one result.
-/

namespace FieldSurvey

namespace MetadataQuery

open ProcessGroup Collective

def objectionText : MetadataQuery → String → String
  | fieldAssociation field, association =>
      let name := field.putInto
      s!"field '{name}' has unsupported association '{association}'"
  | fieldType field, typeName =>
      let name := field.putInto
      s!"field '{name}' has values of type '{typeName}'"
  | coordinateType topology, typeName =>
      let name := topology.putInto
      s!"coordinates of topology '{name}' have type '{typeName}'"
  | _, _ => ""

def disagreementText : MetadataQuery → String
  | fieldAssociation field =>
      let name := field.putInto
      s!"field '{name}' is vertex-associated on some domains and element-associated on others"
  | fieldType field =>
      let name := field.putInto
      s!"field '{name}' is float on some domains and double on others"
  | spatialDimensions topology =>
      let name := topology.putInto
      s!"topology '{name}' is 2-D on some domains and 3-D on others"
  | isScalarField field =>
      let name := field.putInto
      s!"field '{name}' is scalar on some domains and multi-component on others"
  | _ => ""

def conclude (query : MetadataQuery) (vote : Vote) : Collective Float Answer :=
  match query.voted vote with
  | .ok answer => .finish (.ok answer)
  | .error cause =>
      if vote = .both then complain query.disagreementText cause else .fail cause

def object (query : MetadataQuery) (group : ProcessGroup) (finding : Finding) :
    Collective Float Unit :=
  group.objectIfAny finding.objection query.objectionText query.objectionCause

def tail (query : MetadataQuery) (group : ProcessGroup) (finding : Finding) :
    Collective Float Answer :=
  match query with
  | hasField _ => group.anyTrue finding.first >>= fun found => query.conclude (.of found false)
  | hasTopology _ => group.anyTrue finding.first >>= fun found => query.conclude (.of found false)
  | fieldAssociation _ =>
      query.object group finding >>= fun _ =>
        group.vote finding.first finding.second >>= query.conclude
  | fieldType _ =>
      query.object group finding >>= fun _ =>
        group.vote finding.first finding.second >>= query.conclude
  | fieldTopology _ =>
      group.longestText finding.text >>= fun shared => .finish (.ok (.value (.text shared)))
  | spatialDimensions _ => group.vote finding.first finding.second >>= query.conclude
  | coordinateType _ =>
      query.object group finding >>= fun _ =>
        group.anyTrue finding.first >>= fun single => query.conclude (.of single false)
  | topologyKinds _ =>
      group.sumCounts finding.counts >>= fun totals =>
        .finish (.ok (Engine.ofKinds (TopologyKind.all.zip totals)))
  | isScalarField _ => group.vote finding.first finding.second >>= query.conclude
  | stateVariable wanted =>
      group.tell (query.bid finding) (.stateNowhere wanted.putInto) fun arrived =>
        .finish (.ok (.value arrived))

/-- A query is a look through a process's own domains, followed by exchanges. -/
theorem program_eq (query : MetadataQuery) (group : ProcessGroup) (dataset : Dataset) :
    query.program group dataset =
      Collective.ofExcept (query.look dataset) >>= query.tail group := by
  cases query <;> simp only [program, look, Dataset.hasField, Dataset.hasTopology,
    Dataset.fieldAssociation, Dataset.fieldType, Dataset.fieldTopology, Dataset.spatialDimensions,
    Dataset.coordinateType, Dataset.topologyKinds, Dataset.isScalarField, Dataset.stateVariable,
    liftM_eq_ofExcept, ofExcept_bind, bind_bind]
  case hasField field =>
    congr 1
    funext holders
    congr 1
    funext found
    cases found <;> rfl
  case hasTopology topology =>
    congr 1
    funext holders
    congr 1
    funext found
    cases found <;> rfl
  case fieldAssociation field =>
    congr 1
    funext holders
    congr 1
    funext _
    congr 1
    funext vote
    cases vote <;> rfl
  case fieldType field =>
    congr 1
    funext holders
    congr 1
    funext types
    congr 1
    funext _
    congr 1
    funext vote
    cases vote <;> rfl
  case fieldTopology field => rfl
  case spatialDimensions topology =>
    congr 1
    funext holders
    congr 1
    funext inSpace
    congr 1
    funext vote
    cases vote <;> rfl
  case coordinateType topology =>
    congr 1
    funext holders
    congr 1
    funext types
    congr 1
    funext _
    congr 1
    funext single
    cases single <;> rfl
  case topologyKinds topology => rfl
  case isScalarField field =>
    congr 1
    funext holders
    congr 1
    funext vote
    cases vote <;> rfl
  case stateVariable wanted =>
    congr 1
    funext values
    have sameBid : (!values.isEmpty) = values.head?.isSome := by cases values <;> rfl
    rw [sameBid]
    simp only [ProcessGroup.tell, tail, pure_eq_ok, ofExcept_ok_bind]
    congr 1
    funext winner
    cases winner <;> rfl

theorem tail_waits {kind : GroupKind} {datasets : List Dataset}
    (connects : kind.Connects datasets.length) (several : 1 < datasets.length)
    {seat : ProcessGroup × Dataset} (isSeat : seat ∈ seats kind datasets) (query : MetadataQuery)
    (finding : Finding) : (query.tail seat.1 finding).Waits := by
  cases query with
  | hasField _ => exact (anyTrue_waits connects isSeat several _).bind _
  | hasTopology _ => exact (anyTrue_waits connects isSeat several _).bind _
  | fieldAssociation _ => exact (objectIfAny_waits connects isSeat several _ _ _).bind _
  | fieldType _ => exact (objectIfAny_waits connects isSeat several _ _ _).bind _
  | fieldTopology _ => exact (longestText_waits connects isSeat several _).bind _
  | spatialDimensions _ => exact (vote_waits connects isSeat several _ _).bind _
  | coordinateType _ => exact (objectIfAny_waits connects isSeat several _ _ _).bind _
  | topologyKinds _ => exact (sumCounts_waits connects isSeat several _).bind _
  | isScalarField _ => exact (vote_waits connects isSeat several _ _).bind _
  | stateVariable _ => exact tell_waits connects isSeat several _ _ _

@[simp] theorem standing_conclude (query : MetadataQuery) (vote : Vote) :
    (query.conclude vote).standing = .ended (query.voted vote) := by
  unfold conclude
  split
  · rename_i answer isAnswer
    rw [isAnswer]
    rfl
  · rename_i cause isCause
    rw [isCause]
    split <;> rfl

section Tail

variable {kind : GroupKind} {datasets : List Dataset} (found : ProcessGroup × Dataset → Finding)

/-- A vote between two alternatives comes to what the findings of all processes say. -/
theorem vote_ends (connects : kind.Connects datasets.length) (query : MetadataQuery) :
    EndsIn kind datasets
      (fun seat => seat.1.vote (found seat).first (found seat).second >>= query.conclude)
      (fun _ => .ok ())
      (query.voted (.of ((seats kind datasets).any fun seat => (found seat).first)
        ((seats kind datasets).any fun seat => (found seat).second))) := by
  apply EndsIn.of_outcomes (vote_all connects _ _ _)
  exact EndsIn.of_ended fun _ => standing_conclude query _

theorem anyTrue_ends (connects : kind.Connects datasets.length) (query : MetadataQuery)
    (onlyFirst : ∀ first second, query.voted (.of first false) = query.voted (.of first second)) :
    EndsIn kind datasets
      (fun seat => seat.1.anyTrue (found seat).first >>= fun first => query.conclude (.of first false))
      (fun _ => .ok ())
      (query.voted (.of ((seats kind datasets).any fun seat => (found seat).first)
        ((seats kind datasets).any fun seat => (found seat).second))) := by
  apply EndsIn.of_outcomes (anyTrue_all connects _ _)
  apply EndsIn.of_ended
  intro _
  rw [standing_conclude, onlyFirst]

theorem tail_ends (connects : kind.Connects datasets.length) (query : MetadataQuery)
    (looked : ∀ seat ∈ seats kind datasets, query.look seat.2 = .ok (found seat)) :
    EndsIn kind datasets (fun seat => query.tail seat.1 (found seat))
      (fun seat => seat.1.tellStep
        (if query.tells ((seats kind datasets).map found) then
          Bid.winner? (((seats kind datasets).map found).map query.bid)
        else none)
        (query.bid (found seat)))
      (query.conclusion kind ((seats kind datasets).map found)) := by
  cases query <;> simp only [conclusion, tells, Bool.false_eq_true, if_false, if_true,
    tellStep_none, List.any_map, List.map_map, List.length_map, length_seats]
  case hasField field =>
    apply anyTrue_ends found connects (hasField field)
    rintro (_ | _) (_ | _) <;> rfl
  case hasTopology topology =>
    apply anyTrue_ends found connects (hasTopology topology)
    rintro (_ | _) (_ | _) <;> rfl
  case fieldAssociation field =>
    exact objection_ends connects (fun seat => (found seat).objection) _ _
      (vote_ends found connects (fieldAssociation field))
  case fieldType field =>
    exact objection_ends connects (fun seat => (found seat).objection) _ _
      (vote_ends found connects (fieldType field))
  case fieldTopology field =>
    refine EndsIn.of_outcomes (congrArg outcomes (List.map_congr_left fun seat isSeat =>
      longestText_eq_tell connects isSeat (found seat).text _)) ?_
    exact tell_ends connects (fun seat => (fieldTopology field).bid (found seat)) _ fun _ _ => rfl
  case spatialDimensions topology => exact vote_ends found connects (spatialDimensions topology)
  case coordinateType topology =>
    apply objection_ends connects (fun seat => (found seat).objection)
    apply anyTrue_ends found connects (coordinateType topology)
    rintro (_ | _) (_ | _) <;> rfl
  case topologyKinds topology =>
    have even : ∀ seat ∈ seats kind datasets,
        (found seat).counts.length = TopologyKind.all.length := by
      intro seat isSeat
      obtain ⟨holders, _, finds⟩ := bind_eq_ok.mp (looked seat isSeat)
      rw [← Except.ok.inj finds, List.length_map]
    apply EndsIn.of_outcomes (sumCounts_all connects (fun seat => (found seat).counts) even _)
    exact EndsIn.of_ended fun _ => rfl
  case isScalarField field => exact vote_ends found connects (isScalarField field)
  case stateVariable wanted =>
    exact tell_ends connects (fun seat => (stateVariable wanted).bid (found seat)) _ fun _ _ => rfl

end Tail

theorem winner?_of_unlooked {datasets : List Dataset} {query : MetadataQuery}
    (failed : ∃ dataset ∈ datasets, ∃ cause, query.look dataset = .error cause) :
    query.winner? datasets = none := by
  obtain ⟨dataset, isShare, cause, fails⟩ := failed
  unfold winner?
  cases looked : datasets.mapM query.look with
  | error other => rfl
  | ok findings =>
      obtain ⟨finding, _, succeeds⟩ := exists_of_mapM_ok looked isShare
      rw [fails] at succeeds
      cases succeeds

/-- A query is decided by what each process does by itself: once all have looked through their own
domains and the winner of a vote has prepared what it tells, all end with what their findings come
to. -/
theorem ends {kind : GroupKind} {datasets : List Dataset} (connects : kind.Connects datasets.length)
    (query : MetadataQuery) :
    EndsIn kind datasets (fun seat => query.program seat.1 seat.2)
      (fun seat => query.ownStep datasets seat.1 seat.2) (query.result kind datasets) := by
  simp only [program_eq]
  apply EndsIn.after_step
  · intro several seat isSeat finding
    exact tail_waits connects several isSeat query finding
  · rintro ⟨seat, isSeat, cause, fails⟩ other finding
    have isShare := share_mem_of_mem_seats isSeat
    rw [winner?_of_unlooked ⟨seat.2, isShare, cause, fails⟩, tellStep_none]
  · intro found looked
    have allLooked : datasets.mapM query.look = .ok ((seats kind datasets).map found) := by
      conv => left; rw [← seats_shares kind datasets, List.mapM_map]
      exact mapM_of_forall_ok looked
    unfold winner? result
    rw [allLooked, ok_bind]
    exact tail_ends found connects query looked

section Failures

theorem failsAlone_tellStep (group : ProcessGroup) (winner : Option (Nat × Bid)) (bid : Bid) :
    FailsAlone (group.tellStep winner bid) := by
  unfold tellStep
  split
  · refine FailsAlone.bind ?_ fun _ => failsAlone_ok ()
    have packed : FailsAlone (pack bid.content >>= fun bytes =>
        pure (.value (.bytes bytes) : Payload Float)) :=
      (failsAlone_pack bid.content).bind fun _ => failsAlone_ok _
    cases group.kind with
    | alone => exact failsAlone_ok _
    | lockstep => exact packed
    | messagePassing => exact packed
    | unspecified => exact packed
  · exact failsAlone_ok ()

theorem failsAlone_ownStep (query : MetadataQuery) (datasets : List Dataset) (group : ProcessGroup)
    (dataset : Dataset) : FailsAlone (query.ownStep datasets group dataset) :=
  (query.failsAlone_look dataset).bind fun _ => failsAlone_tellStep group _ _

theorem failsAlone_arrival (kind : GroupKind) (content : Value) : FailsAlone (kind.arrival content) := by
  cases kind with
  | alone => exact failsAlone_ok content
  | lockstep => exact content.failsAlone_transit
  | messagePassing => exact content.failsAlone_transit
  | unspecified => exact content.failsAlone_transit

theorem told_not_deadlock {query : MetadataQuery} {arrived : Value} {cause : Error}
    (fails : query.told arrived = .error cause) : cause.category ≠ .deadlock := by
  cases query <;> cases fails <;> simp [objectionCause, Error.category]

theorem untold_not_deadlock (query : MetadataQuery) (size : Nat) :
    (query.untold size).category ≠ .deadlock := by
  cases query <;> simp [untold, Error.category]

theorem voted_not_deadlock {query : MetadataQuery} {vote : Vote} {cause : Error}
    (fails : query.voted vote = .error cause) : cause.category ≠ .deadlock := by
  cases query <;> cases vote <;> cases fails <;> simp [Error.category]

theorem toldResult_not_deadlock {query : MetadataQuery} {kind : GroupKind} {bids : List Bid}
    {size : Nat} {cause : Error}
    (fails : toldResult kind bids (query.untold size) query.told = .error cause) :
    cause.category ≠ .deadlock := by
  unfold toldResult at fails
  split at fails
  · rename_i bid _
    cases arrives : kind.arrival bid.content with
    | error other =>
        have isOwn := failsAlone_arrival kind bid.content other arrives
        rw [arrives] at fails
        cases fails
        exact isOwn.1
    | ok arrived =>
        rw [arrives, ok_bind] at fails
        exact told_not_deadlock fails
  · cases fails
    exact untold_not_deadlock query size

theorem result_not_deadlock {query : MetadataQuery} {kind : GroupKind} {datasets : List Dataset}
    {cause : Error} (fails : query.result kind datasets = .error cause) :
    cause.category ≠ .deadlock := by
  unfold result at fails
  cases looked : datasets.mapM query.look with
  | error other =>
      have isOwn := FailsAlone.mapM (fun dataset _ => query.failsAlone_look dataset) other looked
      rw [looked] at fails
      cases fails
      exact isOwn.1
  | ok findings =>
      rw [looked, ok_bind] at fails
      unfold conclusion at fails
      split at fails
      · exact toldResult_not_deadlock fails
      · split at fails
        · cases fails
        · exact voted_not_deadlock fails

end Failures

/-- If no process fails in what it does by itself, all end with one result, and none is left waiting.
Otherwise a process that fails by itself ends with that failure, and every other one waits for ever.
So a group ends alike exactly if these steps do; and where one process finds that the domains
disagree, all do. -/
theorem ends_as_steps_do (query : MetadataQuery) (kind : GroupKind) (datasets : List Dataset)
    (connects : kind.Connects datasets.length) :
    ((∀ seat ∈ seats kind datasets, query.ownStep datasets seat.1 seat.2 = .ok ()) →
      ∃ result, together kind query.program datasets = datasets.map (fun _ => result) ∧
        ∀ cause, result = .error cause → cause.category ≠ .deadlock) ∧
    ((∃ seat ∈ seats kind datasets, ∃ cause,
        query.ownStep datasets seat.1 seat.2 = .error cause) →
      together kind query.program datasets =
        (seats kind datasets).map fun seat =>
          Collective.leftWaiting (query.ownStep datasets seat.1 seat.2)) ∧
    (EndAlike (together kind query.program datasets) ↔
      EndAlike ((seats kind datasets).map fun seat => query.ownStep datasets seat.1 seat.2)) ∧
    (∀ cause, .error cause ∈ together kind query.program datasets →
      cause.category = .consistency →
      ∀ outcome ∈ together kind query.program datasets, outcome = .error cause) := by
  have isDecided := query.ends connects
  have agrees : (∀ seat ∈ seats kind datasets, query.ownStep datasets seat.1 seat.2 = .ok ()) →
      ∃ result, together kind query.program datasets = datasets.map (fun _ => result) ∧
        ∀ cause, result = .error cause → cause.category ≠ .deadlock := by
    intro succeeded
    exact ⟨_, isDecided.agree succeeded, fun _ => result_not_deadlock⟩
  refine ⟨agrees, isDecided.strand, endAlike_iff_ownSteps agrees isDecided.strand, ?_⟩
  intro cause isOutcome isDisagreement
  by_cases failed : ∃ seat ∈ seats kind datasets, ∃ cause,
      query.ownStep datasets seat.1 seat.2 = .error cause
  · -- Where some own step fails, no process ends with a disagreement.
    have stranded : together kind query.program datasets = _ := isDecided.strand failed
    rw [stranded] at isOutcome
    obtain ⟨seat, _, ends⟩ := List.mem_map.mp isOutcome
    have isOwn := query.failsAlone_ownStep datasets seat.1 seat.2
    cases stepped : query.ownStep datasets seat.1 seat.2 with
    | ok _ =>
        rw [stepped] at ends
        cases ends
        cases isDisagreement
    | error other =>
        rw [stepped] at ends
        cases ends
        exact absurd isDisagreement (isOwn _ stepped).2
  · have succeeded : ∀ seat ∈ seats kind datasets,
        query.ownStep datasets seat.1 seat.2 = .ok () := by
      intro seat isSeat
      cases stepped : query.ownStep datasets seat.1 seat.2 with
      | ok _ => rfl
      | error other => exact absurd ⟨seat, isSeat, other, stepped⟩ failed
    obtain ⟨result, same, _⟩ := agrees succeeded
    rw [same] at isOutcome ⊢
    obtain ⟨_, _, isResult⟩ := List.mem_map.mp isOutcome
    intro outcome isOther
    obtain ⟨_, _, rfl⟩ := List.mem_map.mp isOther
    exact isResult

def emptyFlowDomain : Domain :=
  ⟨[], [], [("flow", ⟨"flow", "vertex", "mesh", .components []⟩)], []⟩

theorem ends_as_steps_do_for_two :
    GroupKind.lockstep.Connects 2 ∧
    together .lockstep (fieldType (.text "flow")).program [[emptyFlowDomain], []] =
      [.error (.noComponents "flow"), .error .deadlock] ∧
    ∃ result, together .messagePassing (fieldType (.text "flow")).program [[], []] =
      [result, result] := by
  refine ⟨by decide, ?_, ?_⟩
  · obtain ⟨_, strand, _⟩ := ends_as_steps_do (fieldType (.text "flow")) .lockstep
      [[emptyFlowDomain], []] (by decide)
    exact strand ⟨_, List.mem_cons_self, .noComponents "flow", rfl⟩
  · obtain ⟨agree, _⟩ := ends_as_steps_do (fieldType (.text "flow")) .messagePassing
      [[], []] (by decide)
    have succeeded : ∀ seat ∈ seats .messagePassing [([] : Dataset), []],
        (fieldType (.text "flow")).ownStep [[], []] seat.1 seat.2 = .ok () := by
      intro seat isSeat
      rcases List.mem_pair.mp isSeat with rfl | rfl <;> rfl
    obtain ⟨result, same, _⟩ := agree succeeded
    exact ⟨result, same⟩

/-- A field without components on one of two processes has no type there, and the other process waits
for ever to vote on it. -/
theorem type_of_no_components_strands_other :
    ¬ EndAlike (together .lockstep (fieldType (.text "flow")).program [[emptyFlowDomain], []]) := by
  have ends : together .lockstep (fieldType (.text "flow")).program [[emptyFlowDomain], []] =
      [.error (.noComponents "flow"), .error .deadlock] := rfl
  rw [ends]
  exact not_endAlike_of_deadlock (by simp)

end MetadataQuery

end FieldSurvey
