import FieldSurvey.Proofs.Agreement.Ends
import FieldSurvey.Proofs.Engine.Calls
import FieldSurvey.Proofs.Engine.Programs
import FieldSurvey.Proofs.Group.Solitary
import FieldSurvey.Proofs.Statistics.Vote

/-!
An engine in a group of one against an engine without a group. Both end alike, except for what the
process tells its group: the place of an extreme entry, the value of a state variable, the topology of
a field, and the text of an objection. In a group this travels packed, and a query ends alike exactly
if it survives that.
-/

namespace FieldSurvey

open ProcessGroup Collective

/-- The answer with plain numbers in place of those with a type. -/
def Answer.untyped : Answer → Answer
  | .value content => .value content.untyped
  | .scalar number => .scalar number.untyped
  | other => other

/-- Two processes return equal answers, a number with a type counting as the plain number, or they
fail for causes of one class. -/
def SameEnd : Except Error Answer → Except Error Answer → Prop
  | .ok answer, .ok other => answer.untyped = other.untyped
  | .error cause, .error other => cause.category = other.category
  | _, _ => False

namespace Query

/-- What a process that ends a query in this way has told its group. -/
def told? : Query → Except Error Answer → Option Value
  | .least, .ok (.extremum found) => some (.place found.position found.domainId)
  | .greatest, .ok (.extremum found) => some (.place found.position found.domainId)
  | .stateVariable, .ok (.value content) => some content
  | .fieldTopology, .ok (.value (.text topology)) => some (.text topology)
  | .fieldAssociation, .error (.unsupportedAssociation association _) => some (.text association)
  | .fieldType, .error (.valuesNotFloating _ typeName) => some (.text typeName)
  | .coordinateType, .error (.coordinatesNotFloating _ typeName) => some (.text typeName)
  | _, _ => none

/-- How a process ends that is told something else than it told. -/
def retold : Query → Except Error Answer → Value → Except Error Answer
  | .stateVariable, .ok (.value _), arrived => .ok (.value arrived)
  | _, outcome, _ => outcome

/-- How a query ends in a group of one of a kind, if it ends in the given way without a group. -/
def within (kind : GroupKind) (query : Query) (outcome : Except Error Answer) :
    Except Error Answer :=
  match query.told? outcome with
  | none => outcome
  | some content => kind.relay content >>= query.retold outcome

end Query

theorem Query.within_of_untold {kind : GroupKind} {query : Query} {outcome : Except Error Answer}
    (untold : query.told? outcome = none) : query.within kind outcome = outcome := by
  unfold within
  rw [untold]

theorem Query.within_of_told {kind : GroupKind} {query : Query} {outcome : Except Error Answer}
    {content : Value} (told : query.told? outcome = some content) :
    query.within kind outcome = kind.relay content >>= query.retold outcome := by
  unfold within
  rw [told]

/-- What is asked for in a wrong way tells nothing. -/
theorem Query.within_wrongType (kind : GroupKind) (query : Query) :
    query.within kind (.error .wrongType) = .error .wrongType := by
  cases query <;> rfl

theorem connects_alone : GroupKind.alone.Connects 1 := rfl

/-- A dataset refuses a search only for what cannot be looked up. -/
theorem Dataset.having_refused {β : Type} {lookUp : String → Domain → Option β} {wanted : Value}
    {dataset : Dataset} {cause : Error} (refused : dataset.having lookUp wanted = .error cause) :
    cause = .wrongType := by
  unfold having Value.asName? at refused
  split at refused
  · cases refused
  · split at refused
    · cases refused
    · split at refused <;> cases refused
      rfl

namespace MetadataQuery

variable {kind : GroupKind}

def query : MetadataQuery → Query
  | hasField _ => .hasField
  | hasTopology _ => .hasTopology
  | fieldAssociation _ => .fieldAssociation
  | fieldType _ => .fieldType
  | fieldTopology _ => .fieldTopology
  | spatialDimensions _ => .spatialDimensions
  | coordinateType _ => .coordinateType
  | topologyKinds _ => .topologyKinds
  | isScalarField _ => .isScalarField
  | stateVariable _ => .stateVariable

@[simp] theorem solo_conclude (asked : MetadataQuery) (vote : Vote) :
    (asked.conclude vote).solo = asked.voted vote := by
  unfold conclude
  split
  · rename_i answer isAnswer
    rw [isAnswer]
    rfl
  · rename_i cause isCause
    rw [isCause]
    split <;> rfl

/-- An objection is told before it is raised. -/
theorem solo_object (connects : kind.Connects 1) (asked : MetadataQuery) (finding : Finding)
    (vote : Collective Float Answer) :
    (asked.object (single kind) finding >>= fun _ => vote).solo =
      match finding.objection with
      | none => vote.solo
      | some shared => kind.relay (.text shared) >>= fun _ => .error (asked.objectionCause shared) := by
  unfold object
  rw [solo_bind, solo_objectIfAny connects]
  cases finding.objection with
  | none => rfl
  | some shared => simp only []; cases kind.relay (.text shared) <;> rfl

/-- A query that objects or else votes tells nothing but its objection. -/
theorem solo_tail_of_objecting (connects : kind.Connects 1) {asked : MetadataQuery}
    {finding : Finding} {rest : ProcessGroup → Collective Float Answer} {vote : Vote}
    (isTail : ∀ group, asked.tail group finding = asked.object group finding >>= fun _ => rest group)
    (votes : ∀ kind : GroupKind, kind.Connects 1 → (rest (single kind)).solo = asked.voted vote)
    (untold : asked.query.told? (asked.voted vote) = none)
    (told : ∀ shared, asked.query.told? (.error (asked.objectionCause shared)) = some (.text shared) ∧
      ∀ arrived, asked.query.retold (.error (asked.objectionCause shared)) arrived =
        .error (asked.objectionCause shared)) :
    (asked.tail (single kind) finding).solo =
      asked.query.within kind (asked.tail (single .alone) finding).solo := by
  rw [isTail, isTail, solo_object connects, solo_object connects_alone]
  cases finding.objection with
  | none =>
      simp only [votes kind connects, votes .alone connects_alone]
      exact (Query.within_of_untold untold).symm
  | some shared =>
      have alone : (GroupKind.alone.relay (.text shared) >>= fun _ =>
          (.error (asked.objectionCause shared) : Except Error Answer)) =
          .error (asked.objectionCause shared) := rfl
      simp only [alone]
      rw [Query.within_of_told (told shared).1, funext (told shared).2]

theorem solo_tail (connects : kind.Connects 1) (asked : MetadataQuery) (finding : Finding) :
    (asked.tail (single kind) finding).solo =
      asked.query.within kind (asked.tail (single .alone) finding).solo := by
  have voting (asked : MetadataQuery) (kind : GroupKind) (connects : kind.Connects 1) :
      ((single kind).vote finding.first finding.second >>= asked.conclude).solo =
        asked.voted (.of finding.first finding.second) := by
    simp only [solo_bind, solo_vote connects, ok_bind, solo_conclude]
  have asking (asked : MetadataQuery) (kind : GroupKind) (connects : kind.Connects 1) :
      ((single kind).anyTrue finding.first >>= fun found =>
        asked.conclude (.of found false)).solo = asked.voted (.of finding.first false) := by
    simp only [solo_bind, solo_anyTrue connects, ok_bind, solo_conclude]
  cases asked with
  | hasField field =>
      exact (asking (hasField field) kind connects).trans
        (asking (hasField field) .alone connects_alone).symm
  | hasTopology topology =>
      exact (asking (hasTopology topology) kind connects).trans
        (asking (hasTopology topology) .alone connects_alone).symm
  | fieldAssociation field =>
      exact solo_tail_of_objecting connects (fun _ => rfl) (voting (fieldAssociation field))
        (by cases Vote.of finding.first finding.second <;> rfl) fun _ => ⟨rfl, fun _ => rfl⟩
  | fieldType field =>
      exact solo_tail_of_objecting connects (fun _ => rfl) (voting (fieldType field))
        (by cases Vote.of finding.first finding.second <;> rfl) fun _ => ⟨rfl, fun _ => rfl⟩
  | fieldTopology field =>
      have alone : ((fieldTopology field).tail (single .alone) finding).solo =
          .ok (.value (.text finding.text)) := by
        simp only [tail, solo_bind, solo_longestText connects_alone]
        rfl
      rw [alone, Query.within_of_told rfl]
      simp only [tail, solo_bind, solo_longestText connects]
      cases kind.relay (.text finding.text) <;> rfl
  | spatialDimensions topology =>
      exact (voting (spatialDimensions topology) kind connects).trans
        (voting (spatialDimensions topology) .alone connects_alone).symm
  | coordinateType topology =>
      exact solo_tail_of_objecting connects (fun _ => rfl) (asking (coordinateType topology)) rfl
        fun _ => ⟨rfl, fun _ => rfl⟩
  | topologyKinds topology =>
      simp only [tail, solo_bind, solo_sumCounts connects, solo_sumCounts connects_alone]
      rfl
  | isScalarField field =>
      exact (voting (isScalarField field) kind connects).trans
        (voting (isScalarField field) .alone connects_alone).symm
  | stateVariable wanted =>
      have telling (kind : GroupKind) (connects : kind.Connects 1) :
          ((stateVariable wanted).tail (single kind) finding).solo =
            match finding.value with
            | none => .error (.stateNowhere wanted.putInto)
            | some content => kind.relay content >>= fun arrived => .ok (.value arrived) := by
        simp only [tail, ProcessGroup.tell, solo_bind, solo_selectExtreme connects, ok_bind, bid]
        cases finding.value with
        | none => rfl
        | some content =>
            simp only [Option.isSome_some, if_true, Option.getD_some, solo_bind, Nat.cast_zero,
              solo_broadcastValue connects]
            rfl
      rw [telling kind connects, telling .alone connects_alone]
      cases finding.value with
      | none => rfl
      | some content => rfl

/-- What goes wrong when a process looks through its own domains is no objection. -/
theorem untold_of_look {asked : MetadataQuery} {dataset : Dataset} {cause : Error}
    (fails : asked.look dataset = .error cause) : asked.query.told? (.error cause) = none := by
  have isOwn := asked.failsAlone_look dataset cause fails
  cases asked with
  | fieldAssociation field =>
      rcases bind_eq_error.mp fails with refused | ⟨holders, _, fails⟩
      · rw [Dataset.having_refused refused]
        rfl
      · cases fails
  | fieldType field => cases cause <;> first | rfl | exact absurd rfl isOwn.2
  | coordinateType topology => cases cause <;> first | rfl | exact absurd rfl isOwn.2
  | _ => rfl

theorem solo_program (connects : kind.Connects 1) (asked : MetadataQuery) (dataset : Dataset) :
    (asked.program (single kind) dataset).solo =
      asked.query.within kind (asked.program (single .alone) dataset).solo := by
  simp only [program_eq, solo_bind, solo_ofExcept]
  cases looked : asked.look dataset with
  | ok finding => exact solo_tail connects asked finding
  | error cause => exact (Query.within_of_untold (untold_of_look looked)).symm

end MetadataQuery

namespace FieldShare

variable {α : Type} [Scalar α] {kind : GroupKind} (connects : kind.Connects 1)

include connects

theorem solo_sum (share : FieldShare α) : (share.sum (single kind)).solo = share.ownSum := by
  unfold sum
  simp only [liftM_eq_ofExcept, solo_bind, solo_ofExcept, solo_rank? connects, solo_log,
    solo_reduceReal connects (show Reduction.sum.onReals? = some _ from rfl),
    solo_sumWhole connects, solo_pure, ok_bind]
  cases share.ownSum <;> rfl

theorem solo_average (share : FieldShare α) :
    (share.average (single kind)).solo = share.ownSum >>= fun sum =>
      if sum.count = 0 then .error (.averageUndefined share.name)
      else .ok (sum.total / Scalar.ofInt sum.count) := by
  unfold average
  rw [solo_bind, solo_sum connects]
  congr 1
  funext sum
  split <;> rfl

theorem solo_countOf (pick : Entries α → Nat) (share : FieldShare α) :
    (share.countOf pick (single kind)).solo = share.ownCount pick := by
  unfold countOf
  simp only [liftM_eq_ofExcept, solo_bind, solo_ofExcept, solo_sumWhole connects]
  unfold ownCount
  cases share.foldEntries (fun (count : Int) _ entries => .ok (count + pick entries)) 0 <;> rfl

theorem solo_finiteRange (share : FieldShare α) :
    (share.finiteRange (single kind)).solo = share.ownRange >>= fun range =>
      if Scalar.lt range.2 range.1 then .error (.noFiniteValues share.name) else .ok range := by
  unfold finiteRange
  simp only [liftM_eq_ofExcept, solo_bind, solo_ofExcept,
    solo_reduceReal connects (show Reduction.least.onReals? = some _ from rfl),
    solo_reduceReal connects (show Reduction.greatest.onReals? = some _ from rfl), ok_bind]
  congr 1
  funext range
  split <;> rfl

theorem solo_histogram (binning : Binning α) (share : FieldShare α) :
    (share.histogram (single kind) binning).solo =
      share.checkedCounts (.ok binning) >>= fun own =>
        .ok ⟨own.2.map Scalar.ofInt, binning.low, binning.high, binning.binCount⟩ := by
  unfold histogram checkedCounts
  simp only [liftM_eq_ofExcept, solo_bind, solo_ofExcept, solo_sumCounts connects, ok_bind]
  cases binEdges binning.low binning.high binning.binCount with
  | error cause => rfl
  | ok edges => cases share.ownCounts binning <;> rfl

omit [Scalar α] in
/-- A process that holds an extreme entry tells itself the place of it. -/
theorem solo_loggedExtremum (extreme : Extreme) (share : FieldShare Float) :
    (share.loggedExtremum extreme (single kind)).solo =
      share.ownExtremum extreme >>= fun own =>
        match own with
        | none => .error (.noDefinedValues share.name)
        | some found => found.place >>= fun place =>
            kind.relay (.place place.1 place.2) >>= fun _ =>
              .ok ⟨found.value, 0, place.2, place.1⟩ := by
  have taken := loggedExtremum_eq (fun (_ : Unit) => share) extreme (fun _ => rfl) (single kind, ())
  simp only at taken
  rw [taken, solo_bind, solo_ofExcept]
  congr 1
  funext own
  simp only [solo_bind, solo_selectExtreme connects, ok_bind, OwnExtremum.submission]
  cases own with
  | none => rfl
  | some found =>
      simp only [Option.isSome_some, if_true, Option.map_some, Option.getD_some, afterVote,
        OwnExtremum.told, solo_bind, solo_broadcastPlace connects]
      cases found.place with
      | error cause => rfl
      | ok place =>
          simp only [ok_bind]
          cases kind.relay (.place place.1 place.2) <;> rfl

end FieldShare

namespace Engine

variable {kind : GroupKind} (settings : Settings)

theorem solo_histogramOf (connects : kind.Connects 1) (dataset : Dataset)
    (field binCount low high : Value) :
    ((Engine.mk (single kind) settings).histogramOf dataset field binCount low high).solo =
      ((Engine.mk (single .alone) settings).histogramOf dataset field binCount low high).solo := by
  have sameRange : (askedRange dataset field low high (single kind)).solo =
      (askedRange dataset field low high (single .alone)).solo := by
    unfold askedRange
    cases (Answer.value low).isNull || (Answer.value high).isNull with
    | false => rfl
    | true =>
        simp only [if_true, solo_bind, FieldShare.solo_finiteRange connects,
          FieldShare.solo_finiteRange connects_alone]
  simp only [histogramOf_eq, solo_bind, sameRange, FieldShare.solo_histogram connects,
    FieldShare.solo_histogram connects_alone]

theorem solo_asHistogram (connects : kind.Connects 1) (dataset : Dataset) (given : Answer)
    (binCount : Value) :
    ((Engine.mk (single kind) settings).asHistogram dataset given binCount).solo =
      ((Engine.mk (single .alone) settings).asHistogram dataset given binCount).solo := by
  cases given with
  | histogram result => rfl
  | _ => exact solo_histogramOf settings connects dataset _ binCount .null .null

theorem solo_asCumulative (connects : kind.Connects 1) (dataset : Dataset) (given : Answer)
    (binCount : Value) :
    ((Engine.mk (single kind) settings).asCumulative dataset given binCount).solo =
      ((Engine.mk (single .alone) settings).asCumulative dataset given binCount).solo := by
  cases given with
  | histogram result => rfl
  | _ => simp only [asCumulative, solo_bind, solo_asHistogram settings connects]

theorem solo_countOver (connects : kind.Connects 1) (dataset : Dataset)
    (count : String → Domain → Except Error Int) (requested domain : Answer) :
    ((Engine.mk (single kind) settings).countOver dataset count requested domain).solo =
      ((Engine.mk (single .alone) settings).countOver dataset count requested domain).solo := by
  simp only [countOver_eq]
  cases domain.isNull with
  | false => rfl
  | true =>
      simp only [if_true, solo_bind, solo_sumWhole connects, solo_sumWhole connects_alone]

theorem solo_extremum_answer (connects : kind.Connects 1) (extreme : Extreme) (query : Query)
    (isAsked : ∀ found, query.told? (.ok (.extremum found)) = some (.place found.position found.domainId) ∧
      ∀ arrived, query.retold (.ok (.extremum found)) arrived = .ok (.extremum found))
    (untold : ∀ cause, query.told? (.error cause) = none) (share : FieldShare Float) :
    (share.loggedExtremum extreme (single kind) >>= fun found =>
        (pure (.extremum found) : Collective Float Answer)).solo =
      query.within kind (share.loggedExtremum extreme (single .alone) >>= fun found =>
        (pure (.extremum found) : Collective Float Answer)).solo := by
  simp only [solo_bind, FieldShare.solo_loggedExtremum connects,
    FieldShare.solo_loggedExtremum connects_alone]
  cases share.ownExtremum extreme with
  | error cause => exact (Query.within_of_untold (untold cause)).symm
  | ok own =>
      cases own with
      | none => exact (Query.within_of_untold (untold _)).symm
      | some found =>
          simp only [ok_bind]
          cases found.place with
          | error cause => exact (Query.within_of_untold (untold cause)).symm
          | ok place =>
              obtain ⟨position, domain⟩ := place
              simp only [ok_bind]
              have alone : ((GroupKind.alone.relay (.place position domain) >>= fun _ =>
                    (.ok ⟨found.value, 0, domain, position⟩ :
                      Except Error (FieldExtremum Float))) >>= fun result =>
                  (pure (Answer.extremum result) : Collective Float Answer).solo) =
                  .ok (.extremum ⟨found.value, 0, domain, position⟩) := rfl
              rw [alone, Query.within_of_told (isAsked _).1, funext (isAsked _).2]
              cases kind.relay (.place position domain) <;> rfl

theorem failsAlone_requiredTopology (engine : Engine) (requested : Answer) :
    FailsAlone (engine.requiredTopology requested) := by
  apply (Value.failsAlone_isTrue _).bind
  intro isGiven
  cases isGiven <;> simp [Error.category]

/-- A query about a topology fails alike for want of one. -/
theorem solo_topology_answer (connects : kind.Connects 1) (dataset : Dataset) (requested : Answer)
    (ask : Value → MetadataQuery) {query : Query} (isAsked : ∀ topology, (ask topology).query = query)
    (untold : ∀ cause : Error, cause.IsOwn → query.told? (.error cause) = none) :
    (Collective.ofExcept (requiredTopology ⟨aloneGroup, settings⟩ requested) >>= fun topology =>
        (ask topology).program (single kind) dataset).solo =
      query.within kind (Collective.ofExcept (requiredTopology ⟨aloneGroup, settings⟩ requested) >>=
        fun topology => (ask topology).program (single .alone) dataset).solo := by
  simp only [solo_bind, solo_ofExcept]
  cases required : requiredTopology ⟨aloneGroup, settings⟩ requested with
  | error cause =>
      have isOwn := failsAlone_requiredTopology ⟨aloneGroup, settings⟩ requested cause required
      exact (Query.within_of_untold (untold cause isOwn)).symm
  | ok topology =>
      rw [← isAsked topology]
      exact (ask topology).solo_program connects dataset

/-- A query in a group of one ends as what it tells survives. -/
theorem solo_answer (connects : kind.Connects 1) (dataset : Dataset) (query : Query)
    (bound : Bound) :
    ((Engine.mk (single kind) settings).answer dataset query bound).solo =
      query.within kind ((Engine.mk (single .alone) settings).answer dataset query bound).solo := by
  have alike (query : Query) (untold : ∀ outcome, query.told? outcome = none)
      (same : ((Engine.mk (single kind) settings).answer dataset query bound).solo =
        ((Engine.mk (single .alone) settings).answer dataset query bound).solo) :
      ((Engine.mk (single kind) settings).answer dataset query bound).solo =
        query.within kind ((Engine.mk (single .alone) settings).answer dataset query bound).solo := by
    rw [Query.within_of_untold (untold _)]
    exact same
  cases query with
  | sum =>
      apply alike .sum fun _ => rfl
      simp only [answer, solo_bind, FieldShare.solo_sum connects, FieldShare.solo_sum connects_alone]
  | average =>
      apply alike .average fun _ => rfl
      simp only [answer, solo_bind, FieldShare.solo_average connects,
        FieldShare.solo_average connects_alone]
  | least =>
      exact solo_extremum_answer connects .least .least (fun _ => ⟨rfl, fun _ => rfl⟩) (fun _ => rfl) _
  | greatest =>
      exact solo_extremum_answer connects .greatest .greatest (fun _ => ⟨rfl, fun _ => rfl⟩)
        (fun _ => rfl) _
  | histogram =>
      apply alike .histogram fun _ => rfl
      simp only [answer, solo_bind, solo_histogramOf settings connects]
  | entropy =>
      apply alike .entropy fun _ => rfl
      simp only [answer, solo_bind, solo_asHistogram settings connects]
  | density =>
      apply alike .density fun _ => rfl
      simp only [answer, solo_bind, solo_asHistogram settings connects]
  | cumulative =>
      apply alike .cumulative fun _ => rfl
      simp only [answer, solo_bind, solo_asHistogram settings connects]
  | quantile =>
      apply alike .quantile fun _ => rfl
      simp only [answer, solo_bind, solo_asCumulative settings connects]
  | undefinedCount =>
      apply alike .undefinedCount fun _ => rfl
      simp only [answer, FieldShare.undefinedCount, solo_bind, FieldShare.solo_countOf connects,
        FieldShare.solo_countOf connects_alone]
  | infiniteCount =>
      apply alike .infiniteCount fun _ => rfl
      simp only [answer, FieldShare.infiniteCount, solo_bind, FieldShare.solo_countOf connects,
        FieldShare.solo_countOf connects_alone]
  | fieldAssociation => exact (MetadataQuery.fieldAssociation _).solo_program connects dataset
  | fieldType => exact (MetadataQuery.fieldType _).solo_program connects dataset
  | fieldTopology => exact (MetadataQuery.fieldTopology _).solo_program connects dataset
  | spatialDimensions =>
      exact solo_topology_answer settings connects dataset (bound.get "topology")
        .spatialDimensions (fun _ => rfl) fun _ _ => rfl
  | hasField => exact (MetadataQuery.hasField _).solo_program connects dataset
  | hasTopology => exact (MetadataQuery.hasTopology _).solo_program connects dataset
  | elementCount =>
      apply alike .elementCount fun _ => rfl
      simp only [answer, solo_bind, solo_countOver settings connects]
  | pointCount =>
      apply alike .pointCount fun _ => rfl
      simp only [answer, solo_bind, solo_countOver settings connects]
  | vertexLocation => exact alike .vertexLocation (fun _ => rfl) rfl
  | elementLocation => exact alike .elementLocation (fun _ => rfl) rfl
  | elementPoints => exact alike .elementPoints (fun _ => rfl) rfl
  | coordinateType =>
      refine solo_topology_answer settings connects dataset (bound.get "topology")
        .coordinateType (fun _ => rfl) ?_
      intro cause isOwn
      cases cause <;> first | rfl | exact absurd rfl isOwn.2
  | topologyKinds =>
      exact solo_topology_answer settings connects dataset (bound.get "topology")
        .topologyKinds (fun _ => rfl) fun _ _ => rfl
  | isScalarField => exact (MetadataQuery.isScalarField _).solo_program connects dataset
  | stateVariable => exact (MetadataQuery.stateVariable _).solo_program connects dataset

theorem solo_call (connects : kind.Connects 1) (dataset : Dataset) (query : Query)
    (arguments : Arguments Answer) :
    ((Engine.mk (single kind) settings).call dataset query arguments).solo =
      query.within kind ((Engine.mk (single .alone) settings).call dataset query arguments).solo := by
  unfold call
  simp only [liftM_eq_ofExcept, solo_bind, solo_ofExcept]
  cases binds : query.signature.bind arguments with
  | ok bound => exact solo_answer settings connects dataset query bound
  | error cause =>
      rw [Signature.eq_wrongType_of_bind binds, error_bind, error_bind, Query.within_wrongType]

end Engine

/-- How a query ends in a group of one, told by how it ends without a group: in the same way, unless
something was told. What was told is refused if it cannot be packed or read, and otherwise stands in
the answer as it arrived. -/
structure EndsInGroupOfOne (query : Query) (alone within : Except Error Answer) : Prop where
  untold : query.told? alone = none → within = alone
  refused : ∀ content cause, query.told? alone = some content → content.relayed = .error cause →
    within = .error cause
  arrived : ∀ content arrived, query.told? alone = some content → content.relayed = .ok arrived →
    within = query.retold alone arrived
  alike : SameEnd alone within ↔ ∀ content, query.told? alone = some content → content.Survives

theorem sameEnd_self (outcome : Except Error Answer) : SameEnd outcome outcome := by
  cases outcome <;> rfl

/-- What is told is the value of a state variable, or it arrives as it was sent if it arrives at all,
and a refusal of it is no end that the query has by itself. -/
theorem Query.told_cases {query : Query} {outcome : Except Error Answer} {content : Value}
    (told : query.told? outcome = some content) :
    (outcome = .ok (.value content) ∧ ∀ arrived, query.retold outcome arrived = .ok (.value arrived)) ∨
    (content.Arrives ∧ (∀ arrived, query.retold outcome arrived = outcome) ∧
      ∀ cause, content.relayed = .error cause → ¬ SameEnd outcome (.error cause)) := by
  unfold told? at told
  split at told
  case h_1 found | h_2 found =>
    cases told
    exact .inr ⟨Value.place_arrives _ _, fun _ => rfl, fun _ _ same => same⟩
  case h_3 =>
    cases told
    exact .inl ⟨rfl, fun _ => rfl⟩
  case h_4 topology =>
    cases told
    exact .inr ⟨Value.text_arrives topology, fun _ => rfl, fun _ _ same => same⟩
  case h_5 | h_6 | h_7 =>
    cases told
    refine .inr ⟨Value.text_arrives _, fun _ => rfl, ?_⟩
    intro cause refused same
    rw [Value.text_refused refused] at same
    cases same
  case h_8 => cases told

theorem Query.endsInGroupOfOne_within (query : Query) (alone : Except Error Answer) :
    EndsInGroupOfOne query alone (query.within .lockstep alone) := by
  have whenTold (content : Value) (told : query.told? alone = some content) :
      query.within .lockstep alone = content.relayed >>= query.retold alone :=
    within_of_told told
  constructor
  · exact within_of_untold
  · intro content cause told refused
    rw [whenTold content told, refused, error_bind]
  · intro content arrived told relays
    rw [whenTold content told, relays, ok_bind]
  · cases told : query.told? alone with
    | none =>
        rw [within_of_untold told]
        simp [sameEnd_self]
    | some content =>
        rw [whenTold content told]
        simp only [Option.some.injEq, forall_eq']
        rcases told_cases told with ⟨isValue, retells⟩ | ⟨arrives, retells, refusalDiffers⟩
        · rw [funext retells, isValue]
          constructor
          · intro same
            cases relays : content.relayed with
            | error cause =>
                rw [relays] at same
                exact same.elim
            | ok arrived =>
                rw [relays] at same
                have sameAnswers : Answer.value content.untyped = Answer.value arrived.untyped := same
                exact ⟨arrived, relays, (Answer.value.inj sameAnswers).symm⟩
          · rintro ⟨arrived, relays, same⟩
            rw [relays, ok_bind]
            exact congrArg Answer.value same.symm
        · rw [funext retells]
          cases relays : content.relayed with
          | error cause =>
              constructor
              · exact fun same => absurd same (refusalDiffers cause relays)
              · rintro ⟨_, arrived, _⟩
                rw [relays] at arrived
                cases arrived
          | ok arrived =>
              have fits := Value.fits_of_relayed relays
              constructor
              · exact fun _ => (Value.survives_iff_of_arrives arrives).mpr fits
              · exact fun _ => sameEnd_self alone

/-- An engine without a group and one in a group of one end every query alike, except where what the
process tells does not survive being packed and read again. Texts survive up to a size, places while
their domain numbers fit 64 bits, and values of state variables if they are portable and can be
packed. -/
theorem ends_alone_as_in_group_of_one (settings : Settings) (dataset : Dataset) :
    (∀ (query : Query) (arguments : Arguments Answer), ∃ alone within,
      together .alone (fun group dataset =>
        (Engine.mk group settings).call dataset query arguments) [dataset] = [alone] ∧
      together .lockstep (fun group dataset =>
        (Engine.mk group settings).call dataset query arguments) [dataset] = [within] ∧
      EndsInGroupOfOne query alone within) ∧
    (∀ (name : Value) (arguments : Arguments Answer), ∃ alone within,
      together .alone (fun group dataset =>
        (Engine.mk group settings).evaluate dataset name arguments) [dataset] = [alone] ∧
      together .lockstep (fun group dataset =>
        (Engine.mk group settings).evaluate dataset name arguments) [dataset] = [within] ∧
      (Query.ofValue? name = none → within = alone) ∧
      ∀ query, Query.ofValue? name = some query → EndsInGroupOfOne query alone within) ∧
    (∀ text, (Value.text text).Survives ↔ text.toUTF8.size < 2 ^ 32) ∧
    (∀ position domain, (Value.place position domain).Survives ↔
      -(2 ^ 63) ≤ domain ∧ domain < 2 ^ 64) ∧
    ∀ content : Value, content.IsPortable → (content.Survives ↔ content.Fits writingDepth) := by
  have inGroup : GroupKind.lockstep.Connects 1 := Nat.one_pos
  refine ⟨?_, ?_, Value.text_survives_iff, Value.place_survives_iff, fun _ => Value.IsPortable.survives_iff⟩
  · intro query arguments
    refine ⟨_, _, together_single .alone _ dataset, together_single .lockstep _ dataset, ?_⟩
    rw [Engine.solo_call settings inGroup]
    exact query.endsInGroupOfOne_within _
  · intro name arguments
    refine ⟨_, _, together_single .alone _ dataset, together_single .lockstep _ dataset, ?_⟩
    unfold Engine.evaluate
    cases arguments.named.any fun entry => entry.1 == "name" || entry.1 == "self" with
    | true =>
        refine ⟨fun _ => rfl, ?_⟩
        intro query _
        have ends := query.endsInGroupOfOne_within (.error .wrongType)
        rw [Query.within_wrongType] at ends
        exact ends
    | false =>
        cases Query.ofValue? name with
        | none => exact ⟨fun _ => rfl, by rintro _ ⟨⟩⟩
        | some query =>
            refine ⟨by rintro ⟨⟩, ?_⟩
            rintro _ ⟨⟩
            simp only [Bool.false_eq_true, if_false]
            rw [Engine.solo_call settings inGroup]
            exact query.endsInGroupOfOne_within _

def tickingDomain : Domain := ⟨[], [], [], [(.text "ticks", .whole (2 ^ 64))]⟩

/-- Numbers with a type and arrays survive inside a list. -/
theorem ends_alone_as_in_group_of_one_for_list :
    (∃ alone within,
      together .alone (fun group dataset => (Engine.mk group .default).call dataset
        .stateVariable ⟨[.value (.text "ticks")], []⟩) [[tickingDomain]] = [alone] ∧
      together .lockstep (fun group dataset => (Engine.mk group .default).call dataset
        .stateVariable ⟨[.value (.text "ticks")], []⟩) [[tickingDomain]] = [within] ∧
      EndsInGroupOfOne .stateVariable alone within) ∧
    (Value.list [.typed (.int .int8 5), .array [2] (.truth [true, false])]).IsPortable ∧
    ((Value.list [.typed (.int .int8 5), .array [2] (.truth [true, false])]).Survives ↔
      (Value.list [.typed (.int .int8 5), .array [2] (.truth [true, false])]).Fits writingDepth) := by
  obtain ⟨called, _, _, _, survives⟩ := ends_alone_as_in_group_of_one .default [tickingDomain]
  have portable :
      (Value.list [.typed (.int .int8 5), .array [2] (.truth [true, false])]).IsPortable := by
    apply Value.IsBuilt.list
    intro item isItem
    simp only [Value.untypedItems, List.mem_cons, List.not_mem_nil, or_false] at isItem
    rcases isItem with rfl | rfl
    · exact .whole 5
    · exact .array ⟨by decide, by decide, rfl, trivial, trivial⟩
  exact ⟨called .stateVariable _, portable, survives _ portable⟩

/-- A state variable of 2 ^ 64 is returned without a group, while a group of one cannot pack it. -/
theorem wide_state_refused_in_group_of_one :
    Dataset.ofValue (.record [("state", .record [("ticks", .whole (2 ^ 64))])]) =
      .ok [tickingDomain] ∧
    together .alone (fun group dataset => (Engine.mk group .default).evaluate dataset
      (.text "get_state_var") ⟨[.value (.text "ticks")], []⟩) [[tickingDomain]] =
      [.ok (.value (.whole (2 ^ 64)))] ∧
    together .lockstep (fun group dataset => (Engine.mk group .default).evaluate dataset
      (.text "get_state_var") ⟨[.value (.text "ticks")], []⟩) [[tickingDomain]] =
      [.error (.unpackable "int")] ∧
    ¬ SameEnd (.ok (.value (.whole (2 ^ 64)))) (.error (.unpackable "int")) := by
  refine ⟨?_, ?_, ?_, fun same => same⟩
  · rfl
  · rfl
  · rfl

end FieldSurvey
