import FieldSurvey.Proofs.Agreement.Ends
import FieldSurvey.Proofs.Engine.Programs
import FieldSurvey.Proofs.Group.Simulation
import FieldSurvey.Proofs.Statistics.Vote

/-!
Queries do not depend on how their group exchanges. Every query is a sequence of own steps and group
operations, and each of these keeps the two ways of exchanging in step. Where a process fails midway
the others are left at the same exchange under both.
-/

namespace FieldSurvey

open ProcessGroup Collective

variable {β : Type} {datasets : List Dataset}

namespace ProcessGroup.ExchangeIndependent

section Statistics

variable {α ω : Type} [Scalar α] {shares : List ω} (shareOf : ω → FieldShare α)

theorem after_sum {next : ProcessGroup → ω → FieldSum α → Collective α β}
    (rest : ∀ sum, ExchangeIndependent shares fun group share => next group share sum) :
    ExchangeIndependent shares fun group share => (shareOf share).sum group >>= next group share := by
  unfold FieldShare.sum
  simp only [liftM_eq_ofExcept, bind_bind]
  apply after_own_step
  · intro share own rank size
    rfl
  intro own _
  apply after_rank
  apply after_log
  apply after_reduceReal rfl
  intro total
  apply after_sumWhole
  intro count
  exact rest ⟨total, count⟩

theorem after_average (name : String) (named : ∀ share, (shareOf share).name = name)
    {next : ProcessGroup → ω → α → Collective α β}
    (rest : ∀ mean, ExchangeIndependent shares fun group share => next group share mean) :
    ExchangeIndependent shares fun group share =>
      (shareOf share).average group >>= next group share := by
  unfold FieldShare.average
  simp only [bind_bind, named]
  apply after_sum
  intro sum
  by_cases noEntries : sum.count = 0
  · simp only [if_pos noEntries]
    exact of_finish (.error (.averageUndefined name))
  · simp only [if_neg noEntries]
    exact rest _

theorem after_countOf (pick : Entries α → Nat) {next : ProcessGroup → ω → Int → Collective α β}
    (rest : ∀ count, ExchangeIndependent shares fun group share => next group share count) :
    ExchangeIndependent shares fun group share =>
      (shareOf share).countOf pick group >>= next group share := by
  unfold FieldShare.countOf
  simp only [liftM_eq_ofExcept, bind_bind]
  apply after_own_step
  · intro share own rank size
    rfl
  intro own _
  exact after_sumWhole own rest

theorem after_finiteRange (name : String) (named : ∀ share, (shareOf share).name = name)
    {next : ProcessGroup → ω → α × α → Collective α β}
    (rest : ∀ range, ExchangeIndependent shares fun group share => next group share range) :
    ExchangeIndependent shares fun group share =>
      (shareOf share).finiteRange group >>= next group share := by
  unfold FieldShare.finiteRange
  simp only [liftM_eq_ofExcept, bind_bind, named]
  apply after_own_step
  · intro share own rank size
    rfl
  intro own _
  apply after_reduceReal rfl
  intro low
  apply after_reduceReal rfl
  intro high
  cases Scalar.lt high low with
  | true => exact of_finish (.error (.noFiniteValues name))
  | false => exact rest (low, high)

/-- All processes cut the range alike, so they have counts of as many bins to add. -/
theorem after_histogram (binning : Binning α)
    {next : ProcessGroup → ω → Histogram α → Collective α β}
    (rest : ∀ histogram, ExchangeIndependent shares fun group share => next group share histogram) :
    ExchangeIndependent shares fun group share =>
      (shareOf share).histogram group binning >>= next group share := by
  unfold FieldShare.histogram
  simp only [liftM_eq_ofExcept, bind_bind]
  apply after_common_step
  intro edges _
  apply after_own_step
  · intro share own rank size
    rfl
  intro own counted
  apply after_sumCounts own fun share isShare => FieldShare.length_ownCounts (counted share isShare)
  intro counts
  exact rest _

end Statistics

section Extremes

variable {ω : Type} {shares : List ω} (shareOf : ω → FieldShare Float) {name : String}

theorem after_loggedExtremum (extreme : Extreme) (named : ∀ share, (shareOf share).name = name)
    {next : ProcessGroup → ω → FieldExtremum Float → Collective Float β}
    (rest : ∀ found, ExchangeIndependent shares fun group share => next group share found) :
    ExchangeIndependent shares fun group share =>
      (shareOf share).loggedExtremum extreme group >>= next group share := by
  have taken (group : ProcessGroup) (share : ω) :=
    loggedExtremum_eq shareOf extreme named (group, share)
  simp only at taken
  simp only [taken, bind_bind]
  apply after_own_step
  · intro share own rank size
    rfl
  intro own _
  apply after_selectExtreme extreme fun share => OwnExtremum.submission (own share)
  intro winner
  cases winner with
  | none => exact of_finish (.error (.noDefinedValues name))
  | some best =>
      simp only [afterVote, bind_bind]
      apply after_broadcastPlace best.2 fun share => OwnExtremum.told (own share)
      intro place
      apply after_log
      exact rest _

end Extremes

end ProcessGroup.ExchangeIndependent

open ProcessGroup.ExchangeIndependent

theorem MetadataQuery.exchangeIndependent (query : MetadataQuery) :
    ExchangeIndependent datasets query.program := by
  apply of_ends fun _ connects => query.ends connects
  · intro rank size dataset
    rfl
  · unfold MetadataQuery.result MetadataQuery.conclusion
    rfl

namespace Engine

variable (settings : Settings)

theorem after_histogramOf (field binCount low high : Value)
    {next : ProcessGroup → Dataset → Histogram Float → Collective Float β}
    (rest : ∀ histogram,
      ExchangeIndependent datasets fun group dataset => next group dataset histogram) :
    ExchangeIndependent datasets fun group dataset =>
      (Engine.mk group settings).histogramOf dataset field binCount low high >>=
        next group dataset := by
  let shareOf (dataset : Dataset) : FieldShare Float := dataset.fieldShare field
  -- Once the range is known, all processes cut it into the same bins.
  have counted (count : Value) (range : Value × Value) :
      ExchangeIndependent datasets fun group dataset =>
        Collective.ofExcept (askedBinning range.1 range.2 count) >>= fun binning =>
          (shareOf dataset).histogram group binning >>= next group dataset := by
    apply after_common_step
    intro binning _
    exact after_histogram shareOf binning rest
  simp only [histogramOf_eq, bind_bind]
  apply after_common_step
  intro count _
  unfold askedRange
  cases (Answer.value low).isNull || (Answer.value high).isNull with
  | true =>
      simp only [if_true, bind_bind]
      apply after_finiteRange shareOf field.putInto fun _ => rfl
      intro range
      exact counted count _
  | false => exact counted count (low, high)

theorem after_asHistogram (given : Answer) (binCount : Value)
    {next : ProcessGroup → Dataset → Histogram Float → Collective Float β}
    (rest : ∀ histogram,
      ExchangeIndependent datasets fun group dataset => next group dataset histogram) :
    ExchangeIndependent datasets fun group dataset =>
      (Engine.mk group settings).asHistogram dataset given binCount >>= next group dataset := by
  cases given with
  | histogram result => exact rest result
  | _ => exact after_histogramOf settings _ binCount .null .null rest

theorem after_asCumulative (given : Answer) (binCount : Value)
    {next : ProcessGroup → Dataset → Histogram Float → Collective Float β}
    (rest : ∀ histogram,
      ExchangeIndependent datasets fun group dataset => next group dataset histogram) :
    ExchangeIndependent datasets fun group dataset =>
      (Engine.mk group settings).asCumulative dataset given binCount >>= next group dataset := by
  cases given with
  | histogram result => exact rest result
  | _ =>
      simp only [asCumulative, bind_bind]
      exact after_asHistogram settings _ binCount fun histogram => rest histogram.cumulative

/-- A count in one domain is a process's own affair; one over all domains is added over the group. -/
theorem after_countOver (count : String → Domain → Except Error Int) (requested domain : Answer)
    (conclude : Int → Except Error β) :
    ExchangeIndependent datasets fun group dataset =>
      (Engine.mk group settings).countOver dataset count requested domain >>= fun total =>
        Collective.ofExcept (conclude total) := by
  simp only [countOver_eq]
  cases domain.isNull with
  | false =>
      exact of_groupless fun dataset =>
        Collective.ofExcept (localTotal settings count requested domain dataset) >>= fun total =>
          Collective.ofExcept (conclude total)
  | true =>
      simp only [if_true, bind_bind]
      apply after_own_step
      · intro dataset own rank size
        rfl
      intro own _
      exact after_sumWhole own fun total => of_finish (conclude total)

/-- However the processes of a group exchange, a query ends in the same way on each of them. -/
theorem answer_exchangeIndependent (query : Query) (bound : Bound) :
    ExchangeIndependent datasets fun group dataset =>
      (Engine.mk group settings).answer dataset query bound := by
  let shareOf (dataset : Dataset) : FieldShare Float := dataset.fieldShare (bound.valueOf "field")
  have onTopology (ask : Value → MetadataQuery) :
      ExchangeIndependent datasets fun group dataset =>
        Collective.ofExcept (requiredTopology ⟨aloneGroup, settings⟩ (bound.get "topology")) >>=
          fun topology => (ask topology).program group dataset := by
    apply after_common_step
    intro topology _
    exact (ask topology).exchangeIndependent
  have inOneDomain (query : Query)
      (groupless : (fun group dataset => (Engine.mk group settings).answer dataset query bound) =
        fun _ dataset => (Engine.mk aloneGroup settings).answer dataset query bound) :
      ExchangeIndependent datasets fun group dataset =>
        (Engine.mk group settings).answer dataset query bound := by
    rw [groupless]
    exact of_groupless _
  cases query with
  | sum => exact after_sum shareOf fun sum => of_finish _
  | average => exact after_average shareOf _ (fun _ => rfl) fun mean => of_finish _
  | least => exact after_loggedExtremum shareOf .least (fun _ => rfl) fun found => of_finish _
  | greatest => exact after_loggedExtremum shareOf .greatest (fun _ => rfl) fun found => of_finish _
  | histogram => exact after_histogramOf settings _ _ _ _ fun histogram => of_finish _
  | entropy => exact after_asHistogram settings _ _ fun histogram => of_finish _
  | density => exact after_asHistogram settings _ _ fun histogram => of_finish _
  | cumulative => exact after_asHistogram settings _ _ fun histogram => of_finish _
  | quantile =>
      let given := bound.get "interpolation"
      let mode := if given.isNull then .text settings.interpolation.name else given.toValue
      exact after_asCumulative settings _ _ fun histogram =>
        after_common_step (histogram.quantileAsked (bound.valueOf "target") mode)
          fun found _ => of_finish _
  | undefinedCount => exact after_countOf shareOf Entries.undefinedCount fun count => of_finish _
  | infiniteCount => exact after_countOf shareOf Entries.infiniteCount fun count => of_finish _
  | fieldAssociation => exact (MetadataQuery.fieldAssociation _).exchangeIndependent
  | fieldType => exact (MetadataQuery.fieldType _).exchangeIndependent
  | fieldTopology => exact (MetadataQuery.fieldTopology _).exchangeIndependent
  | spatialDimensions => exact onTopology .spatialDimensions
  | hasField => exact (MetadataQuery.hasField _).exchangeIndependent
  | hasTopology => exact (MetadataQuery.hasTopology _).exchangeIndependent
  | elementCount =>
      exact after_countOver settings Domain.elementCount _ _ fun total =>
        .ok (Answer.value (.whole total))
  | pointCount =>
      exact after_countOver settings Domain.pointCount _ _ fun total =>
        .ok (Answer.value (.whole total))
  | vertexLocation => exact inOneDomain .vertexLocation rfl
  | elementLocation => exact inOneDomain .elementLocation rfl
  | elementPoints => exact inOneDomain .elementPoints rfl
  | coordinateType => exact onTopology .coordinateType
  | topologyKinds => exact onTopology .topologyKinds
  | isScalarField => exact (MetadataQuery.isScalarField _).exchangeIndependent
  | stateVariable => exact (MetadataQuery.stateVariable _).exchangeIndependent

theorem call_exchangeIndependent (query : Query) (arguments : Arguments Answer) :
    ExchangeIndependent datasets fun group dataset =>
      (Engine.mk group settings).call dataset query arguments := by
  apply after_common_step
  intro bound _
  exact answer_exchangeIndependent settings query bound

theorem evaluate_exchangeIndependent (name : Value) (arguments : Arguments Answer) :
    ExchangeIndependent datasets fun group dataset =>
      (Engine.mk group settings).evaluate dataset name arguments := by
  unfold evaluate
  split
  · exact of_finish (.error .wrongType)
  · cases Query.ofValue? name with
    | none => exact of_finish (.error (.unknownQuery name.putInto))
    | some query => exact call_exchangeIndependent settings query arguments

/-- Whether a group gathers contributions in lock-step and reduces them locally or has a
message-passing library reduce them: on every process each query, asked directly or by its name,
returns the same answer, fails for the same cause or waits for ever, however the domains are spread
and whatever the arguments are. -/
theorem queries_end_alike_either_way (datasets : List Dataset) (arguments : Arguments Answer) :
    (∀ query : Query,
      together .lockstep (fun group dataset =>
          (Engine.mk group settings).call dataset query arguments) datasets =
        together .messagePassing (fun group dataset =>
          (Engine.mk group settings).call dataset query arguments) datasets) ∧
    ∀ name : Value,
      together .lockstep (fun group dataset =>
          (Engine.mk group settings).evaluate dataset name arguments) datasets =
        together .messagePassing (fun group dataset =>
          (Engine.mk group settings).evaluate dataset name arguments) datasets := by
  constructor
  · exact fun query => call_exchangeIndependent settings query arguments
  · exact fun name => evaluate_exchangeIndependent settings name arguments

end Engine

end FieldSurvey
