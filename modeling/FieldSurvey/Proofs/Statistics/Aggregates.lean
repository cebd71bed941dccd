import FieldSurvey.Proofs.Group.Deciding

/-!
Sums, averages, ranges, histograms and counts over a whole group. Each process first goes through its
own domains, and only then takes part in exchanges. The exchanges themselves cannot fail, so how a
group ends is decided by what the processes find in their own domains.
-/

-- The sums of whole numbers start from the built-in zero.
attribute [local instance (1100)] Zero.ofOfNat0

namespace FieldSurvey

def FieldShare.ownCount {α : Type} (pick : Entries α → Nat) (share : FieldShare α) :
    Except Error Int :=
  share.foldEntries (fun (count : Int) _ entries => .ok (count + pick entries)) 0

/-- The bin counts of a process's own entries, once the bounds of the bins are known to be sound. -/
def FieldShare.checkedCounts {α : Type} [Scalar α] (binning : Except Error (Binning α))
    (share : FieldShare α) : Except Error (Binning α × List Int) := do
  let binning ← binning
  let _ ← binEdges binning.low binning.high binning.binCount
  let counts ← share.ownCounts binning
  return (binning, counts)

/-- A count over a process's own domains that define a topology; if none is named, over the first
topology of every own domain that has one. -/
def Dataset.ownTotal (count : String → Domain → Except Error Int) (topology : Value)
    (dataset : Dataset) : Except Error Int := do
  let inDomain (wanted : Value) (domain : Domain) : Except Error Int := do
    let found ← domain.chooseTopology wanted
    count found domain
  let isNamed ← topology.isTrue
  let own ←
    if isNamed then do
      let holders ← dataset.havingTopology topology
      holders.mapM fun holder => inDomain topology holder.1
    else (dataset.filter fun domain => !domain.topologies.isEmpty).mapM (inDomain .null)
  return own.sum

section CountsOver

namespace Engine

open Collective

/-- The count in the one local domain that is asked for. -/
def localTotal (settings : Settings) (count : String → Domain → Except Error Int)
    (requested domain : Answer) (dataset : Dataset) : Except Error Int := do
  let found ← localDomain domain.toValue dataset
  let topology ← found.chooseTopology (Engine.topologyOr ⟨aloneGroup, settings⟩ requested)
  count topology found

theorem countOver_eq (engine : Engine) (dataset : Dataset)
    (count : String → Domain → Except Error Int) (requested domain : Answer) :
    engine.countOver dataset count requested domain =
      if domain.isNull then
        Collective.ofExcept (dataset.ownTotal count
          (Engine.topologyOr ⟨aloneGroup, engine.settings⟩ requested)) >>= fun own =>
            engine.group.sumWhole own
      else Collective.ofExcept (localTotal engine.settings count requested domain dataset) := by
  have sameTopology : engine.topologyOr requested =
      Engine.topologyOr ⟨aloneGroup, engine.settings⟩ requested := rfl
  unfold countOver localTotal Dataset.ownTotal
  rw [sameTopology]
  generalize Engine.topologyOr ⟨aloneGroup, engine.settings⟩ requested = topology
  cases everywhere : domain.isNull with
  | true =>
      simp only [Bool.not_true, Bool.false_eq_true, if_false, if_true, liftM_eq_ofExcept, bind_bind,
        ofExcept_bind]
      congr 1
      funext isNamed
      cases isNamed with
      | false =>
          simp only [Bool.false_eq_true, if_false, ofExcept_bind, bind_bind]
          rfl
      | true =>
          simp only [if_true, ofExcept_bind, bind_bind]
          rfl
  | false =>
      simp only [Bool.not_false, Bool.false_eq_true, if_true, if_false, liftM_eq_ofExcept, ofExcept_bind]

end Engine

end CountsOver

section OwnCounts

variable {α β : Type}

theorem FieldShare.foldEntries_invariant {step : β → FieldPart α → Entries α → Except Error β}
    (invariant : β → Prop)
    (kept : ∀ state part entries next,
      invariant state → step state part entries = .ok next → invariant next)
    {start final : β} (atStart : invariant start) (share : FieldShare α)
    (passed : share.foldEntries step start = .ok final) : invariant final := by
  obtain ⟨parts, _, passed⟩ := bind_eq_ok.mp passed
  refine foldlM_invariant ?_ parts atStart passed
  intro state part next holds stepped
  obtain ⟨entries, _, stepped⟩ := bind_eq_ok.mp stepped
  exact kept state part entries next holds stepped

theorem Entries.length_countBins [Scalar α] {find : List α → Except Error (Option (List Nat))}
    {binCount : Int} {entries : Entries α} {counts : List Nat}
    (counted : entries.countBins find binCount = .ok counts) :
    counts.length = binCount.toNat := by
  have tallied (bins : List Nat) : (tally binCount.toNat bins).length = binCount.toNat := by
    simp [tally]
  obtain ⟨numbers, _, counted⟩ := bind_eq_ok.mp counted
  simp only at counted
  split at counted
  · cases counted
  · split at counted
    · cases counted
      exact tallied _
    · obtain ⟨found, _, counted⟩ := bind_eq_ok.mp counted
      cases found with
      | none => cases counted
      | some bins =>
          cases counted
          exact tallied bins

theorem FieldShare.length_ownCounts [Scalar α] {binning : Binning α} {share : FieldShare α}
    {counts : List Int} (counted : share.ownCounts binning = .ok counts) :
    counts.length = binning.binCount.toNat := by
  refine FieldShare.foldEntries_invariant
    (fun counts : List Int => counts.length = binning.binCount.toNat) ?_ (List.length_replicate ..) share counted
  intro state part entries next sameLength stepped
  obtain ⟨found, counted, stepped⟩ := bind_eq_ok.mp stepped
  cases stepped
  rw [List.length_zipWith, sameLength, Entries.length_countBins counted]
  exact Nat.min_self _

end OwnCounts

section Averages

variable {α β : Type} [Scalar α]

/-- The mean of what was added up, if anything was. -/
def FieldSum.mean? (name : String) (sum : FieldSum α) : Except Error α :=
  if sum.count = 0 then .error (.averageUndefined name)
  else .ok (sum.total / Scalar.ofInt sum.count)

theorem FieldSum.mean?_missing {name : String} (sum : FieldSum α) {cause : Error}
    (fails : sum.mean? name = .error cause) : cause.category = .missingData := by
  unfold mean? at fails
  split at fails
  · cases fails
    rfl
  · cases fails

/-- An average is a sum from which every process takes the mean by itself. -/
theorem FieldShare.average_bind (group : ProcessGroup) (share : FieldShare α) (conclude : α → β) :
    (share.average group >>= fun mean => pure (conclude mean)) =
      share.sum group >>= fun sum => Collective.ofExcept (conclude <$> sum.mean? share.name) := by
  unfold FieldShare.average FieldSum.mean?
  rw [Collective.bind_bind]
  congr 1
  funext sum
  split <;> rfl

end Averages

namespace ProcessGroup

open Collective

variable {α β ω : Type} {kind : GroupKind} {shares : List ω}

section Sums

variable [Scalar α] (shareOf : ω → FieldShare α)

theorem sum_decided (connects : kind.Connects shares.length) (conclude : FieldSum α → Except Error β)
    (onlyMissing : ∀ sum cause, conclude sum = .error cause → cause.category = .missingData) :
    DecidedByOwnSteps kind
      (fun group share => (shareOf share).sum group >>= fun sum => Collective.ofExcept (conclude sum))
      (fun _ share => (shareOf share).ownSum) shares := by
  let records (seat : ProcessGroup × ω) (own : FieldSum α) : Collective α Unit :=
    .log LogLevel.debug .statistics
      s!"rank {seat.1.rank}: local sum of '{(shareOf seat.2).label}' over {own.count} values"
  refine decided_of_split
    (fun seat own => records seat own >>= fun _ =>
      seat.1.reduceReal .sum own.total >>= fun total =>
        seat.1.sumWhole own.count >>= fun count => Collective.ofExcept (conclude ⟨total, count⟩))
    ?_ ?_ ?_
  · intro seat isSeat
    unfold FieldShare.sum
    rw [rank?_of_mem_seats connects isSeat]
    simp only [liftM_eq_ofExcept, bind_bind, ofExcept_ok_bind]
    rfl
  · intro several seat isSeat own
    exact ((reduceReal_waits connects isSeat several .sum _).bind _).after_log
  · intro found finds
    have unlogged : outcomes ((seats kind shares).map fun seat =>
          records seat (found seat) >>= fun _ =>
            seat.1.reduceReal .sum (found seat).total >>= fun total =>
              seat.1.sumWhole (found seat).count >>= fun count =>
                Collective.ofExcept (conclude ⟨total, count⟩)) =
        outcomes ((seats kind shares).map fun seat =>
          seat.1.reduceReal .sum (found seat).total >>= fun total =>
            seat.1.sumWhole (found seat).count >>= fun count =>
              Collective.ofExcept (conclude ⟨total, count⟩)) :=
      outcomes_congr _ _ _ fun seat => standing_log_bind _ _ _ _
    rw [unlogged, reduceReal_all connects rfl, sumWhole_all connects]
    exact ⟨_, outcomes_finish _, onlyMissing _⟩

theorem finiteRange_decided (connects : kind.Connects shares.length) (name : String)
    (named : ∀ share, (shareOf share).name = name) (conclude : α × α → β) :
    DecidedByOwnSteps kind
      (fun group share => (shareOf share).finiteRange group >>= fun range =>
        Collective.ofExcept (.ok (conclude range)))
      (fun _ share => (shareOf share).ownRange) shares := by
  refine decided_of_split
    (fun seat own => seat.1.reduceReal .least own.1 >>= fun low =>
      seat.1.reduceReal .greatest own.2 >>= fun high =>
        Collective.ofExcept (if Scalar.lt high low then .error (.noFiniteValues name)
          else .ok (conclude (low, high))))
    ?_ ?_ ?_
  · intro seat isSeat
    unfold FieldShare.finiteRange
    simp only [liftM_eq_ofExcept, bind_bind, named]
    have ends (low high : α) :
        ((if Scalar.lt high low = true then Collective.fail (.noFiniteValues name)
          else pure (low, high)) >>= fun range => Collective.ofExcept (.ok (conclude range))) =
        (Collective.ofExcept (if Scalar.lt high low then .error (.noFiniteValues name)
          else .ok (conclude (low, high))) : Collective α β) := by
      cases Scalar.lt high low <;> rfl
    simp only [ends]
  · intro several seat isSeat own
    exact (reduceReal_waits connects isSeat several .least _).bind _
  · intro found finds
    rw [reduceReal_all connects rfl, reduceReal_all connects rfl]
    refine ⟨_, outcomes_finish _, ?_⟩
    intro cause fails
    split at fails
    · cases fails
      rfl
    · cases fails

theorem countOf_decided (connects : kind.Connects shares.length) (pick : Entries α → Nat)
    (conclude : Int → β) :
    DecidedByOwnSteps kind
      (fun group share => (shareOf share).countOf pick group >>= fun count =>
        Collective.ofExcept (.ok (conclude count)))
      (fun _ share => (shareOf share).ownCount pick) shares := by
  refine decided_of_split
    (fun seat own => seat.1.sumWhole own >>= fun count =>
      Collective.ofExcept (.ok (conclude count))) ?_ ?_ ?_
  · intro seat isSeat
    unfold FieldShare.countOf FieldShare.ownCount
    simp only [liftM_eq_ofExcept, bind_bind]
  · intro several seat isSeat own
    exact (sumWhole_waits connects isSeat several own).bind _
  · intro found finds
    rw [sumWhole_all connects]
    exact ⟨_, outcomes_finish _, by rintro _ ⟨⟩⟩

/-- A histogram is the counting of a process's own entries, followed by one sum over the group. -/
theorem histogram_eq (group : ProcessGroup) (share : FieldShare α)
    (binning : Except Error (Binning α)) (conclude : Histogram α → β) :
    (Collective.ofExcept binning >>= fun binning =>
      share.histogram group binning >>= fun histogram =>
        Collective.ofExcept (.ok (conclude histogram))) =
      Collective.ofExcept (share.checkedCounts binning) >>= fun own =>
        group.sumCounts own.2 >>= fun counts => Collective.ofExcept (.ok (conclude
          ⟨counts.map Scalar.ofInt, own.1.low, own.1.high, own.1.binCount⟩)) := by
  unfold FieldShare.histogram FieldShare.checkedCounts
  cases binning with
  | error cause => rfl
  | ok binning =>
      simp only [liftM_eq_ofExcept, bind_bind, ofExcept_ok_bind, ok_bind]
      cases binEdges binning.low binning.high binning.binCount with
      | error cause => rfl
      | ok edges =>
          cases share.ownCounts binning with
          | error cause => rfl
          | ok counts => rfl

theorem checkedCounts_eq_ok {binning : Except Error (Binning α)} {share : FieldShare α}
    {own : Binning α × List Int} :
    share.checkedCounts binning = .ok own ↔
      binning = .ok own.1 ∧ (∃ edges, binEdges own.1.low own.1.high own.1.binCount = .ok edges) ∧
        share.ownCounts own.1 = .ok own.2 := by
  obtain ⟨binning', counts⟩ := own
  constructor
  · intro passed
    obtain ⟨given, isGiven, passed⟩ := bind_eq_ok.mp passed
    obtain ⟨edges, cut, passed⟩ := bind_eq_ok.mp passed
    obtain ⟨found, counted, passed⟩ := bind_eq_ok.mp passed
    cases passed
    exact ⟨isGiven, ⟨edges, cut⟩, counted⟩
  · rintro ⟨rfl, ⟨edges, cut⟩, counted⟩
    unfold FieldShare.checkedCounts
    simp only [ok_bind, cut, counted]
    rfl

/-- Once all processes have counted their own entries, all end with the sums of their counts. -/
theorem histogram_counted (connects : kind.Connects shares.length) (binning : Binning α)
    (conclude : Histogram α → β) (found : ProcessGroup × ω → Binning α × List Int)
    (finds : ∀ seat ∈ seats kind shares,
      (shareOf seat.2).checkedCounts (.ok binning) = .ok (found seat)) :
    outcomes ((seats kind shares).map fun seat =>
        (seat.1.sumCounts (found seat).2 : Collective α (List Int)) >>= fun counts =>
          Collective.ofExcept (.ok (conclude
            ⟨counts.map Scalar.ofInt, (found seat).1.low, (found seat).1.high,
              (found seat).1.binCount⟩))) =
      shares.map fun _ => .ok (conclude
        ⟨(countTotals binning.binCount.toNat
            ((seats kind shares).map fun seat => (found seat).2)).map Scalar.ofInt,
          binning.low, binning.high, binning.binCount⟩) := by
  have sameBinning : ∀ seat ∈ seats kind shares, (found seat).1 = binning := by
    intro seat isSeat
    obtain ⟨isGiven, _⟩ := checkedCounts_eq_ok.mp (finds seat isSeat)
    exact (Except.ok.inj isGiven).symm
  have sameLength : ∀ seat ∈ seats kind shares,
      (found seat).2.length = binning.binCount.toNat := by
    intro seat isSeat
    obtain ⟨_, _, counted⟩ := checkedCounts_eq_ok.mp (finds seat isSeat)
    rw [← sameBinning seat isSeat]
    exact FieldShare.length_ownCounts counted
  rw [sumCounts_all connects (fun seat => (found seat).2) sameLength]
  have alike : ∀ seat ∈ seats kind shares,
      (Collective.ofExcept (.ok (conclude
        ⟨(countTotals binning.binCount.toNat
            ((seats kind shares).map fun seat => (found seat).2)).map Scalar.ofInt,
          (found seat).1.low, (found seat).1.high, (found seat).1.binCount⟩)) : Collective α β) =
      Collective.finish (.ok (conclude
        ⟨(countTotals binning.binCount.toNat
            ((seats kind shares).map fun seat => (found seat).2)).map Scalar.ofInt,
          binning.low, binning.high, binning.binCount⟩)) := by
    intro seat isSeat
    rw [sameBinning seat isSeat]
    rfl
  rw [List.map_congr_left alike]
  exact outcomes_finish _

/-- A histogram is decided by the bin counts of the processes' own entries, and by whether its bins
are sound. -/
theorem histogram_decided (connects : kind.Connects shares.length)
    (binning : Except Error (Binning α)) (conclude : Histogram α → β) :
    DecidedByOwnSteps kind
      (fun group share => Collective.ofExcept binning >>= fun binning =>
        (shareOf share).histogram group binning >>= fun histogram =>
          Collective.ofExcept (.ok (conclude histogram)))
      (fun _ share => (shareOf share).checkedCounts binning) shares := by
  refine decided_of_split
    (fun seat own => seat.1.sumCounts own.2 >>= fun counts =>
      Collective.ofExcept (.ok (conclude
        ⟨counts.map Scalar.ofInt, own.1.low, own.1.high, own.1.binCount⟩))) ?_ ?_ ?_
  · intro seat isSeat
    exact histogram_eq seat.1 (shareOf seat.2) binning conclude
  · intro several seat isSeat own
    exact (sumCounts_waits connects isSeat several own.2).bind _
  · intro found finds
    cases binning with
    | error cause =>
        cases isEmpty : shares with
        | nil => exact ⟨.error (.fieldNowhere ""), rfl, by rintro _ ⟨⟩; rfl⟩
        | cons first rest =>
            obtain ⟨seat, isSeat, _⟩ := exists_seat kind
              (show first ∈ shares by rw [isEmpty]; exact List.mem_cons_self)
            cases finds seat isSeat
    | ok binning =>
        exact ⟨_, histogram_counted shareOf connects binning conclude found finds,
          by rintro _ ⟨⟩⟩

end Sums

theorem countOver_decided {datasets : List Dataset} (connects : kind.Connects datasets.length)
    (settings : Settings) (count : String → Domain → Except Error Int) (requested : Answer)
    (conclude : Int → β) :
    DecidedByOwnSteps kind
      (fun group dataset => (Engine.mk group settings).countOver dataset count requested
        (.value .null) >>= fun total => Collective.ofExcept (.ok (conclude total)))
      (fun _ dataset => Dataset.ownTotal count
        (Engine.topologyOr ⟨Engine.aloneGroup, settings⟩ requested) dataset)
      datasets := by
  refine decided_of_split
    (fun seat own => seat.1.sumWhole own >>= fun total =>
      Collective.ofExcept (.ok (conclude total))) ?_ ?_ ?_
  · intro seat isSeat
    have everywhere : (Answer.value .null).isNull = true := rfl
    rw [Engine.countOver_eq, if_pos everywhere, bind_bind]
  · intro several seat isSeat own
    exact (sumWhole_waits connects isSeat several own).bind _
  · intro found finds
    rw [sumWhole_all connects]
    exact ⟨_, outcomes_finish _, by rintro _ ⟨⟩⟩

end ProcessGroup

/-- The statistics that are added up over a group. Those of a field take the field, a histogram also
its bounds and its number of bins, and counts of a mesh the settings and the topology. -/
inductive Aggregate where
  | sum (field : Value)
  | average (field : Value)
  | finiteRange (field : Value)
  | histogram (field low high binCount : Value)
  | undefinedCount (field : Value)
  | infiniteCount (field : Value)
  | pointCount (settings : Settings) (topology : Answer)
  | elementCount (settings : Settings) (topology : Answer)

namespace Aggregate

def binningOf (low high binCount : Value) : Except Error (Binning Float) := do
  let count ← binCount.toWhole
  Binning.ofValues low high count

def program : Aggregate → ProcessGroup → Dataset → Collective Float Answer
  | sum field, group, dataset => do
      return .sum (← (dataset.fieldShare field).sum group)
  | average field, group, dataset => do
      return .scalar (.ofFloat (← (dataset.fieldShare field).average group))
  | finiteRange field, group, dataset => do
      let (low, high) ← (dataset.fieldShare field).finiteRange group
      return .range low high
  | histogram field low high binCount, group, dataset => do
      let binning ← binningOf low high binCount
      return .histogram (← (dataset.fieldShare field).histogram group binning)
  | undefinedCount field, group, dataset => do
      return .scalar (.whole (← (dataset.fieldShare field).undefinedCount group))
  | infiniteCount field, group, dataset => do
      return .scalar (.whole (← (dataset.fieldShare field).infiniteCount group))
  | pointCount settings topology, group, dataset => do
      return .value (.whole (← (Engine.mk group settings).countOver dataset Domain.pointCount topology
        (.value .null)))
  | elementCount settings topology, group, dataset => do
      return .value (.whole (← (Engine.mk group settings).countOver dataset Domain.elementCount
        topology (.value .null)))

/-- What one process does before its first exchange: it goes through its own domains. -/
def localPass : Aggregate → Dataset → Except Error Unit
  | sum field, dataset => do
      let _ ← (dataset.fieldShare field).ownSum
  | average field, dataset => do
      let _ ← (dataset.fieldShare field).ownSum
  | finiteRange field, dataset => do
      let _ ← (dataset.fieldShare field).ownRange
  | histogram field low high binCount, dataset => do
      let _ ← (dataset.fieldShare field).checkedCounts (binningOf low high binCount)
  | undefinedCount field, dataset => do
      let _ ← (dataset.fieldShare field).ownCount Entries.undefinedCount
  | infiniteCount field, dataset => do
      let _ ← (dataset.fieldShare field).ownCount Entries.infiniteCount
  | pointCount settings topology, dataset => do
      let _ ← dataset.ownTotal Domain.pointCount
        (Engine.topologyOr ⟨Engine.aloneGroup, settings⟩ topology)
  | elementCount settings topology, dataset => do
      let _ ← dataset.ownTotal Domain.elementCount
        (Engine.topologyOr ⟨Engine.aloneGroup, settings⟩ topology)

def ofQuery? (settings : Settings) (query : Query) (bound : Engine.Bound) : Option Aggregate :=
  match query with
  | .sum => some (sum (bound.valueOf "field"))
  | .average => some (average (bound.valueOf "field"))
  | .undefinedCount => some (undefinedCount (bound.valueOf "field"))
  | .infiniteCount => some (infiniteCount (bound.valueOf "field"))
  | .pointCount =>
      if (bound.get "domain").isNull then some (pointCount settings (bound.get "topology")) else none
  | .elementCount =>
      if (bound.get "domain").isNull then some (elementCount settings (bound.get "topology"))
      else none
  | _ => none

theorem eq_null_of_isNull {answer : Answer} (isNull : answer.isNull = true) :
    answer = .value .null := by
  unfold Answer.isNull at isNull
  split at isNull
  · rfl
  · cases isNull

/-- An engine answers such a query by the program of the statistic. -/
theorem answer_eq_program {engine : Engine} {dataset : Dataset} {query : Query}
    {bound : Engine.Bound} {aggregate : Aggregate}
    (asked : ofQuery? engine.settings query bound = some aggregate) :
    engine.answer dataset query bound = aggregate.program engine.group dataset := by
  unfold ofQuery? at asked
  split at asked
  all_goals first
    | cases asked; rfl
    | split at asked
      · rename_i isNull
        cases asked
        unfold Engine.answer
        simp only [eq_null_of_isNull isNull]
        rfl
      · cases asked
    | cases asked

open ProcessGroup

theorem decided (aggregate : Aggregate) {kind : GroupKind} {datasets : List Dataset}
    (connects : kind.Connects datasets.length) :
    DecidedByOwnSteps kind aggregate.program (fun _ => aggregate.localPass) datasets := by
  cases aggregate with
  | sum field =>
      exact (sum_decided (fun dataset => Dataset.fieldShare field dataset) connects
        (fun sum => .ok (Answer.sum sum)) (by rintro _ _ ⟨⟩)).forget
  | average field =>
      have sameProgram : (Aggregate.average field).program = fun group dataset =>
          (Dataset.fieldShare field dataset).sum group >>= fun sum => Collective.ofExcept
            ((fun mean => Answer.scalar (.ofFloat mean)) <$> sum.mean? field.putInto) := by
        funext group dataset
        exact FieldShare.average_bind group (Dataset.fieldShare field dataset) _
      rw [sameProgram]
      apply DecidedByOwnSteps.forget
      apply sum_decided (fun dataset => Dataset.fieldShare field dataset) connects
      intro sum cause fails
      cases mean : sum.mean? field.putInto with
      | ok found =>
          rw [mean] at fails
          cases fails
      | error other =>
          rw [mean] at fails
          cases fails
          exact sum.mean?_missing mean
  | finiteRange field =>
      exact (finiteRange_decided (fun dataset => Dataset.fieldShare field dataset) connects
        field.putInto (fun _ => rfl) (fun range => Answer.range range.1 range.2)).forget
  | histogram field low high binCount =>
      exact (histogram_decided (fun dataset => Dataset.fieldShare field dataset) connects
        (binningOf low high binCount) Answer.histogram).forget
  | undefinedCount field =>
      exact (countOf_decided (fun dataset => Dataset.fieldShare field dataset) connects
        Entries.undefinedCount (fun count => Answer.scalar (.whole count))).forget
  | infiniteCount field =>
      exact (countOf_decided (fun dataset => Dataset.fieldShare field dataset) connects
        Entries.infiniteCount (fun count => Answer.scalar (.whole count))).forget
  | pointCount settings topology =>
      exact (countOver_decided connects settings Domain.pointCount topology
        (fun total => Answer.value (.whole total))).forget
  | elementCount settings topology =>
      exact (countOver_decided connects settings Domain.elementCount topology
        (fun total => Answer.value (.whole total))).forget

/-- If every process's pass over its own domains succeeds, all processes return one answer or all
fail for missing data. Otherwise a process whose own pass fails ends with that failure, and every
other one waits for ever. So a group ends alike exactly if the passes do. -/
theorem ends_as_localPasses_do (aggregate : Aggregate) (kind : GroupKind) (datasets : List Dataset)
    (connects : kind.Connects datasets.length) :
    ((∀ dataset ∈ datasets, aggregate.localPass dataset = .ok ()) →
      ∃ result, together kind aggregate.program datasets = datasets.map (fun _ => result) ∧
        ∀ cause, result = .error cause → cause.category = .missingData) ∧
    ((∃ dataset ∈ datasets, ∃ cause, aggregate.localPass dataset = .error cause) →
      together kind aggregate.program datasets =
        datasets.map fun dataset => Collective.leftWaiting (aggregate.localPass dataset)) ∧
    (EndAlike (together kind aggregate.program datasets) ↔
      EndAlike (datasets.map aggregate.localPass)) := by
  have isDecided := aggregate.decided connects
  refine ⟨?_, ?_, ?_⟩
  · intro succeeded
    exact isDecided.agree fun seat isSeat =>
      ⟨(), succeeded seat.2 (share_mem_of_mem_seats isSeat)⟩
  · rintro ⟨dataset, isShare, cause, fails⟩
    obtain ⟨seat, isSeat, rfl⟩ := exists_seat kind isShare
    rw [isDecided.strand ⟨seat, isSeat, cause, fails⟩]
    exact map_seats_share kind (fun dataset => Collective.leftWaiting (aggregate.localPass dataset))
      datasets
  · rw [isDecided.endAlike_iff, map_seats_share kind aggregate.localPass]

def flowDomain : Domain :=
  ⟨[], [], [("flow", ⟨"flow", "vertex", "mesh",
    .components [("u", .truth [false]), ("v", .truth [true])]⟩)], []⟩

theorem ends_as_localPasses_do_for_two :
    GroupKind.lockstep.Connects 2 ∧
    together .lockstep (sum (.text "flow")).program [[flowDomain], []] =
      [.error (.severalComponents "flow" ["u", "v"]), .error .deadlock] ∧
    ∃ result, together .messagePassing (infiniteCount (.text "flow")).program [[], []] =
      [result, result] := by
  refine ⟨by decide, ?_, ?_⟩
  · obtain ⟨_, strand, _⟩ := (sum (.text "flow")).ends_as_localPasses_do .lockstep
      [[flowDomain], []] (by decide)
    exact strand ⟨[flowDomain], List.mem_cons_self, .severalComponents "flow" ["u", "v"], rfl⟩
  · obtain ⟨agree, _, _⟩ := (infiniteCount (.text "flow")).ends_as_localPasses_do
      .messagePassing [[], []] (by decide)
    obtain ⟨result, same, _⟩ := agree (by simp [localPass]; rfl)
    exact ⟨result, same⟩

/-- Where only one of two processes holds a field of several components, its sum fails there and the
other process waits for ever. -/
theorem sum_of_components_strands_other :
    ¬ EndAlike (together .lockstep (sum (.text "flow")).program [[flowDomain], []]) := by
  have ends : together .lockstep (sum (.text "flow")).program [[flowDomain], []] =
      [.error (.severalComponents "flow" ["u", "v"]), .error .deadlock] := rfl
  rw [ends]
  rintro (⟨result, allReturn⟩ | ⟨category, notDeadlock, allFail⟩)
  · cases allReturn _ List.mem_cons_self
  · obtain ⟨cause, fails, sameCategory⟩ := allFail (.error .deadlock) (by simp)
    cases fails
    exact notDeadlock sameCategory.symm

end Aggregate

end FieldSurvey
