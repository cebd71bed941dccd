import FieldSurvey.Proofs.Agreement.Ends
import FieldSurvey.Proofs.Kernel.DoubleBins
import FieldSurvey.Proofs.Packed.Relay

/-!
Which value a group tells for a state variable. Every process looks for its first domain that
defines the variable, and of those that have one the lowest rank tells its value. Whether a variable
is defined is kept apart from what it holds, so a value that is null, false, zero or empty is told
like any other.
-/

namespace FieldSurvey

open ProcessGroup

def Domain.stateValue? (wanted : Value) (domain : Domain) : Option Value :=
  (domain.state.find? fun entry => entry.1.sameKey wanted).map Prod.snd

/-- The value of the first domain that defines the variable. -/
def Dataset.stateValue? (wanted : Value) (dataset : Dataset) : Option Value :=
  dataset.findSome? (Domain.stateValue? wanted)

/-- The value is stored by the first domain that defines the variable on the lowest rank that has
such a domain. -/
def IsFirstState (wanted : Value) (datasets : List Dataset) (value : Value) : Prop :=
  ∃ (lower higher : List Dataset) (earlier later : List Domain) (domain : Domain),
    datasets = lower ++ (earlier ++ domain :: later) :: higher ∧
    domain.stateValue? wanted = some value ∧
    (∀ other ∈ earlier, other.stateValue? wanted = none) ∧
    ∀ dataset ∈ lower, ∀ other ∈ dataset, other.stateValue? wanted = none

/-- No domain of any process defines the variable. -/
def IsNowhereState (wanted : Value) (datasets : List Dataset) : Prop :=
  ∀ dataset ∈ datasets, ∀ domain ∈ dataset, domain.stateValue? wanted = none

section Looking

variable {wanted value : Value} {dataset : Dataset} {domain : Domain}

theorem Domain.stateValue?_mem (stored : domain.stateValue? wanted = some value) :
    ∃ entry ∈ domain.state, entry.2 = value := by
  obtain ⟨entry, finds, same⟩ := Option.map_eq_some_iff.mp stored
  exact ⟨entry, List.mem_of_find?_eq_some finds, same⟩

theorem Dataset.stateValue?_eq_none :
    dataset.stateValue? wanted = none ↔ ∀ domain ∈ dataset, domain.stateValue? wanted = none :=
  List.findSome?_eq_none_iff

theorem Dataset.stateValue?_of_first {earlier later : List Domain}
    (stored : domain.stateValue? wanted = some value)
    (first : ∀ other ∈ earlier, other.stateValue? wanted = none) :
    Dataset.stateValue? wanted (earlier ++ domain :: later) = some value :=
  List.findSome?_eq_some_iff.mpr ⟨earlier, domain, later, rfl, stored, first⟩

theorem Dataset.look_stateVariable (isKey : wanted.isKey = true) (dataset : Dataset) :
    (MetadataQuery.stateVariable wanted).look dataset =
      .ok { value := dataset.stateValue? wanted } := by
  have finds :
      dataset.havingState wanted = .ok (dataset.filterMap (Domain.stateValue? wanted)) := by
    cases dataset with
    | nil => rfl
    | cons domain rest =>
        unfold havingState
        rw [isKey]
        rfl
  simp only [MetadataQuery.look, finds, ok_bind]
  rw [List.head?_filterMap]
  rfl

/-- Where the variable is defined at all, some domain is the first one to define it. -/
theorem exists_firstState {datasets : List Dataset} (defined : ¬ IsNowhereState wanted datasets) :
    ∃ value, IsFirstState wanted datasets value := by
  cases found : datasets.findSome? (Dataset.stateValue? wanted) with
  | none =>
      refine absurd ?_ defined
      intro dataset isShare
      exact Dataset.stateValue?_eq_none.mp (List.findSome?_eq_none_iff.mp found dataset isShare)
  | some value =>
      obtain ⟨lower, dataset, higher, shares, holds, lowest⟩ := List.findSome?_eq_some_iff.mp found
      obtain ⟨earlier, domain, later, rfl, stored, first⟩ := List.findSome?_eq_some_iff.mp holds
      refine ⟨value, lower, higher, earlier, later, domain, shares, stored, first, ?_⟩
      intro dataset isLower
      exact Dataset.stateValue?_eq_none.mp (lowest dataset isLower)

end Looking

/-- What survives being packed can be handed in, and arrives as an equal value. -/
theorem GroupKind.tells_survivor {value : Value} (survives : value.Survives) (kind : GroupKind) :
    (∃ payload : Payload Float, kind.handIn value = .ok payload) ∧
      ∃ arrived, kind.arrival value = .ok arrived ∧ arrived.untyped = value.untyped ∧
        (value.relayed = .ok value → arrived = value) := by
  obtain ⟨arrived, relays, same⟩ := survives
  obtain ⟨bytes, packed, unpacked⟩ := bind_eq_ok.mp relays
  have several : (∃ payload : Payload Float,
        (do return .value (.bytes (← pack value))) = Except.ok payload) ∧
      ∃ arrived, value.transit = .ok arrived ∧ arrived.untyped = value.untyped ∧
        (value.relayed = .ok value → arrived = value) := by
    refine ⟨⟨.value (.bytes bytes), by rw [packed]; rfl⟩, arrived, ?_, same, ?_⟩
    · rw [← unpack_pack packed, unpacked]
    · intro unchanged
      rw [relays] at unchanged
      exact Except.ok.inj unchanged
  cases kind with
  | alone => exact ⟨⟨.value value, rfl⟩, value, rfl, rfl, fun _ => rfl⟩
  | lockstep => exact several
  | messagePassing => exact several
  | unspecified => exact several

namespace MetadataQuery

variable {kind : GroupKind} {wanted : Value} {datasets : List Dataset}

/-- What a process bids with its own first value of the variable. -/
def stateBid (wanted : Value) (dataset : Dataset) : Bid :=
  ⟨(dataset.stateValue? wanted).getD .null, Scalar.zero, (dataset.stateValue? wanted).isSome⟩

theorem mapM_look_stateVariable (isKey : wanted.isKey = true) (datasets : List Dataset) :
    datasets.mapM (stateVariable wanted).look =
      .ok (datasets.map fun dataset => { value := dataset.stateValue? wanted }) :=
  mapM_of_forall_ok fun dataset _ => dataset.look_stateVariable isKey

theorem bids_stateVariable (wanted : Value) (datasets : List Dataset) :
    (datasets.map fun dataset =>
        ({ value := dataset.stateValue? wanted } : Finding)).map (stateVariable wanted).bid =
      datasets.map (stateBid wanted) := by
  rw [List.map_map]
  rfl

theorem ownStep_stateVariable (isKey : wanted.isKey = true) (group : ProcessGroup)
    (dataset : Dataset) :
    (stateVariable wanted).ownStep datasets group dataset =
      group.tellStep (Bid.winner? (datasets.map (stateBid wanted))) (stateBid wanted dataset) := by
  unfold ownStep winner?
  rw [dataset.look_stateVariable isKey, mapM_look_stateVariable isKey, ok_bind]
  simp only [tells, if_true, bids_stateVariable]
  rfl

theorem result_stateVariable (isKey : wanted.isKey = true) (kind : GroupKind)
    (datasets : List Dataset) :
    (stateVariable wanted).result kind datasets =
      toldResult kind (datasets.map (stateBid wanted)) (.stateNowhere wanted.putInto)
        fun arrived => .ok (.value arrived) := by
  unfold result
  rw [mapM_look_stateVariable isKey, ok_bind]
  unfold conclusion
  simp only [tells, if_true, bids_stateVariable]
  rfl

theorem isTie_zero : Extreme.greatest.beats (Scalar.zero : Float) Scalar.zero = false := by
  have isDefined : Scalar.isUndefined (Scalar.zero : Float) = false :=
    Extreme.isUndefined_eq_false.mpr ⟨0, orderRank?_zero⟩
  rw [Extreme.beats_eq _ isDefined isDefined]
  exact decide_eq_false (Int.lt_irrefl _)

/-- All bid alike for the variable, so the lowest rank that bids at all wins. -/
theorem winner?_of_firstState {value : Value} (isFirst : IsFirstState wanted datasets value) :
    ∃ rank winning, Bid.winner? (datasets.map (stateBid wanted)) = some (rank, winning) ∧
      winning.content = value := by
  obtain ⟨lower, higher, earlier, later, domain, rfl, stored, first, lowest⟩ := isFirst
  have stands : Dataset.stateValue? wanted (earlier ++ domain :: later) = some value :=
    Dataset.stateValue?_of_first stored first
  refine ⟨(lower.map (stateBid wanted)).length, stateBid wanted (earlier ++ domain :: later),
    ?_, ?_⟩
  · rw [List.map_append, List.map_cons]
    apply Bid.winner?_first isTie_zero
    · intro other isOther
      rw [← List.map_cons, ← List.map_append] at isOther
      obtain ⟨dataset, _, rfl⟩ := List.mem_map.mp isOther
      rfl
    · rw [stateBid, stands]
      rfl
    · intro other isOther
      obtain ⟨dataset, isLower, rfl⟩ := List.mem_map.mp isOther
      rw [stateBid, Dataset.stateValue?_eq_none.mpr (lowest dataset isLower)]
      rfl
  · rw [stateBid, stands]
    rfl

theorem mem_state_of_firstState {value : Value} (isFirst : IsFirstState wanted datasets value) :
    ∃ dataset ∈ datasets, ∃ domain ∈ dataset, ∃ entry ∈ domain.state, entry.2 = value := by
  obtain ⟨lower, higher, earlier, later, domain, rfl, stored, _⟩ := isFirst
  exact ⟨earlier ++ domain :: later, by simp, domain, by simp, Domain.stateValue?_mem stored⟩

theorem winner?_of_nowhereState (nowhere : IsNowhereState wanted datasets) :
    Bid.winner? (datasets.map (stateBid wanted)) = none := by
  apply Bid.winner?_of_none_present
  intro bid isBid
  obtain ⟨dataset, isShare, rfl⟩ := List.mem_map.mp isBid
  rw [stateBid, Dataset.stateValue?_eq_none.mpr (nowhere dataset isShare)]
  rfl

theorem stateVariable_told (connects : kind.Connects datasets.length) (isKey : wanted.isKey = true)
    {rank : Nat} {winning : Bid}
    (won : Bid.winner? (datasets.map (stateBid wanted)) = some (rank, winning))
    (survives : winning.content.Survives) :
    ∃ arrived,
      together kind (stateVariable wanted).program datasets =
        datasets.map (fun _ => .ok (.value arrived)) ∧
      arrived.untyped = winning.content.untyped ∧
      (winning.content.relayed = .ok winning.content → arrived = winning.content) := by
  obtain ⟨⟨payload, handed⟩, arrived, arrives, same, unchanged⟩ := kind.tells_survivor survives
  refine ⟨arrived, ?_, same, unchanged⟩
  have succeeded : ∀ seat ∈ seats kind datasets,
      (stateVariable wanted).ownStep datasets seat.1 seat.2 = .ok () := by
    intro seat isSeat
    rw [ownStep_stateVariable isKey]
    exact tellStep_of_handIn won handed isSeat
  have agrees : together kind (stateVariable wanted).program datasets = _ :=
    ((stateVariable wanted).ends connects).agree succeeded
  rw [agrees, result_stateVariable isKey, toldResult, won]
  simp only [arrives, ok_bind]

theorem stateVariable_untold (connects : kind.Connects datasets.length)
    (isKey : wanted.isKey = true) (nowhere : IsNowhereState wanted datasets) :
    together kind (stateVariable wanted).program datasets =
      datasets.map fun _ => .error (.stateNowhere wanted.putInto) := by
  have unwon := winner?_of_nowhereState nowhere
  have succeeded : ∀ seat ∈ seats kind datasets,
      (stateVariable wanted).ownStep datasets seat.1 seat.2 = .ok () := by
    intro seat _
    rw [ownStep_stateVariable isKey, unwon, tellStep_none]
  have agrees : together kind (stateVariable wanted).program datasets = _ :=
    ((stateVariable wanted).ends connects).agree succeeded
  rw [agrees, result_stateVariable isKey, toldResult, unwon]

/-- All processes end with the value that is stored first, where the processes are taken by rank and
the domains of each in their order. If no domain of any process defines it, all miss it. -/
theorem stateVariable_is_first (kind : GroupKind) (datasets : List Dataset)
    (connects : kind.Connects datasets.length) (wanted : Value) (isKey : wanted.isKey = true)
    (survive : ∀ dataset ∈ datasets, ∀ domain ∈ dataset, ∀ entry ∈ domain.state,
      entry.2.Survives) :
    ((∃ value, IsFirstState wanted datasets value) ∨ IsNowhereState wanted datasets) ∧
    (∀ value, IsFirstState wanted datasets value →
      ∃ arrived,
        together kind (stateVariable wanted).program datasets =
          datasets.map (fun _ => .ok (.value arrived)) ∧
        arrived.untyped = value.untyped ∧ (value.relayed = .ok value → arrived = value)) ∧
    (IsNowhereState wanted datasets →
      ∃ cause, cause.category = .missingData ∧
        together kind (stateVariable wanted).program datasets =
          datasets.map fun _ => .error cause) := by
  refine ⟨?_, ?_, ?_⟩
  · by_cases nowhere : IsNowhereState wanted datasets
    · exact .inr nowhere
    · exact .inl (exists_firstState nowhere)
  · intro value isFirst
    obtain ⟨dataset, isShare, domain, isDomain, entry, isEntry, isValue⟩ :=
      mem_state_of_firstState isFirst
    have survives := survive dataset isShare domain isDomain entry isEntry
    rw [isValue] at survives
    obtain ⟨rank, winning, won, rfl⟩ := winner?_of_firstState isFirst
    exact stateVariable_told connects isKey won survives
  · intro nowhere
    exact ⟨_, rfl, stateVariable_untold connects isKey nowhere⟩

/-- A domain whose state holds nothing but its cycle. -/
def cycleDomain (cycle : Value) : Domain := ⟨[], [], [], [(.text "cycle", cycle)]⟩

theorem stateVariable_is_first_when_unset :
    GroupKind.lockstep.Connects 3 ∧ (Value.text "cycle").isKey = true ∧
    together .lockstep (stateVariable (.text "cycle")).program
        [[], [emptyFlowDomain, cycleDomain .null], [cycleDomain (.whole 7)]] =
      [.ok (.value .null), .ok (.value .null), .ok (.value .null)] := by
  refine ⟨by decide, rfl, ?_⟩
  have nullSurvives : Value.null.Survives := ⟨.null, rfl, rfl⟩
  have wholeSurvives : (Value.whole 7).Survives := ⟨.whole 7, rfl, rfl⟩
  obtain ⟨_, first, _⟩ := stateVariable_is_first .lockstep
    [[], [emptyFlowDomain, cycleDomain .null], [cycleDomain (.whole 7)]]
    (by decide) (.text "cycle") rfl (by
      intro dataset isShare domain isDomain entry isEntry
      simp only [List.mem_cons, List.not_mem_nil, or_false] at isShare
      rcases isShare with rfl | rfl | rfl
      · cases isDomain
      · rcases List.mem_pair.mp isDomain with rfl | rfl
        · cases isEntry
        · cases List.mem_singleton.mp isEntry
          exact nullSurvives
      · cases List.mem_singleton.mp isDomain
        cases List.mem_singleton.mp isEntry
        exact wholeSurvives)
  obtain ⟨arrived, told, _, unchanged⟩ := first .null
    ⟨[[]], [[cycleDomain (.whole 7)]], [emptyFlowDomain], [], cycleDomain .null,
      rfl, rfl, by simp [Domain.stateValue?, emptyFlowDomain], by simp⟩
  rw [told, unchanged rfl]
  rfl

end MetadataQuery

end FieldSurvey
