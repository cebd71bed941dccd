import FieldSurvey.Proofs.Statistics.Extremum

/-!
Extreme entries of a field of doubles that may hold infinities. A process whose first array with a
defined entry yields an undefined one keeps that, and so does the group; so the first such array of
all decides whether a group reports an undefined value.
-/

namespace FieldSurvey

open ProcessGroup OwnExtremum

/-- The arrays of a field, by rank and then by domain. -/
def fieldArrays (name : String) (datasets : List Dataset) : List (List Float) :=
  datasets.flatMap fun dataset => (dataset.holders name).map fun holder => holder.2.reals?.getD []

/-- The first array of a field that has a defined entry. -/
def firstDefinedArray? (name : String) (datasets : List Dataset) : Option (List Float) :=
  (fieldArrays name datasets).find? fun entries => entries.any fun number =>
    !Scalar.isUndefined number

section Group

variable {extreme : Extreme} {name : String} {datasets : List Dataset} {kind : GroupKind}

theorem findSome?_foundIn (arrays : List (List Float)) :
    arrays.findSome? extreme.foundIn = (arrays.find? fun entries => entries.any fun number =>
      !Scalar.isUndefined number).bind extreme.foundIn := by
  induction arrays with
  | nil => rfl
  | cons entries rest inductionHypothesis =>
      rw [List.findSome?_cons, List.find?_cons]
      cases found : extreme.foundIn entries with
      | none =>
          rw [Extreme.foundIn_eq_none_iff.mp found]
          exact inductionHypothesis
      | some item =>
          have someDefined : (entries.any fun number => !Scalar.isUndefined number) = true := by
            by_contra noneDefined
            rw [Extreme.foundIn_eq_none_iff.mpr (Bool.eq_false_iff.mpr noneDefined)] at found
            cases found
          rw [someDefined]
          exact found.symm

/-- What a process finds is as undefined as what its first array with a defined entry yields. -/
theorem isUndefined_ownFound (extreme : Extreme) (name : String) (dataset : Dataset) :
    (dataset.ownFound extreme name).map (fun own => Scalar.isUndefined own.value) =
      (((dataset.holders name).map fun holder => holder.2.reals?.getD []).findSome?
        extreme.foundIn).map fun item => Scalar.isUndefined item.1 := by
  unfold Dataset.ownFound
  rw [isUndefined_leader extreme]
  induction dataset.holders name with
  | nil => rfl
  | cons holder rest inductionHypothesis =>
      rw [List.map_cons, List.map_cons, List.findSome?_cons, List.findSome?_cons]
      cases extreme.foundIn (holder.2.reals?.getD []) with
      | none => exact inductionHypothesis
      | some item => rfl

theorem findSome?_presentSubmissions (rank : Nat) (own : List (Option (OwnExtremum Float))) :
    ((presentSubmissions rank (own.map submission)).findSome? id).map
        (fun item => Scalar.isUndefined item.1) =
      (own.findSome? id).map fun own => Scalar.isUndefined own.value := by
  induction own generalizing rank with
  | nil => rfl
  | cons first rest inductionHypothesis =>
      cases first with
      | none => exact inductionHypothesis (rank + 1)
      | some own => rfl

theorem isUndefined_firstOwn :
    ((datasets.map (Dataset.ownFound extreme name)).findSome? id).map
        (fun own => Scalar.isUndefined own.value) =
      ((fieldArrays name datasets).findSome? extreme.foundIn).map fun item =>
        Scalar.isUndefined item.1 := by
  induction datasets with
  | nil => rfl
  | cons dataset rest inductionHypothesis =>
      have first := isUndefined_ownFound extreme name dataset
      unfold fieldArrays at inductionHypothesis ⊢
      rw [List.map_cons, List.findSome?_cons, List.flatMap_cons, List.findSome?_append]
      cases own : dataset.ownFound extreme name with
      | none =>
          rw [own] at first
          have noneFound := Option.map_eq_none_iff.mp first.symm
          rw [noneFound]
          exact inductionHypothesis
      | some best =>
          rw [own] at first
          obtain ⟨item, found, sameDefined⟩ := Option.map_eq_some_iff.mp first.symm
          rw [found]
          exact congrArg some sameDefined.symm

/-- A reported value is the one that the processes' results choose. -/
theorem select_of_reported (connects : kind.Connects datasets.length)
    (holdsReals : HoldsReals name datasets) {record : FieldExtremum Float}
    (reported : .ok record ∈ together kind (extremumProgram extreme (.text name)) datasets) :
    ∃ rank, select extreme ((datasets.map (Dataset.ownFound extreme name)).map submission) =
      some (record.value, rank) := by
  let own : ProcessGroup × Dataset → Option (OwnExtremum Float) := fun seat =>
    seat.2.ownFound extreme name
  have scans : ∀ seat ∈ seats kind datasets,
      (Dataset.fieldShare (.text name) seat.2).ownExtremum extreme = .ok (own seat) :=
    fun seat isSeat => ownExtremum_found holdsReals (share_mem_of_mem_seats isSeat)
  have submitted : (seats kind datasets).map (fun seat => submission (own seat)) =
      (datasets.map (Dataset.ownFound extreme name)).map submission :=
    (map_seats_share kind (fun dataset : Dataset => submission (dataset.ownFound extreme name))
      datasets).trans (by rw [List.map_map]; rfl)
  rw [← submitted]
  cases chosen : select extreme ((seats kind datasets).map fun seat => submission (own seat)) with
  | none =>
      have allFail := extremum_none (Dataset.fieldShare (.text name)) extreme connects (fun _ => rfl)
        own scans chosen
      obtain ⟨_, _, isReported⟩ := List.mem_map.mp (allFail ▸ reported)
      cases isReported
  | some winner =>
      obtain ⟨value, rank⟩ := winner
      refine ⟨rank, ?_⟩
      obtain ⟨teller, isSeat, rfl, found, holds, _⟩ := exists_winner extreme chosen
      cases offers : teller.1.placeOffer (told (own teller)) teller.1.rank with
      | error cause =>
          have noneReturns := extremum_untold (Dataset.fieldShare (.text name)) extreme connects
            (fun _ => rfl) own scans isSeat chosen offers
          obtain ⟨seat, _, isReported⟩ := List.mem_map.mp (noneReturns ▸ reported)
          cases ends : seat.1.placeOffer (told (own seat)) teller.1.rank with
          | error cause =>
              rw [ends] at isReported
              cases isReported
          | ok payload =>
              rw [ends] at isReported
              cases isReported
      | ok payload =>
          have toldPlace := offers
          rw [holds] at toldPlace
          obtain ⟨position, domain, rfl⟩ := placeOffer_winner toldPlace
          have allReturn := extremum_told (Dataset.fieldShare (.text name)) extreme connects
            (fun _ => rfl) own scans isSeat chosen offers
          obtain ⟨_, _, isReported⟩ := List.mem_map.mp (allReturn ▸ reported)
          cases isReported
          rfl

/-- A reported value is undefined exactly if the search of the first array with a defined entry
stops at an undefined one. -/
theorem isUndefined_reported (connects : kind.Connects datasets.length)
    (holdsReals : HoldsReals name datasets) {record : FieldExtremum Float}
    (reported : .ok record ∈ together kind (extremumProgram extreme (.text name)) datasets) :
    Scalar.isUndefined record.value = true ↔
      ∃ entries, firstDefinedArray? name datasets = some entries ∧ ¬extreme.Searches entries := by
  obtain ⟨rank, chosen⟩ := select_of_reported connects holdsReals reported
  have firstFound := isUndefined_leader extreme Prod.fst
    (presentSubmissions 0 ((datasets.map (Dataset.ownFound extreme name)).map submission))
  rw [← select_eq_leader, chosen, findSome?_presentSubmissions, isUndefined_firstOwn,
    findSome?_foundIn] at firstFound
  obtain ⟨item, found, sameDefined⟩ := Option.map_eq_some_iff.mp firstFound.symm
  have sameDefined : Scalar.isUndefined item.1 = Scalar.isUndefined record.value := sameDefined
  obtain ⟨entries, isFirst, foundItem⟩ := Option.bind_eq_some_iff.mp found
  rw [← sameDefined, Extreme.isUndefined_foundIn foundItem]
  constructor
  · exact fun stops => ⟨entries, isFirst, stops⟩
  · rintro ⟨other, isFirstOther, stops⟩
    cases isFirstOther.symm.trans isFirst
    exact stops

/-- The search of an array finds the first best of its defined entries exactly if it does not stop
at an undefined one, and a group reports an undefined extreme entry of a field exactly if the search
of the first array with a defined entry does. -/
theorem search_finds_first_iff (extreme : Extreme) :
    (∀ entries : List Float, ∃ found, (Entries.reals entries).extremum extreme = .ok found ∧
      (FindsFirst extreme entries found ↔ extreme.Searches entries)) ∧
    ∀ (name : String) (kind : GroupKind) (datasets : List Dataset), kind.Connects datasets.length →
      HoldsReals name datasets → ∀ record : FieldExtremum Float,
      .ok record ∈ together kind (extremumProgram extreme (.text name)) datasets →
        (Scalar.isUndefined record.value = true ↔
          ∃ entries, firstDefinedArray? name datasets = some entries ∧ ¬extreme.Searches entries) := by
  refine ⟨fun entries => ⟨extreme.foundIn entries, Extreme.extremum_eq_foundIn,
    Extreme.findsFirst_foundIn_iff⟩, ?_⟩
  intro name kind datasets connects holdsReals record reported
  exact isUndefined_reported connects holdsReals reported

/-- A domain with an undefined entry before an infinite one. -/
def glowDomain : Domain :=
  ⟨[("coords", .explicit ⟨.float .double [0, 0], .float .double [0, 0], none⟩)],
    [("mesh", ⟨"coords", .points⟩)],
    [("warmth", ⟨"warmth", "vertex", "mesh",
      .scalar (.float .double [0x7ff8000000000000, 0x7ff0000000000000])⟩)],
    [(.text "domain_id", .whole 7)]⟩

/-- As the greatest entry the infinity is found. -/
theorem search_finds_first_in_glow :
    GroupKind.lockstep.Connects 2 ∧ HoldsReals "warmth" [[], [glowDomain]] ∧
    ∃ record, .ok record ∈ together .lockstep (extremumProgram .greatest (.text "warmth"))
        [[], [glowDomain]] ∧
      Scalar.isUndefined record.value = false := by
  have holdsReals : HoldsReals "warmth" [[], [glowDomain]] := by decide +kernel
  have someReported : ((together .lockstep (extremumProgram .greatest (.text "warmth"))
      [[], [glowDomain]]).any Except.isOk) = true := by decide +kernel
  obtain ⟨outcome, isOutcome, isOk⟩ := List.any_eq_true.mp someReported
  cases outcome with
  | error cause => cases isOk
  | ok record =>
      refine ⟨by decide, holdsReals, record, isOutcome, Bool.eq_false_iff.mpr fun isUndefined => ?_⟩
      obtain ⟨entries, isFirst, stops⟩ := ((search_finds_first_iff .greatest).2 "warmth" .lockstep
        [[], [glowDomain]] (by decide) holdsReals record isOutcome).mp isUndefined
      cases isFirst
      exact stops fun _ => ⟨_, List.mem_cons_of_mem _ List.mem_cons_self, by decide +kernel⟩

/-- As the least entry the undefined one is found. -/
theorem search_of_least_stops :
    (Entries.reals [(Scalar.undefined : Float), Scalar.infinity]).extremum .least =
        .ok (some (Scalar.undefined, 0)) ∧
      (together .lockstep (extremumProgram .least (.text "warmth")) [[], [glowDomain]]).map
          (fun outcome => outcome.toOption.map fun record => Scalar.isUndefined record.value) =
        [some true, some true] := by
  constructor
  · decide +kernel
  · decide +kernel

end Group

end FieldSurvey
