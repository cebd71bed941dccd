import Mathlib.Data.List.Forall2
import FieldSurvey.Error

/-!
Computations that give a result or fail, taken apart: what a sequence, a pass over a list, or the
same step for every item of a list tells when it succeeds.
-/

namespace FieldSurvey

variable {ε β γ δ ζ : Type}

@[simp] theorem ok_bind (result : β) (next : β → Except ε γ) :
    (Except.ok result >>= next) = next result := rfl

@[simp] theorem error_bind (cause : ε) (next : β → Except ε γ) :
    (Except.error cause >>= next) = .error cause := rfl

@[simp] theorem pure_eq_ok (result : β) : (pure result : Except ε β) = .ok result := rfl

theorem bind_eq_ok {outcome : Except ε β} {next : β → Except ε γ} {result : γ} :
    (outcome >>= next) = .ok result ↔ ∃ found, outcome = .ok found ∧ next found = .ok result := by
  cases outcome with
  | error cause => simp
  | ok found => simp

theorem map_eq_ok {outcome : Except ε β} {change : β → γ} {result : γ} :
    change <$> outcome = .ok result ↔ ∃ found, outcome = .ok found ∧ change found = result := by
  cases outcome with
  | error cause => simp
  | ok found => simp

theorem bind_eq_error {outcome : Except ε β} {next : β → Except ε γ} {cause : ε} :
    (outcome >>= next) = .error cause ↔
      outcome = .error cause ∨ ∃ found, outcome = .ok found ∧ next found = .error cause := by
  cases outcome with
  | error other => simp
  | ok found => simp

theorem foldlM_invariant {step : β → γ → Except ε β} {invariant : β → Prop}
    (kept : ∀ state item next, invariant state → step state item = .ok next → invariant next)
    (items : List γ) {start final : β} (atStart : invariant start)
    (passed : items.foldlM step start = .ok final) : invariant final := by
  induction items generalizing start with
  | nil =>
      cases passed
      exact atStart
  | cons item rest inductionHypothesis =>
      rw [List.foldlM_cons] at passed
      obtain ⟨next, stepped, passed⟩ := bind_eq_ok.mp passed
      exact inductionHypothesis (kept start item next atStart stepped) passed

/-- A pass ends well if every step does that starts from what holds after the items before. -/
theorem foldlM_reaches {step : β → γ → Except ε β} {items : List γ} (invariant : List γ → β → Prop)
    (goesOn : ∀ passed item state, item ∈ items → invariant passed state →
      ∃ next, step state item = .ok next ∧ invariant (passed ++ [item]) next)
    {start : β} (atStart : invariant [] start) :
    ∃ final, items.foldlM step start = .ok final ∧ invariant items final := by
  have fromAny : ∀ rest : List γ, (∀ item ∈ rest, item ∈ items) →
      ∀ passed state, invariant passed state →
        ∃ final, rest.foldlM step state = .ok final ∧ invariant (passed ++ rest) final := by
    intro rest areItems
    induction rest with
    | nil =>
        intro passed state holds
        rw [List.append_nil]
        exact ⟨state, rfl, holds⟩
    | cons item later inductionHypothesis =>
        intro passed state holds
        obtain ⟨next, stepped, holdsNext⟩ :=
          goesOn passed item state (areItems item List.mem_cons_self) holds
        rw [List.foldlM_cons, stepped, ok_bind, List.append_cons]
        exact inductionHypothesis
          (fun other isLater => areItems other (List.mem_cons_of_mem _ isLater)) _ _ holdsNext
  exact fromAny items (fun _ isItem => isItem) [] start atStart

theorem mapM_eq_ok {step : β → Except ε γ} {items : List β} {results : List γ} :
    items.mapM step = .ok results ↔
      List.Forall₂ (fun item result => step item = .ok result) items results := by
  induction items generalizing results with
  | nil =>
      cases results with
      | nil => simp
      | cons _ _ => simp
  | cons item rest inductionHypothesis =>
      rw [List.mapM_cons]
      constructor
      · intro passed
        obtain ⟨first, stepped, passed⟩ := bind_eq_ok.mp passed
        obtain ⟨later, restPassed, collected⟩ := bind_eq_ok.mp passed
        cases collected
        exact .cons stepped (inductionHypothesis.mp restPassed)
      · intro passed
        cases passed with
        | cons stepped restPassed =>
            rw [stepped, inductionHypothesis.mpr restPassed]
            rfl

/-- Steps whose results can be told from what is known of each item. -/
theorem mapM_of_forall₂ {step : β → Except ε γ} {items : List β} {known : δ → γ}
    {facts : List δ} {describes : β → δ → Prop} (described : List.Forall₂ describes items facts)
    (succeeds : ∀ item, ∀ fact ∈ facts, describes item fact → step item = .ok (known fact)) :
    items.mapM step = .ok (facts.map known) := by
  obtain ⟨sameLength, describesEach⟩ := List.forall₂_iff_zip.mp described
  rw [mapM_eq_ok, List.forall₂_map_right_iff, List.forall₂_iff_zip]
  refine ⟨sameLength, ?_⟩
  intro item fact isPair
  exact succeeds item fact (List.of_mem_zip isPair).2 (describesEach isPair)

theorem exists_of_mapM_ok {step : β → Except ε γ} {items : List β} {results : List γ}
    (passed : items.mapM step = .ok results) {item : β} (isItem : item ∈ items) :
    ∃ result ∈ results, step item = .ok result := by
  induction mapM_eq_ok.mp passed with
  | nil => cases isItem
  | cons stepped restPassed inductionHypothesis =>
      rename_i first result rest later
      cases List.mem_cons.mp isItem with
      | inl isFirst =>
          rw [isFirst]
          exact ⟨result, List.mem_cons_self, stepped⟩
      | inr isLater =>
          obtain ⟨found, isFound, succeeds⟩ :=
            inductionHypothesis (mapM_eq_ok.mpr restPassed) isLater
          exact ⟨found, List.mem_cons_of_mem _ isFound, succeeds⟩

theorem exists_of_mem_mapM {step : β → Except ε γ} {items : List β} {results : List γ}
    (passed : items.mapM step = .ok results) {result : γ} (isResult : result ∈ results) :
    ∃ item ∈ items, step item = .ok result := by
  induction mapM_eq_ok.mp passed with
  | nil => cases isResult
  | cons stepped restPassed inductionHypothesis =>
      rename_i first found rest later
      cases List.mem_cons.mp isResult with
      | inl isFirst =>
          rw [isFirst]
          exact ⟨first, List.mem_cons_self, stepped⟩
      | inr isLater =>
          obtain ⟨item, isItem, succeeds⟩ :=
            inductionHypothesis (mapM_eq_ok.mpr restPassed) isLater
          exact ⟨item, List.mem_cons_of_mem _ isItem, succeeds⟩

theorem mapM_of_forall_ok {step : β → Except ε γ} {result : β → γ} {items : List β}
    (succeeds : ∀ item ∈ items, step item = .ok (result item)) :
    items.mapM step = .ok (items.map result) := by
  rw [mapM_eq_ok, List.forall₂_map_right_iff, List.forall₂_same]
  exact succeeds

theorem mapM_map_of_forall_ok {prepare : δ → β} {step : β → Except ε γ} {items : List δ}
    (result : δ → γ) (succeeds : ∀ item ∈ items, step (prepare item) = .ok (result item)) :
    (items.map prepare).mapM step = .ok (items.map result) := by
  rw [mapM_eq_ok, List.forall₂_map_left_iff, List.forall₂_map_right_iff, List.forall₂_same]
  exact succeeds

/-- Steps that succeed for every item give one result for each. -/
theorem exists_results [Nonempty γ] {step : β → Except ε γ} {items : List β}
    (succeeds : ∀ item ∈ items, ∃ result, step item = .ok result) :
    ∃ result : β → γ, ∀ item ∈ items, step item = .ok (result item) := by
  refine ⟨fun item => (step item).toOption.getD (Classical.arbitrary γ), ?_⟩
  intro item isItem
  obtain ⟨result, outcome⟩ := succeeds item isItem
  simp only [outcome, Except.toOption, Option.getD_some]

theorem exists_results_of_mapM [Nonempty γ] {step : β → Except ε γ} {items : List β}
    {results : List γ} (passed : items.mapM step = .ok results) :
    ∃ result : β → γ, (∀ item ∈ items, step item = .ok (result item)) ∧
      items.map result = results := by
  obtain ⟨result, succeeds⟩ := exists_results fun item isItem =>
    (exists_of_mapM_ok passed isItem).imp fun _ found => found.2
  rw [mapM_of_forall_ok succeeds] at passed
  exact ⟨result, succeeds, Except.ok.inj passed⟩

/-- A pass whose steps only join what is prepared from each item prepares all items first. -/
theorem foldlM_prepared {prepare : γ → Except ε δ} (step : β → δ → β) (items : List γ) (start : β) :
    (items.foldlM (fun state item => do
      let found ← prepare item
      return step state found) start) = (do
      let found ← items.mapM prepare
      return found.foldl step start) := by
  induction items generalizing start with
  | nil => rfl
  | cons item rest inductionHypothesis =>
      rw [List.foldlM_cons, List.mapM_cons]
      cases prepare item with
      | error cause => rfl
      | ok found =>
          simp only [ok_bind, pure_eq_ok]
          refine (inductionHypothesis (step start found)).trans ?_
          cases rest.mapM prepare <;> rfl

/-- A pass of which only a reading of the state is looked at. -/
theorem foldlM_reading {step : β → γ → Except ε β} {prepare : γ → Except ε δ} {read : β → ζ}
    {join : ζ → δ → ζ}
    (reads : ∀ state item, read <$> step state item = join (read state) <$> prepare item)
    (items : List γ) (start : β) :
    read <$> items.foldlM step start =
      (fun found => found.foldl join (read start)) <$> items.mapM prepare := by
  induction items generalizing start with
  | nil => rfl
  | cons item rest inductionHypothesis =>
      let after (state : ζ) : Except ε ζ :=
        (fun found => found.foldl join state) <$> rest.mapM prepare
      calc read <$> (item :: rest).foldlM step start
        _ = step start item >>= fun next => read <$> rest.foldlM step next := by
            rw [List.foldlM_cons, map_bind]
        _ = step start item >>= fun next => after (read next) := by
            simp only [inductionHypothesis, after]
        _ = (read <$> step start item) >>= after := by rw [bind_map_left]
        _ = prepare item >>= fun found => after (join (read start) found) := by
            rw [reads, bind_map_left]
        _ = (fun found => found.foldl join (read start)) <$> (item :: rest).mapM prepare := by
            simp only [after, List.mapM_cons, map_eq_pure_bind, bind_assoc, pure_bind,
              List.foldl_cons]

/-- A step that can only give back what it is given gives back a whole list if it does each item. -/
theorem mapM_eq_ok_of_steady {step : β → Except ε β} {items results : List β}
    (steady : ∀ item ∈ items, ∀ result, step item = .ok result → result = item) :
    items.mapM step = .ok results ↔ results = items ∧ ∀ item ∈ items, step item = .ok item := by
  constructor
  · intro passed
    induction mapM_eq_ok.mp passed with
    | nil => exact ⟨rfl, fun _ isItem => by cases isItem⟩
    | cons stepped restPassed inductionHypothesis =>
        rename_i item result items results
        obtain ⟨sameRest, allStep⟩ := inductionHypothesis
          (fun item isItem => steady item (List.mem_cons_of_mem _ isItem))
          (mapM_eq_ok.mpr restPassed)
        have same := steady item List.mem_cons_self result stepped
        rw [same] at stepped
        rw [same, sameRest]
        refine ⟨rfl, ?_⟩
        intro other isOther
        rcases List.mem_cons.mp isOther with rfl | isLater
        · exact stepped
        · exact allStep other isLater
  · rintro ⟨rfl, allStep⟩
    rw [mapM_of_forall_ok allStep, List.map_id']

/-- A failure of one process's own making: it comes neither of waiting for others nor of their
disagreement. -/
def Error.IsOwn (cause : Error) : Prop :=
  cause.category ≠ .deadlock ∧ cause.category ≠ .consistency

@[simp] theorem Error.isOwn_iff (cause : Error) :
    cause.IsOwn ↔ cause.category ≠ .deadlock ∧ cause.category ≠ .consistency := Iff.rfl

/-- A computation that can fail only by failures of its own making. -/
def FailsAlone (outcome : Except Error β) : Prop := ∀ cause, outcome = .error cause → cause.IsOwn

section FailsAlone

@[simp] theorem throw_eq_error (cause : Error) :
    (throw cause : Except Error β) = .error cause := rfl

@[simp] theorem failsAlone_ok (result : β) : FailsAlone (.ok result) := by
  intro cause fails
  cases fails

@[simp] theorem failsAlone_error (cause : Error) :
    FailsAlone (.error cause : Except Error β) ↔ cause.IsOwn := by
  constructor
  · intro alone
    exact alone cause rfl
  · intro isOwn other fails
    cases fails
    exact isOwn

theorem FailsAlone.bind {first : Except Error β} {next : β → Except Error γ}
    (before : FailsAlone first) (after : ∀ found, FailsAlone (next found)) :
    FailsAlone (first >>= next) := by
  cases first with
  | error cause =>
      rw [error_bind, failsAlone_error]
      exact before cause rfl
  | ok found => exact after found

theorem FailsAlone.refusal {condition : Prop} [Decidable condition] {cause : Error}
    {otherwise : Except Error β} (isOwn : cause.IsOwn) (after : FailsAlone otherwise) :
    FailsAlone (if condition then .error cause else otherwise) := by
  split
  · rw [failsAlone_error]
    exact isOwn
  · exact after

theorem FailsAlone.mapM {step : β → Except Error γ} {items : List β}
    (each : ∀ item ∈ items, FailsAlone (step item)) : FailsAlone (items.mapM step) := by
  induction items with
  | nil => exact failsAlone_ok []
  | cons item rest inductionHypothesis =>
      rw [List.mapM_cons]
      apply (each item List.mem_cons_self).bind
      intro first
      apply (inductionHypothesis fun other isLater =>
        each other (List.mem_cons_of_mem item isLater)).bind
      intro later
      exact failsAlone_ok _

end FailsAlone

end FieldSurvey
