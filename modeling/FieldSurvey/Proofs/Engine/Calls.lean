import Mathlib.Data.List.Nodup
import Mathlib.Tactic.Push
import FieldSurvey.Engine.Call
import FieldSurvey.Proofs.Group.Exchange

/-!
Queries that are called by their names. The name of a query is itself a parameter of the call, and no
other argument can be given under the name of that parameter. This makes no difference to a query
that would refuse such an argument; it does to the one query that has a parameter of that name.
-/

namespace FieldSurvey

namespace Signature

variable {ω : Type} {signature : Signature} {arguments : Arguments ω}

/-- An argument by name is refused if there is no such parameter, or if that is given by position as
well. -/
theorem bind_of_misplaced {entry : String × ω} (isNamed : entry ∈ arguments.named)
    (misplaced : (entry.1 ∉ signature.positional ∧ entry.1 ∉ signature.named) ∨
      entry.1 ∈ (signature.positional.zip arguments.positional).map Prod.fst) :
    signature.bind arguments = .error .wrongType := by
  have notAccepted : (arguments.named.all fun entry =>
      (signature.positional.contains entry.1 || signature.named.contains entry.1) &&
        !(signature.positional.zip arguments.positional).any fun given => given.1 == entry.1) =
      false := by
    rw [List.all_eq_false]
    refine ⟨entry, isNamed, ?_⟩
    rcases misplaced with ⟨notByPosition, notByName⟩ | givenTwice
    · simp [notByPosition, notByName]
    · obtain ⟨given, isGiven, same⟩ := List.mem_map.mp givenTwice
      simp only [Bool.and_eq_true, Bool.not_eq_true', not_and, Bool.not_eq_false]
      exact fun _ => List.any_eq_true.mpr ⟨given, isGiven, beq_iff_eq.mpr same⟩
  unfold bind
  simp only [notAccepted]
  split <;> rfl

/-- Arguments are refused for no other reason than that they do not match the parameters. -/
theorem eq_wrongType_of_bind {cause : Error} (refused : signature.bind arguments = .error cause) :
    cause = .wrongType := by
  unfold bind at refused
  simp only at refused
  repeat' split at refused
  all_goals cases refused
  all_goals rfl

end Signature

namespace Query

theorem ofName?_name (query : Query) : ofName? query.name = some query := by
  cases query <;> decide

/-- Only one query has a parameter that is called as that of the query's name. -/
theorem not_takes_name {query : Query} (isOther : query ≠ .stateVariable) :
    "name" ∉ query.signature.positional ∧ "name" ∉ query.signature.named := by
  cases query <;> first | decide | exact absurd rfl isOther

theorem not_takes_self (query : Query) :
    "self" ∉ query.signature.positional ∧ "self" ∉ query.signature.named := by
  cases query <;> decide

/-- Arguments that give a state variable under the name that the query's own name goes by. -/
def NamesVariable (query : Query) (arguments : Arguments Answer) : Prop :=
  query = .stateVariable ∧ ∃ wanted, arguments = ⟨[], [("name", wanted)]⟩

end Query

namespace Engine

open ProcessGroup

variable {query : Query} {arguments : Arguments Answer}

/-- An argument by one of the names that a call keeps for itself. -/
def TakesReservedName (arguments : Arguments Answer) : Prop :=
  ∃ entry ∈ arguments.named, entry.1 = "name" ∨ entry.1 = "self"

theorem evaluate_eq_call (engine : Engine) (dataset : Dataset) (query : Query)
    (free : ¬TakesReservedName arguments) :
    engine.evaluate dataset (.text query.name) arguments = engine.call dataset query arguments := by
  have notReserved :
      (arguments.named.any fun entry => entry.1 == "name" || entry.1 == "self") = false := by
    rw [List.any_eq_false]
    intro entry isNamed isReserved
    exact free ⟨entry, isNamed, by simpa using isReserved⟩
  have isQuery : Query.ofValue? (.text query.name) = some query := query.ofName?_name
  unfold evaluate
  rw [notReserved, isQuery]
  rfl

theorem evaluate_of_reserved (engine : Engine) (dataset : Dataset) (name : Value)
    (reserved : TakesReservedName arguments) :
    engine.evaluate dataset name arguments = .fail .wrongType := by
  obtain ⟨entry, isNamed, isReserved⟩ := reserved
  have someReserved :
      (arguments.named.any fun entry => entry.1 == "name" || entry.1 == "self") = true :=
    List.any_eq_true.mpr ⟨entry, isNamed, by simpa using isReserved⟩
  unfold evaluate
  rw [someReserved]
  rfl

theorem eq_singleton_of_names {name : String} {named : List (String × Answer)}
    (distinct : (named.map Prod.fst).Nodup) (someNamed : named ≠ [])
    (sameName : ∀ entry ∈ named, entry.1 = name) : ∃ value, named = [(name, value)] := by
  obtain ⟨⟨first, value⟩, rest, rfl⟩ := List.exists_cons_of_ne_nil someNamed
  obtain rfl : first = name := sameName _ List.mem_cons_self
  cases rest with
  | nil => exact ⟨value, rfl⟩
  | cons second later =>
      have isTwice := sameName second (List.mem_cons_of_mem _ List.mem_cons_self)
      have isOnce := (List.nodup_cons.mp distinct).1
      exact (isOnce (isTwice ▸ List.mem_cons_self)).elim

/-- Something is misplaced if the state variable is asked for by name and by position as well, or by
name and beside an argument of another name. -/
theorem misplaced_for_variable {wanted : Answer} (distinct : (arguments.named.map Prod.fst).Nodup)
    (isNamed : ("name", wanted) ∈ arguments.named)
    (notAlone : ∀ wanted, arguments ≠ ⟨[], [("name", wanted)]⟩) :
    ∃ entry ∈ arguments.named, entry.1 ≠ "name" ∨
      entry.1 ∈ (Query.stateVariable.signature.positional.zip arguments.positional).map Prod.fst := by
  obtain ⟨positional, named⟩ := arguments
  cases positional with
  | cons first rest => exact ⟨_, isNamed, .inr List.mem_cons_self⟩
  | nil =>
      by_cases sameName : ∀ entry ∈ named, entry.1 = "name"
      · obtain ⟨only, rfl⟩ := eq_singleton_of_names distinct (List.ne_nil_of_mem isNamed) sameName
        exact (notAlone only rfl).elim
      · push Not at sameName
        obtain ⟨entry, isOther, unknown⟩ := sameName
        exact ⟨entry, isOther, .inl unknown⟩

/-- A query refuses an argument by one of these names, unless it is the one query that has such a
parameter and nothing else is given. -/
theorem misplaced_of_reserved (distinct : (arguments.named.map Prod.fst).Nodup)
    (reserved : TakesReservedName arguments) (notVariable : ¬query.NamesVariable arguments) :
    ∃ entry ∈ arguments.named,
      (entry.1 ∉ query.signature.positional ∧ entry.1 ∉ query.signature.named) ∨
        entry.1 ∈ (query.signature.positional.zip arguments.positional).map Prod.fst := by
  obtain ⟨⟨name, value⟩, isNamed, rfl | rfl⟩ := reserved
  · by_cases isVariable : query = .stateVariable
    · subst isVariable
      obtain ⟨entry, isGiven, unknown | givenTwice⟩ :=
        misplaced_for_variable distinct isNamed fun wanted alone => notVariable ⟨rfl, wanted, alone⟩
      · exact ⟨entry, isGiven, .inl ⟨by simpa [Query.signature] using unknown, nofun⟩⟩
      · exact ⟨entry, isGiven, .inr givenTwice⟩
    · exact ⟨_, isNamed, .inl (Query.not_takes_name isVariable)⟩
  · exact ⟨_, isNamed, .inl query.not_takes_self⟩

theorem call_of_reserved (engine : Engine) (dataset : Dataset)
    (distinct : (arguments.named.map Prod.fst).Nodup) (reserved : TakesReservedName arguments)
    (notVariable : ¬query.NamesVariable arguments) :
    engine.call dataset query arguments = .fail .wrongType := by
  obtain ⟨entry, isNamed, misplaced⟩ := misplaced_of_reserved distinct reserved notVariable
  unfold call
  rw [Signature.bind_of_misplaced isNamed misplaced]
  rfl

/-- A query that is called by its name runs as it does when it is called directly, unless it is the
state variable and that is all that is given, by name. Then the call by the query's name is refused,
so that a group ends alike exactly if the query is refused as well. -/
theorem evaluate_transparent_iff (distinct : (arguments.named.map Prod.fst).Nodup) :
    (¬query.NamesVariable arguments → ∀ (engine : Engine) (dataset : Dataset),
      engine.evaluate dataset (.text query.name) arguments =
        engine.call dataset query arguments) ∧
    ∀ (settings : Settings) (kind : GroupKind) (datasets : List Dataset),
      together kind (fun group dataset =>
          (Engine.mk group settings).evaluate dataset (.text query.name) arguments) datasets =
        together kind (fun group dataset =>
          (Engine.mk group settings).call dataset query arguments) datasets ↔
      (query.NamesVariable arguments →
        together kind (fun group dataset =>
          (Engine.mk group settings).call dataset query arguments) datasets =
        datasets.map fun _ => .error .wrongType) := by
  have alike (notVariable : ¬query.NamesVariable arguments) (engine : Engine) (dataset : Dataset) :
      engine.evaluate dataset (.text query.name) arguments =
        engine.call dataset query arguments := by
    by_cases reserved : TakesReservedName arguments
    · rw [evaluate_of_reserved engine dataset _ reserved,
        call_of_reserved engine dataset distinct reserved notVariable]
    · exact evaluate_eq_call engine dataset query reserved
  refine ⟨alike, fun settings kind datasets => ?_⟩
  by_cases namesVariable : query.NamesVariable arguments
  · have reserved : TakesReservedName arguments := by
      obtain ⟨_, wanted, rfl⟩ := namesVariable
      exact ⟨_, List.mem_cons_self, .inl rfl⟩
    have allRefused : together kind (fun group dataset =>
        (Engine.mk group settings).evaluate dataset (.text query.name) arguments) datasets =
          datasets.map fun _ => .error .wrongType := by
      simp only [evaluate_of_reserved _ _ _ reserved]
      exact outcomes_finish _
    rw [allRefused]
    exact ⟨fun same _ => same.symm, fun refused => (refused namesVariable).symm⟩
  · simp only [alike namesVariable]
    exact iff_of_true trivial fun isVariable => (namesVariable isVariable).elim

/-- The average of a field that is given by name. -/
theorem evaluate_transparent_for_average :
    (([("field", .value (.text "warmth"))] : List (String × Answer)).map Prod.fst).Nodup ∧
      (Engine.mk aloneGroup .default).evaluate [] (.text "avg")
          ⟨[], [("field", .value (.text "warmth"))]⟩ =
        (Engine.mk aloneGroup .default).call [] .average
          ⟨[], [("field", .value (.text "warmth"))]⟩ := by
  have distinct :
      (([("field", .value (.text "warmth"))] : List (String × Answer)).map Prod.fst).Nodup :=
    List.nodup_singleton "field"
  have notVariable :
      ¬Query.average.NamesVariable ⟨[], [("field", .value (.text "warmth"))]⟩ := by
    rintro ⟨isVariable, _⟩
    cases isVariable
  exact ⟨distinct, (evaluate_transparent_iff distinct).1 notVariable _ _⟩

/-- A state variable that is given by name is found when the query is called directly, and refused
when it is called by its name. -/
theorem state_variable_by_name_is_refused :
    together .alone (fun group dataset => (Engine.mk group .default).call dataset .stateVariable
        ⟨[], [("name", .value (.text "cycle"))]⟩) [[⟨[], [], [], [(.text "cycle", .whole 7)]⟩]] =
        [.ok (.value (.whole 7))] ∧
      together .alone (fun group dataset => (Engine.mk group .default).evaluate dataset
        (.text "get_state_var") ⟨[], [("name", .value (.text "cycle"))]⟩)
        [[⟨[], [], [], [(.text "cycle", .whole 7)]⟩]] = [.error .wrongType] :=
  ⟨rfl, rfl⟩

end Engine

end FieldSurvey
