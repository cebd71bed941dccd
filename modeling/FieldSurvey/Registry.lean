/-!
Named things in the order in which their names were first given.
-/

namespace FieldSurvey

abbrev Registry (β : Type) := List (String × β)

namespace Registry

variable {β γ : Type}

def find? (name : String) (registry : Registry β) : Option β := registry.lookup name

def has (name : String) (registry : Registry β) : Bool := (find? name registry).isSome

/-- Puts something under a name: an old name keeps its place, a new one goes last. -/
def put (name : String) (entry : β) : Registry β → Registry β
  | [] => [(name, entry)]
  | (other, old) :: rest =>
      if other == name then (other, entry) :: rest else (other, old) :: put name entry rest

/-- Removes a name; nothing happens if it is not taken. -/
def erase (name : String) (registry : Registry β) : Registry β :=
  registry.filter fun entry => entry.1 != name

def ofEntries (entries : List (String × β)) : Registry β :=
  entries.foldl (fun registry entry => registry.put entry.1 entry.2) []

def names (registry : Registry β) : List String := registry.map Prod.fst

@[simp] theorem find?_put_self (name : String) (entry : β) (registry : Registry β) :
    find? name (put name entry registry) = some entry := by
  induction registry with
  | nil => simp [put, find?]
  | cons head rest inductionHypothesis =>
      obtain ⟨other, old⟩ := head
      by_cases isSame : other = name
      · subst isSame; simp [put, find?]
      · have notSame : (name == other) = false := by simpa using fun same => isSame same.symm
        simpa [put, find?, isSame, List.lookup_cons, notSame] using inductionHypothesis

/-- Putting something under a name changes nothing under other names. -/
theorem find?_put_of_ne {name other : String} (isOther : other ≠ name) (entry : β)
    (registry : Registry β) :
    find? other (put name entry registry) = find? other registry := by
  induction registry with
  | nil =>
      have notSame : (other == name) = false := by simpa using isOther
      simp [put, find?, List.lookup_cons, notSame]
  | cons head rest inductionHypothesis =>
      obtain ⟨third, old⟩ := head
      by_cases isSame : third = name
      · subst isSame
        have notSame : (other == third) = false := by simpa using isOther
        simp [put, find?, List.lookup_cons, notSame]
      · simp only [find?] at inductionHypothesis
        simp [put, find?, isSame, List.lookup_cons, inductionHypothesis]

theorem names_put (name : String) (entry : β) (registry : Registry β) :
    names (put name entry registry) =
      if name ∈ names registry then names registry else names registry ++ [name] := by
  induction registry with
  | nil => simp [put, names]
  | cons head rest inductionHypothesis =>
      obtain ⟨other, old⟩ := head
      by_cases isSame : other = name
      · subst isSame; simp [put, names]
      · have isOther : name ≠ other := fun same => isSame same.symm
        simp only [names] at inductionHypothesis
        by_cases isTaken : name ∈ rest.map Prod.fst <;>
          simp_all [put, names]

end Registry

end FieldSurvey
