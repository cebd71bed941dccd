import FieldSurvey.Mesh.Selection

/-!
The share of a field that one process holds, reduced to what statistics look at: the entries in
each domain and how to tell where an entry lies. Statistics are defined on such shares over any type
of numbers.
-/

namespace FieldSurvey

/-- The part of a field in one domain. A field of several components has no entries of its own. -/
structure FieldPart (α : Type) where
  entries : Except Error (Entries α)
  locate : Nat → Except Error (Position α)
  domainId : Except Error Int

/-- The parts of a field in the domains of one process, in their order. The field's name is shown in
two ways that differ for a name that is no text: `name` in messages and `label` in log lines. -/
structure FieldShare (α : Type) where
  name : String
  label : String
  parts : Except Error (List (FieldPart α))

namespace FieldShare

variable {α β : Type}

/-- Goes through the entries of all parts from a start. -/
def foldEntries (step : β → FieldPart α → Entries α → Except Error β) (start : β)
    (share : FieldShare α) : Except Error β := do
  let parts ← share.parts
  parts.foldlM (fun state part => do step state part (← part.entries)) start

end FieldShare

def Domain.fieldPart (name : String) (domain : Domain) (field : Field) : FieldPart Float where
  entries := do
    let column ← field.scalarColumn
    return column.entries
  locate index := domain.locate name (.ok index)
  domainId := domain.id

def Dataset.fieldShare (wanted : Value) (dataset : Dataset) : FieldShare Float where
  name := wanted.putInto
  label := wanted.spelled
  parts := do
    let holders ← dataset.havingField wanted
    return holders.map fun (domain, field) => domain.fieldPart wanted.spelled field

end FieldSurvey
