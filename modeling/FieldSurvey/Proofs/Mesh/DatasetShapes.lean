import FieldSurvey.Mesh.Document
import FieldSurvey.Proofs.Outcome
import FieldSurvey.Proofs.Value.Named

/-!
The shapes in which a dataset may be given. A list of domains and a mapping of names to these domains
are read alike, one domain for each entry and in the same order, as long as no domain goes by the
name of a section of a domain. A mapping with such a name is taken for one domain by itself.
-/

namespace FieldSurvey

def Domain.sectionNames : List String := ["coordsets", "topologies", "fields", "state"]

namespace Dataset

theorem isDescription_texts {named : List (String × Value)} :
    Domain.isDescription (named.map Value.textEntry) = true ↔
      ∃ name ∈ Domain.sectionNames, name ∈ Registry.names named := by
  unfold Domain.isDescription
  rw [List.any_eq_true]
  simp only [find?_texts, Registry.isSome_find?_iff]
  rfl

/-- However a dataset is given, its domains are read one by one and in order: a mapping of other
names than those of sections like the list of what it maps them to, and a mapping with the name of a
section as one domain. -/
theorem ofValue_shapes :
    (∀ (payloads : List Value) (dataset : Dataset), ofValue (.list payloads) = .ok dataset ↔
      List.Forall₂ (fun payload domain => Domain.ofValue payload = .ok domain) payloads dataset) ∧
    (∀ named : List (String × Value), (Registry.names named).Nodup →
      (∀ name ∈ Registry.names named, name ∉ Domain.sectionNames) →
      ofValue (Value.mapOf (named.map Value.textEntry)) = ofValue (.list (named.map Prod.snd))) ∧
    ∀ entries : List (Value × Value),
      (∃ name ∈ Domain.sectionNames, (Value.find? name entries).isSome = true) →
      ofValue (.map entries) = (fun domain => [domain]) <$> Domain.ofValue (.map entries) := by
  refine ⟨fun payloads dataset => mapM_eq_ok, fun named distinct noSection => ?_,
    fun entries hasSection => ?_⟩
  · have isNamed : Value.mapOf (named.map Value.textEntry) = .map (named.map Value.textEntry) := by
      rw [mapOf_texts, Registry.ofEntries_of_nodup distinct]
      rfl
    have isNoDescription : ¬Domain.isDescription (named.map Value.textEntry) = true := by
      rw [isDescription_texts]
      rintro ⟨name, isSection, isName⟩
      exact noSection name isName isSection
    have described : descriptions (.map (named.map Value.textEntry)) =
        .ok (named.map Prod.snd) :=
      (if_neg isNoDescription).trans (congrArg Except.ok List.map_map)
    rw [isNamed, ofValue, described]
    rfl
  · have isDescription : Domain.isDescription entries = true := List.any_eq_true.mpr hasSection
    have described : descriptions (.map entries) = .ok [.map entries] := if_pos isDescription
    rw [ofValue, described, ok_bind, List.mapM_cons]
    cases Domain.ofValue (.map entries) <;> rfl

/-- A description of a domain that has nothing but a number. -/
def numbered (number : Int) : Value :=
  .record [("state", .record [("domain_id", .whole number)])]

/-- Two domains by their names, and one of them by itself. -/
theorem ofValue_shapes_of_two :
    ofValue (Value.mapOf ([("north", numbered 7), ("south", .map [])].map Value.textEntry)) =
        ofValue (.list [numbered 7, .map []]) ∧
      ofValue (numbered 7) = (fun domain => [domain]) <$> Domain.ofValue (numbered 7) :=
  ⟨ofValue_shapes.2.1 [("north", numbered 7), ("south", .map [])] (by decide) (by decide),
    ofValue_shapes.2.2 [(.text "state", .record [("domain_id", .whole 7)])]
      ⟨"state", by decide, rfl⟩⟩

/-- A domain that goes by the name of a section is not found, and a mapping with no section at all is
a domain but a dataset of none. -/
theorem section_name_hides_domain :
    ofValue (Value.mapOf ([("fields", numbered 7)].map Value.textEntry)) = .error .missingKey ∧
      (∃ domain, ofValue (.list [numbered 7]) = .ok [domain] ∧ domain.id = .ok 7) ∧
      (∃ domain, Domain.ofValue (.map []) = .ok domain) ∧ ofValue (.map []) = .ok [] :=
  ⟨rfl, ⟨_, rfl, rfl⟩, ⟨_, rfl⟩, rfl⟩

end Dataset

end FieldSurvey
