import FieldSurvey.Proofs.Mesh.Readers

/-!
Reading a domain back from its own description. Every part comes back as it was, but for what a
uniform grid in the plane has along the third axis: its description has no place for that, and
reading fills in the defaults.
-/

namespace FieldSurvey

/-- A coordinate set as it is read back from its description. -/
def Coordset.flattened : Coordset → Coordset
  | .uniform ⟨i, j, none⟩ origin spacing =>
      .uniform ⟨i, j, none⟩ { origin with z := .ofFloat 0.0 } { spacing with z := .ofFloat 1.0 }
  | other => other

/-- A domain as it is read back from its description. -/
def Domain.flattened (domain : Domain) : Domain :=
  { domain with coordsets := domain.coordsets.map fun entry => (entry.1, entry.2.flattened) }

def Coordset.IsEven : Coordset → Prop
  | .explicit axes => (axes.toList.all fun axis => axis.size == axes.x.size) = true
  | _ => True

structure Field.IsNamed (name : String) (field : Field) : Prop where
  sameName : field.name = name
  distinctComponents : ∀ columns, field.values = .components columns → columns.names.Nodup

structure Domain.IsLoaded (domain : Domain) : Prop where
  distinctCoordsets : domain.coordsets.names.Nodup
  distinctTopologies : domain.topologies.names.Nodup
  distinctFields : domain.fields.names.Nodup
  evenCoordsets : ∀ entry ∈ domain.coordsets, entry.2.IsEven
  namedFields : ∀ entry ∈ domain.fields, entry.2.IsNamed entry.1

section Loading

variable {value : Value}

theorem isEven_of_ofValue {coordset : Coordset} (read : Coordset.ofValue value = .ok coordset) :
    coordset.IsEven := by
  rcases Coordset.ofValue_cases read with
    ⟨_, _, _, rfl⟩ | ⟨_, _, _, _, rfl⟩ | ⟨_, _, _, _, even, rfl⟩
  · trivial
  · trivial
  · exact even

theorem isNamed_of_ofValue {name : String} {field : Field}
    (read : Field.ofValue name value = .ok field) : field.IsNamed name := by
  obtain ⟨sameName, item, _, readsValues⟩ := Field.ofValue_parts read
  refine ⟨sameName, ?_⟩
  intro columns isComponents
  rcases Field.readValues_cases readsValues with
    ⟨_, own, _, isOwn, distinct, _⟩ | ⟨_, _, isColumn⟩
  · rw [isOwn] at isComponents
    cases isComponents
    exact distinct
  · rw [isColumn] at isComponents
    cases isComponents

theorem isLoaded_of_ofValue {domain : Domain} (read : Domain.ofValue value = .ok domain) :
    domain.IsLoaded := by
  obtain ⟨readsCoordsets, readsTopologies, readsFields⟩ := Domain.ofValue_parts read
  obtain ⟨_, _, distinctCoordsets, areCoordsets⟩ := Domain.readSection_parts readsCoordsets
  obtain ⟨_, _, distinctTopologies, _⟩ := Domain.readSection_parts readsTopologies
  obtain ⟨_, _, distinctFields, areFields⟩ := Domain.readSection_parts readsFields
  refine ⟨distinctCoordsets, distinctTopologies, distinctFields, ?_, ?_⟩
  · intro entry isEntry
    obtain ⟨own, _, reads⟩ := areCoordsets entry isEntry
    exact isEven_of_ofValue reads
  · intro entry isEntry
    obtain ⟨own, _, reads⟩ := areFields entry isEntry
    exact isNamed_of_ofValue reads

end Loading

section Reloading

theorem coordset_ofValue_toValue {coordset : Coordset} (even : coordset.IsEven) :
    Coordset.ofValue coordset.toValue = .ok coordset.flattened := by
  match coordset, even with
  | .uniform ⟨_, _, none⟩ _ _, _ => rfl
  | .uniform ⟨_, _, some _⟩ _ _, _ => rfl
  | .rectilinear ⟨_, _, none⟩, _ => rfl
  | .rectilinear ⟨_, _, some _⟩, _ => rfl
  | .explicit ⟨_, _, none⟩, even => exact if_pos even
  | .explicit ⟨_, _, some _⟩, even => exact if_pos even

theorem topology_ofValue_toValue (topology : Topology) :
    Topology.ofValue topology.toValue = .ok topology := by
  match topology with
  | ⟨_, .points⟩ => rfl
  | ⟨_, .uniform⟩ => rfl
  | ⟨_, .rectilinear⟩ => rfl
  | ⟨_, .structured ⟨_, _, none⟩⟩ => rfl
  | ⟨_, .structured ⟨_, _, some _⟩⟩ => rfl
  | ⟨_, .unstructured _ _⟩ => rfl

theorem field_ofValue_toValue {name : String} {field : Field} (named : field.IsNamed name) :
    Field.ofValue name field.toValue = .ok field := by
  obtain ⟨own, association, topology, values⟩ := field
  obtain ⟨rfl, distinct⟩ := named
  cases values with
  | scalar column => rfl
  | components columns =>
      have reads : Field.readValues (.record (columns.map fun entry => (entry.1, .row entry.2))) =
          .ok (.components columns) := by
        unfold Value.record Field.readValues
        dsimp only
        rw [List.map_map, mapM_map_of_forall_ok fun entry => entry]
        · rw [List.map_id', ok_bind, Registry.ofEntries_of_nodup (distinct columns rfl)]
          rfl
        · exact fun entry _ => rfl
      have readsAll : Field.ofValue own (Field.toValue ⟨own, association, topology,
          .components columns⟩) = (do
            let values ← Field.readValues
              (.record (columns.map fun entry => (entry.1, .row entry.2)))
            return ⟨own, association, topology, values⟩) := rfl
      rw [readsAll, reads]
      rfl

theorem readSection_record {β : Type} {read : String → Value → Except Error β}
    {write : β → Value} (reread : β → β) {registry : Registry β} {name : String} {value : Value}
    (held : value.itemOr name (.map []) =
      .ok (.record (registry.map fun entry => (entry.1, write entry.2))))
    (distinct : registry.names.Nodup)
    (reads : ∀ entry ∈ registry, read entry.1 (write entry.2) = .ok (reread entry.2)) :
    Domain.readSection read name value =
      .ok (registry.map fun entry => (entry.1, reread entry.2)) := by
  have stillDistinct :
      (Registry.names (registry.map fun entry => (entry.1, reread entry.2))).Nodup := by
    unfold Registry.names
    rw [List.map_map]
    exact distinct
  unfold Domain.readSection
  rw [held, ok_bind]
  unfold Value.record Value.entries?
  dsimp only
  rw [ok_bind, List.map_map, mapM_map_of_forall_ok fun entry => (entry.1, reread entry.2)]
  · rw [ok_bind, Registry.ofEntries_of_nodup stillDistinct]
    rfl
  · intro entry isEntry
    change (do
      let result ← read entry.1 (write entry.2)
      return (entry.1, result)) = _
    rw [reads entry isEntry]
    rfl

/-- A domain that has been read comes back from its own description, its plane grids flattened. -/
theorem domain_ofValue_toValue {domain : Domain} (loaded : domain.IsLoaded) :
    Domain.ofValue domain.toValue = .ok domain.flattened := by
  have coordsets : Domain.readSection (fun _ => Coordset.ofValue) "coordsets" domain.toValue =
      .ok (domain.coordsets.map fun entry => (entry.1, entry.2.flattened)) :=
    readSection_record Coordset.flattened rfl loaded.distinctCoordsets
      fun entry isEntry => coordset_ofValue_toValue (loaded.evenCoordsets entry isEntry)
  have topologies : Domain.readSection (fun _ => Topology.ofValue) "topologies" domain.toValue =
      .ok domain.topologies :=
    (readSection_record id rfl loaded.distinctTopologies
      fun entry _ => topology_ofValue_toValue entry.2).trans (congrArg Except.ok (List.map_id _))
  have fields : Domain.readSection Field.ofValue "fields" domain.toValue = .ok domain.fields :=
    (readSection_record id rfl loaded.distinctFields
      fun entry isEntry => field_ofValue_toValue (loaded.namedFields entry isEntry)).trans
        (congrArg Except.ok (List.map_id _))
  unfold Domain.ofValue
  rw [coordsets, topologies, fields]
  rfl

end Reloading

end FieldSurvey
