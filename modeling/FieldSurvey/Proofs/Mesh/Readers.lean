import FieldSurvey.Mesh.Document
import FieldSurvey.Proofs.Outcome
import FieldSurvey.Proofs.Registry

/-!
What reading a description tells where it succeeds: from which parts of the description the parts of
a domain were read.
-/

namespace FieldSurvey

variable {value : Value}

theorem Value.itemOr_eq_ok {key : String} {default part : Value} :
    value.itemOr key default = .ok part ↔
      ∃ entries, value = .map entries ∧ (find? key entries).getD default = part := by
  cases value with
  | map entries =>
      constructor
      · intro read
        cases read
        exact ⟨entries, rfl, rfl⟩
      · rintro ⟨_, isMapping, rfl⟩
        cases isMapping
        rfl
  | _ =>
      constructor
      · intro read
        cases read
      · rintro ⟨_, other, _⟩
        cases other

theorem Value.toAxisColumns_parts {kind : CoordsetKind} {axes : Axes (Column Value)}
    (read : value.toAxisColumns kind = .ok axes) :
    ∀ column ∈ axes.toList, ∃ key part, value.item key = .ok part ∧ part.toColumn = .ok column := by
  unfold Value.toAxisColumns at read
  obtain ⟨hasFirst, _, read⟩ := bind_eq_ok.mp read
  split at read
  · cases read
  · obtain ⟨hasSecond, _, read⟩ := bind_eq_ok.mp read
    split at read
    · cases read
    · obtain ⟨hasThird, _, read⟩ := bind_eq_ok.mp read
      obtain ⟨first, foundFirst, read⟩ := bind_eq_ok.mp read
      obtain ⟨x, readFirst, read⟩ := bind_eq_ok.mp read
      obtain ⟨second, foundSecond, read⟩ := bind_eq_ok.mp read
      obtain ⟨y, readSecond, read⟩ := bind_eq_ok.mp read
      split at read
      · obtain ⟨third, foundThird, read⟩ := bind_eq_ok.mp read
        obtain ⟨z, readThird, read⟩ := bind_eq_ok.mp read
        cases read
        unfold Axes.toList Option.toList
        dsimp only
        rw [List.forall_mem_cons, List.forall_mem_cons, List.forall_mem_singleton]
        exact ⟨⟨"x", first, foundFirst, readFirst⟩, ⟨"y", second, foundSecond, readSecond⟩,
          ⟨"z", third, foundThird, readThird⟩⟩
      · cases read
        unfold Axes.toList Option.toList
        dsimp only
        rw [List.forall_mem_cons, List.forall_mem_singleton]
        exact ⟨⟨"x", first, foundFirst, readFirst⟩, ⟨"y", second, foundSecond, readSecond⟩⟩

theorem Coordset.ofValue_cases {coordset : Coordset} (read : Coordset.ofValue value = .ok coordset) :
    (∃ extents origin spacing, coordset = .uniform extents origin spacing) ∨
    (∃ values axes, value.item "values" = .ok values ∧
      values.toAxisColumns .rectilinear = .ok axes ∧ coordset = .rectilinear axes) ∨
    (∃ values axes, value.item "values" = .ok values ∧ values.toAxisColumns .explicit = .ok axes ∧
      (axes.toList.all fun axis => axis.size == axes.x.size) = true ∧
      coordset = .explicit axes) := by
  unfold Coordset.ofValue at read
  obtain ⟨kind, _, read⟩ := bind_eq_ok.mp read
  obtain ⟨isUniform, _, read⟩ := bind_eq_ok.mp read
  split at read
  · iterate 10 obtain ⟨_, _, read⟩ := bind_eq_ok.mp read
    cases read
    exact .inl ⟨_, _, _, rfl⟩
  · obtain ⟨isRectilinear, _, read⟩ := bind_eq_ok.mp read
    split at read
    · obtain ⟨values, foundValues, read⟩ := bind_eq_ok.mp read
      obtain ⟨axes, readAxes, read⟩ := bind_eq_ok.mp read
      cases read
      exact .inr (.inl ⟨values, axes, foundValues, readAxes, rfl⟩)
    · obtain ⟨isExplicit, _, read⟩ := bind_eq_ok.mp read
      split at read
      · obtain ⟨values, foundValues, read⟩ := bind_eq_ok.mp read
        obtain ⟨axes, readAxes, read⟩ := bind_eq_ok.mp read
        split at read
        · rename_i even
          cases read
          exact .inr (.inr ⟨values, axes, foundValues, readAxes, even, rfl⟩)
        · cases read
      · cases read

/-- Components stand in a mapping, each under its name; anything else is one column. -/
theorem Field.readValues_cases {values : FieldValues} (read : Field.readValues value = .ok values) :
    (∃ entries columns, value = .map entries ∧ values = .components columns ∧
      columns.names.Nodup ∧
      ∀ entry ∈ columns, ∃ own ∈ entries, own.2.toColumn = .ok entry.2) ∨
    (∃ column, value.toColumn = .ok column ∧ values = .scalar column) := by
  unfold Field.readValues at read
  split at read
  · rename_i entries
    obtain ⟨found, readsAll, read⟩ := bind_eq_ok.mp read
    cases read
    refine .inl ⟨entries, _, rfl, rfl, Registry.nodup_names_ofEntries found, ?_⟩
    apply Registry.forall_ofEntries fun _ column => ∃ own ∈ entries, own.2.toColumn = .ok column
    intro item isItem
    obtain ⟨own, isOwn, readsOwn⟩ := exists_of_mem_mapM readsAll isItem
    obtain ⟨column, readsColumn, isSame⟩ := bind_eq_ok.mp readsOwn
    cases isSame
    exact ⟨own, isOwn, readsColumn⟩
  · obtain ⟨column, readsColumn, read⟩ := bind_eq_ok.mp read
    cases read
    exact .inr ⟨column, readsColumn, rfl⟩

theorem Field.ofValue_parts {name : String} {field : Field}
    (read : Field.ofValue name value = .ok field) :
    field.name = name ∧
      ∃ item, value.item "values" = .ok item ∧ Field.readValues item = .ok field.values := by
  unfold Field.ofValue at read
  obtain ⟨item, foundItem, read⟩ := bind_eq_ok.mp read
  obtain ⟨values, readsValues, read⟩ := bind_eq_ok.mp read
  obtain ⟨association, _, read⟩ := bind_eq_ok.mp read
  obtain ⟨topology, _, read⟩ := bind_eq_ok.mp read
  cases read
  exact ⟨rfl, item, foundItem, readsValues⟩

namespace Domain

theorem readSection_parts {β : Type} {read : String → Value → Except Error β} {name : String}
    {registry : Registry β} (reads : readSection read name value = .ok registry) :
    ∃ entries, value.itemOr name (.map []) = .ok (.map entries) ∧ registry.names.Nodup ∧
      ∀ entry ∈ registry, ∃ own ∈ entries, read entry.1 own.2 = .ok entry.2 := by
  unfold readSection at reads
  obtain ⟨part, foundPart, reads⟩ := bind_eq_ok.mp reads
  obtain ⟨entries, isMapping, reads⟩ := bind_eq_ok.mp reads
  obtain ⟨found, readsAll, reads⟩ := bind_eq_ok.mp reads
  cases reads
  have isSection : part = .map entries := by
    cases part with
    | map own =>
        cases isMapping
        rfl
    | _ => cases isMapping
  refine ⟨entries, by rw [← isSection]; exact foundPart, Registry.nodup_names_ofEntries found, ?_⟩
  apply Registry.forall_ofEntries fun name result => ∃ own ∈ entries, read name own.2 = .ok result
  intro item isItem
  obtain ⟨own, isOwn, readsOwn⟩ := exists_of_mem_mapM readsAll isItem
  obtain ⟨result, readsResult, isSame⟩ := bind_eq_ok.mp readsOwn
  cases isSame
  exact ⟨own, isOwn, readsResult⟩

theorem ofValue_parts {domain : Domain} (read : Domain.ofValue value = .ok domain) :
    readSection (fun _ => Coordset.ofValue) "coordsets" value = .ok domain.coordsets ∧
      readSection (fun _ => Topology.ofValue) "topologies" value = .ok domain.topologies ∧
      readSection Field.ofValue "fields" value = .ok domain.fields := by
  unfold Domain.ofValue at read
  obtain ⟨coordsets, readsCoordsets, read⟩ := bind_eq_ok.mp read
  obtain ⟨topologies, readsTopologies, read⟩ := bind_eq_ok.mp read
  obtain ⟨fields, readsFields, read⟩ := bind_eq_ok.mp read
  obtain ⟨_, _, read⟩ := bind_eq_ok.mp read
  obtain ⟨state, _, read⟩ := bind_eq_ok.mp read
  cases read
  exact ⟨readsCoordsets, readsTopologies, readsFields⟩

end Domain

end FieldSurvey
