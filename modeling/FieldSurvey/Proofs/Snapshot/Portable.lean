import FieldSurvey.Snapshot
import FieldSurvey.Proofs.Mesh.Stored
import FieldSurvey.Proofs.Packed.Arrival

/-!
Which domains can travel in a snapshot. Their descriptions arrive unchanged or not at all: they
arrive exactly if the entries of every column can be read from bytes and no name passes for the mark
of an array.
-/

namespace FieldSurvey

/-- The entries of a field can be read from bytes, and a component with the name that marks an array
counts as false. -/
structure Field.IsPortable (field : Field) : Prop where
  readable : ∀ column ∈ field.columns, column.elementType.IsReadable
  unmarked : ∀ columns, field.values = .components columns →
    ∀ column, columns.find? arrayMark = some column → (Value.row column).isTrue = .ok false

/-- The entries of all columns can be read from bytes, and no part of the domain has the name that
marks an array. -/
structure Domain.IsPortable (domain : Domain) : Prop where
  coordsets : ∀ entry ∈ domain.coordsets, ∀ column ∈ entry.2.columns,
    column.elementType.IsReadable
  fields : ∀ entry ∈ domain.fields, entry.2.IsPortable
  coordsetNames : arrayMark ∉ domain.coordsets.names
  topologyNames : arrayMark ∉ domain.topologies.names
  fieldNames : arrayMark ∉ domain.fields.names

namespace Value

section Restoring

/-- A value that is not the name of an element type. -/
def NamesNoType (value : Value) : Prop := ∀ type, ElementType.ofValue value ≠ .ok type

theorem namesNoType_row (column : Column Value) : (row column).NamesNoType := by
  intro type read
  cases read

theorem namesNoType_map {first : Value × Value} {rest : List (Value × Value)} :
    (map (first :: rest)).NamesNoType := by
  intro type read
  obtain ⟨key, value⟩ := first
  obtain ⟨_, _, read⟩ := bind_eq_ok.mp read
  cases read

theorem restore_textual {entries : List (String × Value)}
    (typeless : ∀ entry ∈ entries, entry.2.NamesNoType) {restored : Value} :
    restore (textual entries) = .ok restored ↔
      restored = record entries ∧ IsUnmarked (textual entries) := by
  -- Even under the mark no array can be read: what stands under its type names none.
  have noArray : ∀ array, ofArrayForm (textual entries) ≠ .ok array := by
    intro array read
    obtain ⟨_, _, read⟩ := bind_eq_ok.mp read
    obtain ⟨type, found, read⟩ := bind_eq_ok.mp read
    obtain ⟨_, named, _⟩ := bind_eq_ok.mp read
    unfold item at found
    dsimp only at found
    rw [find?_textual] at found
    split at found
    · rename_i isFound
      cases found
      exact typeless _ (Registry.mem_of_find? isFound) _ named
    · cases found
  constructor
  · intro read
    unfold restore at read
    split at read
    · rename_i mark isMark
      obtain ⟨flag, isFlag, read⟩ := bind_eq_ok.mp read
      cases flag with
      | true => exact absurd read (noArray restored)
      | false =>
          cases read
          refine ⟨rfl, ?_⟩
          intro other isOther
          rw [isMark] at isOther
          cases isOther
          exact isFlag
    · rename_i isNone
      cases read
      refine ⟨rfl, ?_⟩
      intro mark isMark
      rw [isNone] at isMark
      cases isMark
  · rintro ⟨rfl, unmarked⟩
    exact restore_of_isUnmarked unmarked

theorem typeless_record_steady {entries : List (String × Value)}
    (distinct : (Registry.names entries).Nodup) (steady : ∀ entry ∈ entries, entry.2.IsSteady)
    (typeless : ∀ entry ∈ entries, entry.2.NamesNoType) :
    (record entries).IsSteady ∧
      ((record entries).Arrives ↔
        (∀ entry ∈ entries, entry.2.Arrives) ∧ IsUnmarked (textual entries)) := by
  constructor
  · intro arrived passes
    obtain ⟨_, restored⟩ := (record_transit_eq_ok distinct steady).mp passes
    exact ((restore_textual typeless).mp restored).1
  · unfold Arrives
    rw [record_transit_eq_ok distinct steady, restore_textual typeless]
    exact and_congr_right fun _ => and_iff_right rfl

end Restoring

end Value

section Sections

variable {β : Type} {registry : Registry β} {write : β → Value}

theorem names_written (write : β → Value) (registry : Registry β) :
    Registry.names (registry.map fun entry => (entry.1, write entry.2)) = registry.names := by
  unfold Registry.names
  rw [List.map_map]
  rfl

theorem isUnmarked_written (described : ∀ part, ∃ first rest, write part = .map (first :: rest)) :
    Value.IsUnmarked (Value.textual (registry.map fun entry => (entry.1, write entry.2))) ↔
      arrayMark ∉ registry.names := by
  constructor
  · intro unmarked isTaken
    obtain ⟨part, isFound⟩ := Registry.exists_find? isTaken
    have counts := unmarked (write part) (by
      rw [Value.find?_textual, Registry.find?_map, isFound]
      rfl)
    obtain ⟨first, rest, isMapping⟩ := described part
    rw [isMapping] at counts
    cases counts
  · intro notTaken
    apply Value.isUnmarked_of_not_mem
    rw [names_written]
    exact notTaken

theorem section_steady (write : β → Value) (distinct : registry.names.Nodup)
    (steady : ∀ entry ∈ registry, (write entry.2).IsSteady)
    (described : ∀ part, ∃ first rest, write part = .map (first :: rest)) :
    (Value.record (registry.map fun entry => (entry.1, write entry.2))).IsSteady ∧
      ((Value.record (registry.map fun entry => (entry.1, write entry.2))).Arrives ↔
        (∀ entry ∈ registry, (write entry.2).Arrives) ∧ arrayMark ∉ registry.names) := by
  rw [← isUnmarked_written described, ← List.forall_mem_map (f := fun entry : String × β =>
    (entry.1, write entry.2)) (P := fun entry : String × Value => entry.2.Arrives)]
  apply Value.typeless_record_steady
  · rw [names_written]
    exact distinct
  · rw [List.forall_mem_map]
    exact steady
  · rw [List.forall_mem_map]
    intro entry _
    obtain ⟨first, rest, isMapping⟩ := described entry.2
    rw [isMapping]
    exact Value.namesNoType_map

end Sections

section Parts

theorem rows_steady (columns : Registry (Column Value)) (distinct : columns.names.Nodup)
    (stored : ∀ entry ∈ columns, entry.2.IsStored) :
    (Value.record (columns.map fun entry => (entry.1, Value.row entry.2))).IsSteady ∧
      ((Value.record (columns.map fun entry => (entry.1, Value.row entry.2))).Arrives ↔
        (∀ entry ∈ columns, entry.2.elementType.IsReadable) ∧
          Value.IsUnmarked
            (Value.textual (columns.map fun entry => (entry.1, Value.row entry.2)))) := by
  have steady : ∀ entry ∈ columns.map fun entry => (entry.1, Value.row entry.2),
      entry.2.IsSteady := by
    rw [List.forall_mem_map]
    exact fun entry isEntry => (Value.row_steady (stored entry isEntry)).1
  have typeless : ∀ entry ∈ columns.map fun entry => (entry.1, Value.row entry.2),
      entry.2.NamesNoType := by
    rw [List.forall_mem_map]
    exact fun entry _ => Value.namesNoType_row entry.2
  have readable : (∀ entry ∈ columns.map fun entry => (entry.1, Value.row entry.2),
      entry.2.Arrives) ↔ ∀ entry ∈ columns, entry.2.elementType.IsReadable := by
    rw [List.forall_mem_map]
    exact forall₂_congr fun entry isEntry => (Value.row_steady (stored entry isEntry)).2
  rw [← readable]
  apply Value.typeless_record_steady _ steady typeless
  rw [names_written]
  exact distinct

theorem axes_steady {axes : Axes (Column Value)} (stored : ∀ column ∈ axes.toList, column.IsStored) :
    (Value.ofAxisColumns axes).IsSteady ∧
      ((Value.ofAxisColumns axes).Arrives ↔
        ∀ column ∈ axes.toList, column.elementType.IsReadable) := by
  have named (columns : Registry (Column Value)) (distinct : columns.names.Nodup)
      (notTaken : arrayMark ∉ columns.names)
      (stored : ∀ column ∈ columns.map Prod.snd, column.IsStored) :
      (Value.record (columns.map fun entry => (entry.1, Value.row entry.2))).IsSteady ∧
        ((Value.record (columns.map fun entry => (entry.1, Value.row entry.2))).Arrives ↔
          ∀ column ∈ columns.map Prod.snd, column.elementType.IsReadable) := by
    rw [List.forall_mem_map] at stored
    have rows := rows_steady columns distinct stored
    have unmarked : Value.IsUnmarked
        (Value.textual (columns.map fun entry => (entry.1, Value.row entry.2))) := by
      apply Value.isUnmarked_of_not_mem
      rw [names_written]
      exact notTaken
    rw [List.forall_mem_map]
    exact ⟨rows.1, rows.2.trans (and_iff_left unmarked)⟩
  match axes, stored with
  | ⟨x, y, none⟩, stored =>
      exact named [("x", x), ("y", y)] (by decide : ["x", "y"].Nodup)
        (by decide : arrayMark ∉ ["x", "y"]) stored
  | ⟨x, y, some z⟩, stored =>
      exact named [("x", x), ("y", y), ("z", z)] (by decide : ["x", "y", "z"].Nodup)
        (by decide : arrayMark ∉ ["x", "y", "z"]) stored

theorem coordset_steady {coordset : Coordset}
    (stored : ∀ column ∈ coordset.columns, column.IsStored) :
    coordset.toValue.IsSteady ∧
      (coordset.toValue.Arrives ↔
        ∀ column ∈ coordset.columns, column.elementType.IsReadable) := by
  have ofAxes (kind : String) {axes : Axes (Column Value)}
      (stored : ∀ column ∈ axes.toList, column.IsStored) :
      (Value.record [("type", .text kind), ("values", .ofAxisColumns axes)]).IsSteady ∧
        ((Value.record [("type", .text kind), ("values", .ofAxisColumns axes)]).Arrives ↔
          ∀ column ∈ axes.toList, column.elementType.IsReadable) := by
    have values := axes_steady stored
    have whole := Value.record_steady [("type", .text kind), ("values", .ofAxisColumns axes)]
      (by decide : ["type", "values"].Nodup) (by decide : arrayMark ∉ ["type", "values"]) (by
        rw [List.forall_mem_cons, List.forall_mem_singleton]
        exact ⟨(Value.text_arrives kind).isSteady, values.1⟩)
    rw [List.forall_mem_cons, List.forall_mem_singleton] at whole
    exact ⟨whole.1, whole.2.trans ((and_iff_right (Value.text_arrives kind)).trans values.2)⟩
  match coordset, stored with
  | .uniform ⟨i, j, none⟩ origin spacing, _ =>
      have arrives : (Coordset.toValue (.uniform ⟨i, j, none⟩ origin spacing)).Arrives := rfl
      exact ⟨arrives.isSteady, iff_of_true arrives (List.forall_mem_nil _)⟩
  | .uniform ⟨i, j, some k⟩ origin spacing, _ =>
      have arrives : (Coordset.toValue (.uniform ⟨i, j, some k⟩ origin spacing)).Arrives := rfl
      exact ⟨arrives.isSteady, iff_of_true arrives (List.forall_mem_nil _)⟩
  | .rectilinear axes, stored => exact ofAxes "rectilinear" stored
  | .explicit axes, stored => exact ofAxes "explicit" stored

theorem topology_arrives (topology : Topology) : topology.toValue.Arrives := by
  match topology with
  | ⟨_, .points⟩ => rfl
  | ⟨_, .uniform⟩ => rfl
  | ⟨_, .rectilinear⟩ => rfl
  | ⟨_, .structured ⟨_, _, none⟩⟩ => rfl
  | ⟨_, .structured ⟨_, _, some _⟩⟩ => rfl
  | ⟨coordset, .unstructured shape connectivity⟩ =>
      have row : (Value.row (.int .int64 connectivity)).Arrives :=
        (Value.row_steady (show Column.IsStored (.int .int64 connectivity) from trivial)).2.mpr
          trivial
      have elements := Value.record_steady
        [("shape", .text shape), ("connectivity", .row (.int .int64 connectivity))]
        (by decide : ["shape", "connectivity"].Nodup)
        (by decide : arrayMark ∉ ["shape", "connectivity"]) (by
          rw [List.forall_mem_cons, List.forall_mem_singleton]
          exact ⟨(Value.text_arrives shape).isSteady, row.isSteady⟩)
      rw [List.forall_mem_cons, List.forall_mem_singleton] at elements
      have elementsArrive := elements.2.mpr ⟨Value.text_arrives shape, row⟩
      have whole := Value.record_steady
        [("type", .text "unstructured"), ("coordset", .text coordset),
          ("elements", .record [("shape", .text shape),
            ("connectivity", .row (.int .int64 connectivity))])]
        (by decide : ["type", "coordset", "elements"].Nodup)
        (by decide : arrayMark ∉ ["type", "coordset", "elements"]) (by
          rw [List.forall_mem_cons, List.forall_mem_cons, List.forall_mem_singleton]
          exact ⟨(Value.text_arrives _).isSteady, (Value.text_arrives _).isSteady, elements.1⟩)
      rw [List.forall_mem_cons, List.forall_mem_cons, List.forall_mem_singleton] at whole
      exact whole.2.mpr ⟨Value.text_arrives _, Value.text_arrives _, elementsArrive⟩

theorem isUnmarked_rows (columns : Registry (Column Value)) :
    Value.IsUnmarked (Value.textual (columns.map fun entry => (entry.1, Value.row entry.2))) ↔
      ∀ column, columns.find? arrayMark = some column → (Value.row column).isTrue = .ok false := by
  unfold Value.IsUnmarked
  rw [Value.find?_textual, Registry.find?_map]
  constructor
  · intro unmarked column isFound
    exact unmarked (Value.row column) (by rw [isFound]; rfl)
  · intro unmarked mark isMark
    obtain ⟨column, isFound, rfl⟩ := Option.map_eq_some_iff.mp isMark
    exact unmarked column isFound

theorem values_steady {name : String} {field : Field} (named : field.IsNamed name)
    (stored : ∀ column ∈ field.columns, column.IsStored) :
    field.valuesToValue.IsSteady ∧ (field.valuesToValue.Arrives ↔ field.IsPortable) := by
  obtain ⟨own, association, topology, values⟩ := field
  cases values with
  | scalar column =>
      have row := Value.row_steady (stored column List.mem_cons_self)
      refine ⟨row.1, row.2.trans ?_⟩
      constructor
      · intro readable
        exact ⟨List.forall_mem_singleton.mpr readable, fun _ isComponents => by cases isComponents⟩
      · intro portable
        exact portable.1 column List.mem_cons_self
  | components columns =>
      have distinct := named.distinctComponents columns rfl
      have rows := rows_steady columns distinct (List.forall_mem_map.mp stored)
      refine ⟨rows.1, rows.2.trans ?_⟩
      rw [isUnmarked_rows]
      constructor
      · rintro ⟨readable, unmarked⟩
        refine ⟨List.forall_mem_map.mpr readable, ?_⟩
        intro own isComponents
        cases isComponents
        exact unmarked
      · rintro ⟨readable, unmarked⟩
        exact ⟨fun entry isEntry => readable entry.2 (List.mem_map_of_mem isEntry),
          unmarked columns rfl⟩

theorem field_steady {name : String} {field : Field} (named : field.IsNamed name)
    (stored : ∀ column ∈ field.columns, column.IsStored) :
    field.toValue.IsSteady ∧ (field.toValue.Arrives ↔ field.IsPortable) := by
  have values := values_steady named stored
  have whole := Value.record_steady [("association", .text field.association),
    ("topology", .text field.topology), ("values", field.valuesToValue)]
    (by decide : ["association", "topology", "values"].Nodup)
    (by decide : arrayMark ∉ ["association", "topology", "values"]) (by
      rw [List.forall_mem_cons, List.forall_mem_cons, List.forall_mem_singleton]
      exact ⟨(Value.text_arrives _).isSteady, (Value.text_arrives _).isSteady, values.1⟩)
  rw [List.forall_mem_cons, List.forall_mem_cons, List.forall_mem_singleton] at whole
  refine ⟨whole.1, whole.2.trans ?_⟩
  rw [and_iff_right (Value.text_arrives _), and_iff_right (Value.text_arrives _)]
  exact values.2

end Parts

/-- The description of a domain that has been read arrives unchanged or not at all, and it arrives
exactly if the domain is portable. -/
theorem domain_steady {domain : Domain} (loaded : domain.IsLoaded) (stored : domain.IsStored)
    (plain : (Value.map domain.state).IsPlain) :
    domain.toValue.IsSteady ∧ (domain.toValue.Arrives ↔ domain.IsPortable) := by
  have coordsets := section_steady Coordset.toValue loaded.distinctCoordsets
    (fun entry isEntry => (coordset_steady (stored.coordsets entry isEntry)).1)
    (fun coordset => by cases coordset <;> exact ⟨_, _, rfl⟩)
  have topologies := section_steady Topology.toValue loaded.distinctTopologies
    (fun entry _ => (topology_arrives entry.2).isSteady) (fun topology => ⟨_, _, rfl⟩)
  have fields := section_steady Field.toValue loaded.distinctFields
    (fun entry isEntry =>
      (field_steady (loaded.namedFields entry isEntry) (stored.fields entry isEntry)).1)
    (fun field => ⟨_, _, rfl⟩)
  have whole := Value.record_steady [("state", .map domain.state),
    ("coordsets", .record (domain.coordsets.map fun entry => (entry.1, entry.2.toValue))),
    ("topologies", .record (domain.topologies.map fun entry => (entry.1, entry.2.toValue))),
    ("fields", .record (domain.fields.map fun entry => (entry.1, entry.2.toValue)))]
    (by decide : ["state", "coordsets", "topologies", "fields"].Nodup)
    (by decide : arrayMark ∉ ["state", "coordsets", "topologies", "fields"]) (by
      rw [List.forall_mem_cons, List.forall_mem_cons, List.forall_mem_cons,
        List.forall_mem_singleton]
      exact ⟨plain.arrives.isSteady, coordsets.1, topologies.1, fields.1⟩)
  rw [List.forall_mem_cons, List.forall_mem_cons, List.forall_mem_cons,
    List.forall_mem_singleton] at whole
  refine ⟨whole.1, whole.2.trans ?_⟩
  rw [and_iff_right plain.arrives, coordsets.2, topologies.2, fields.2]
  constructor
  · rintro ⟨⟨coordsets, coordsetNames⟩, ⟨_, topologyNames⟩, fields, fieldNames⟩
    refine ⟨?_, ?_, coordsetNames, topologyNames, fieldNames⟩
    · exact fun entry isEntry =>
        (coordset_steady (stored.coordsets entry isEntry)).2.mp (coordsets entry isEntry)
    · exact fun entry isEntry =>
        (field_steady (loaded.namedFields entry isEntry) (stored.fields entry isEntry)).2.mp
          (fields entry isEntry)
  · intro portable
    refine ⟨⟨?_, portable.coordsetNames⟩, ⟨?_, portable.topologyNames⟩, ?_, portable.fieldNames⟩
    · exact fun entry isEntry =>
        (coordset_steady (stored.coordsets entry isEntry)).2.mpr (portable.coordsets entry isEntry)
    · exact fun entry _ => topology_arrives entry.2
    · exact fun entry isEntry =>
        (field_steady (loaded.namedFields entry isEntry) (stored.fields entry isEntry)).2.mpr
          (portable.fields entry isEntry)

end FieldSurvey
