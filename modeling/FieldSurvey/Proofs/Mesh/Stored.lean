import Mathlib.Data.List.DropRight
import Mathlib.Data.List.TakeWhile
import FieldSurvey.Proofs.Mesh.Reload
import FieldSurvey.Proofs.Packed.Columns

/-!
The columns of a domain that has been read are stored as their types say, if the arrays in the
description are. What is read from plain lists is cut to its type in any case.
-/

namespace FieldSurvey

/-- A value stands inside another: at its top, or inside an item, a value or a mixed entry of it. -/
inductive Value.Inside (part : Value) : Value → Prop
  | top : Inside part part
  | item {items : List Value} {item : Value} (isItem : item ∈ items) (inside : Inside part item) :
      Inside part (.list items)
  | value {entries : List (Value × Value)} {entry : Value × Value} (isEntry : entry ∈ entries)
      (inside : Inside part entry.2) : Inside part (.map entries)
  | mixed {shape : List Nat} {entries : List Value} {entry : Value} (isEntry : entry ∈ entries)
      (inside : Inside part entry) : Inside part (.array shape (.mixed entries))

/-- Every array inside a value is stored as its type says. -/
def Value.HasStoredArrays (value : Value) : Prop :=
  ∀ shape column, Value.Inside (.array shape column) value → column.IsStored

def Field.columns (field : Field) : List (Column Value) :=
  match field.values with
  | .scalar column => [column]
  | .components columns => columns.map Prod.snd

/-- The columns of a domain are stored as their types say. -/
structure Domain.IsStored (domain : Domain) : Prop where
  coordsets : ∀ entry ∈ domain.coordsets, ∀ column ∈ entry.2.columns, column.IsStored
  fields : ∀ entry ∈ domain.fields, ∀ column ∈ entry.2.columns, column.IsStored

section Cutting

theorem dropTrailingNullBytes_idem (content : Bytes) :
    dropTrailingNullBytes (dropTrailingNullBytes content) = dropTrailingNullBytes content := by
  unfold dropTrailingNullBytes
  rw [List.reverse_reverse, List.dropWhile_idempotent]

theorem dropTrailingNulls_idem (content : String) :
    dropTrailingNulls (dropTrailingNulls content) = dropTrailingNulls content := by
  unfold dropTrailingNulls
  rw [String.toList_ofList, List.reverse_reverse, List.dropWhile_idempotent]

theorem length_dropTrailingNullBytes_le (content : Bytes) :
    (dropTrailingNullBytes content).length ≤ content.length := by
  unfold dropTrailingNullBytes
  have shorter := List.length_dropWhile_le (· == 0) content.reverse
  rw [List.length_reverse] at shorter ⊢
  exact shorter

theorem length_dropTrailingNulls_le (content : String) :
    (dropTrailingNulls content).toList.length ≤ content.toList.length := by
  unfold dropTrailingNulls
  have shorter := List.length_dropWhile_le (fun character : Char => character.toNat == 0)
    content.toList.reverse
  rw [String.toList_ofList, List.length_reverse]
  rw [List.length_reverse] at shorter
  exact shorter

theorem isStored_of_columnOf {type : ElementType} {scalars : List Value} {column : Column Value}
    (read : Value.columnOf type scalars = .ok column) : column.IsStored := by
  cases type with
  | truth =>
      cases read
      trivial
  | int type =>
      obtain ⟨_, _, read⟩ := bind_eq_ok.mp read
      cases read
      trivial
  | float width =>
      obtain ⟨_, _, read⟩ := bind_eq_ok.mp read
      cases read
      trivial
  | complex width =>
      obtain ⟨_, _, read⟩ := bind_eq_ok.mp read
      cases read
      trivial
  | text length =>
      obtain ⟨entries, _, read⟩ := bind_eq_ok.mp read
      cases read
      intro content isEntry
      obtain ⟨own, _, rfl⟩ := List.mem_map.mp isEntry
      refine ⟨?_, dropTrailingNulls_idem _⟩
      apply Nat.le_trans (length_dropTrailingNulls_le _)
      rw [String.toList_ofList]
      exact List.length_take_le _ _
  | bytes length =>
      obtain ⟨entries, _, read⟩ := bind_eq_ok.mp read
      cases read
      intro content isEntry
      obtain ⟨own, _, rfl⟩ := List.mem_map.mp isEntry
      refine ⟨?_, dropTrailingNullBytes_idem _⟩
      exact Nat.le_trans (length_dropTrailingNullBytes_le _) (List.length_take_le _ _)
  | mixed =>
      cases read
      trivial

end Cutting

section Reading

variable {value part : Value}

theorem hasStoredArrays_of_mem {entries : List (Value × Value)} {entry : Value × Value}
    (stored : (Value.map entries).HasStoredArrays) (isEntry : entry ∈ entries) :
    entry.2.HasStoredArrays :=
  fun shape column inside => stored shape column (.value isEntry inside)

theorem hasStoredArrays_of_find? {key : String} {entries : List (Value × Value)}
    (stored : (Value.map entries).HasStoredArrays) (found : Value.find? key entries = some part) :
    part.HasStoredArrays := by
  obtain ⟨entry, isFound, rfl⟩ := Option.map_eq_some_iff.mp found
  exact hasStoredArrays_of_mem stored (List.mem_of_find?_eq_some isFound)

theorem hasStoredArrays_of_item {key : String} (stored : value.HasStoredArrays)
    (read : value.item key = .ok part) : part.HasStoredArrays := by
  unfold Value.item at read
  split at read
  · split at read
    · rename_i found
      cases read
      exact hasStoredArrays_of_find? stored found
    · cases read
  · cases read
  · cases read
  · cases read

theorem hasStoredArrays_map {entries : List (Value × Value)}
    (each : ∀ entry ∈ entries, entry.2.HasStoredArrays) : (Value.map entries).HasStoredArrays := by
  intro shape column inside
  cases inside with
  | value isEntry inside => exact each _ isEntry shape column inside

@[simp]
theorem hasStoredArrays_record {entries : List (String × Value)} :
    (Value.record entries).HasStoredArrays ↔ ∀ entry ∈ entries, entry.2.HasStoredArrays := by
  constructor
  · intro stored entry isEntry
    exact hasStoredArrays_of_mem stored
      (List.mem_map_of_mem (f := fun entry => (Value.text entry.1, entry.2)) isEntry)
  · intro each
    exact hasStoredArrays_map (List.forall_mem_map.mpr each)

@[simp]
theorem hasStoredArrays_text (content : String) : (Value.text content).HasStoredArrays :=
  fun _ _ inside => by cases inside

@[simp]
theorem hasStoredArrays_whole (number : Int) : (Value.whole number).HasStoredArrays :=
  fun _ _ inside => by cases inside

@[simp]
theorem hasStoredArrays_ofFloat (number : Float) : (Value.ofFloat number).HasStoredArrays :=
  fun _ _ inside => by cases inside

@[simp]
theorem hasStoredArrays_int (shape : List Nat) (type : IntType) (entries : List (BitVec type.bits)) :
    (Value.array shape (.int type entries)).HasStoredArrays := by
  intro other column inside
  cases inside
  trivial

theorem hasStoredArrays_of_itemOr {key : String} (stored : value.HasStoredArrays)
    (read : value.itemOr key (.map []) = .ok part) : part.HasStoredArrays := by
  obtain ⟨entries, rfl, rfl⟩ := Value.itemOr_eq_ok.mp read
  cases found : Value.find? key entries with
  | none => exact hasStoredArrays_map (List.forall_mem_nil _)
  | some part => exact hasStoredArrays_of_find? stored found

theorem isStored_of_toColumn {column : Column Value} (stored : value.HasStoredArrays)
    (read : value.toColumn = .ok column) : column.IsStored := by
  obtain ⟨⟨shape, found⟩, read, isFound⟩ := bind_eq_ok.mp read
  cases isFound
  unfold Value.toArray at read
  split at read
  · cases read
    exact stored shape column .top
  · obtain ⟨own, _, read⟩ := bind_eq_ok.mp read
    by_cases large : Value.axisLimit < own.length
    · rw [if_pos large] at read
      cases read
    · rw [if_neg large] at read
      obtain ⟨_, made, read⟩ := bind_eq_ok.mp read
      cases read
      exact isStored_of_columnOf made

theorem isStored_of_toAxisColumns {kind : CoordsetKind} {axes : Axes (Column Value)}
    (stored : value.HasStoredArrays) (read : value.toAxisColumns kind = .ok axes) :
    ∀ column ∈ axes.toList, column.IsStored := by
  intro column isAxis
  obtain ⟨key, part, found, readsColumn⟩ := Value.toAxisColumns_parts read column isAxis
  exact isStored_of_toColumn (hasStoredArrays_of_item stored found) readsColumn

theorem isStored_of_coordset {coordset : Coordset} (stored : value.HasStoredArrays)
    (read : Coordset.ofValue value = .ok coordset) :
    ∀ column ∈ coordset.columns, column.IsStored := by
  rcases Coordset.ofValue_cases read with
    ⟨_, _, _, rfl⟩ | ⟨values, axes, found, readsAxes, rfl⟩ | ⟨values, axes, found, readsAxes, _, rfl⟩
  · exact List.forall_mem_nil _
  · exact isStored_of_toAxisColumns (hasStoredArrays_of_item stored found) readsAxes
  · exact isStored_of_toAxisColumns (hasStoredArrays_of_item stored found) readsAxes

theorem isStored_of_field {name : String} {field : Field} (stored : value.HasStoredArrays)
    (read : Field.ofValue name value = .ok field) : ∀ column ∈ field.columns, column.IsStored := by
  obtain ⟨_, item, foundItem, readsValues⟩ := Field.ofValue_parts read
  have storedItem := hasStoredArrays_of_item stored foundItem
  unfold Field.columns
  rcases Field.readValues_cases readsValues with
    ⟨entries, columns, rfl, isComponents, _, areColumns⟩ | ⟨column, readsColumn, isColumn⟩
  · rw [isComponents]
    dsimp only
    rw [List.forall_mem_map]
    intro entry isEntry
    obtain ⟨own, isOwn, readsColumn⟩ := areColumns entry isEntry
    exact isStored_of_toColumn (hasStoredArrays_of_mem storedItem isOwn) readsColumn
  · rw [isColumn]
    exact List.forall_mem_singleton.mpr (isStored_of_toColumn storedItem readsColumn)

theorem forall_readSection {β : Type} {read : String → Value → Except Error β} {name : String}
    {registry : Registry β} (holds : β → Prop) (stored : value.HasStoredArrays)
    (reads : Domain.readSection read name value = .ok registry)
    (each : ∀ {name part found}, Value.HasStoredArrays part → read name part = .ok found →
      holds found) :
    ∀ entry ∈ registry, holds entry.2 := by
  obtain ⟨entries, found, _, areRead⟩ := Domain.readSection_parts reads
  intro entry isEntry
  obtain ⟨own, isOwn, readsEntry⟩ := areRead entry isEntry
  exact each (hasStoredArrays_of_mem (hasStoredArrays_of_itemOr stored found) isOwn) readsEntry

theorem isStored_of_domain {domain : Domain} (stored : value.HasStoredArrays)
    (read : Domain.ofValue value = .ok domain) : domain.IsStored := by
  obtain ⟨readsCoordsets, _, readsFields⟩ := Domain.ofValue_parts read
  exact ⟨forall_readSection _ stored readsCoordsets isStored_of_coordset,
    forall_readSection _ stored readsFields isStored_of_field⟩

theorem isMapping_of_domain {domain : Domain} (read : Domain.ofValue value = .ok domain) :
    ∃ entries, value = .map entries := by
  obtain ⟨readsCoordsets, _⟩ := Domain.ofValue_parts read
  obtain ⟨_, found, _⟩ := Domain.readSection_parts readsCoordsets
  obtain ⟨entries, isMapping, _⟩ := Value.itemOr_eq_ok.mp found
  exact ⟨entries, isMapping⟩

theorem hasStoredArrays_of_values {shape : List Nat} {column : Column Value}
    {entries : List (Value × Value)} (stored : (Value.array shape column).HasStoredArrays)
    (isEntry : Value.map entries ∈ column.values) : (Value.map entries).HasStoredArrays := by
  cases column with
  | mixed own => exact fun shape column inside => stored shape column (.mixed isEntry inside)
  | _ =>
      obtain ⟨_, _, other⟩ := List.mem_map.mp isEntry
      cases other

theorem hasStoredArrays_of_items? {items : List Value} {entries : List (Value × Value)}
    (stored : value.HasStoredArrays) (noMapping : ∀ own, value ≠ .map own)
    (listed : value.items? = .ok items) (isItem : Value.map entries ∈ items) :
    (Value.map entries).HasStoredArrays := by
  match value with
  | .list own =>
      cases listed
      exact fun shape column inside => stored shape column (.item isItem inside)
  | .map own => exact absurd rfl (noMapping own)
  | .array [_] column =>
      cases listed
      exact hasStoredArrays_of_values stored isItem
  | .array (_ :: _ :: _) _ | .text _ | .bytes _ =>
      cases listed
      obtain ⟨_, _, other⟩ := List.mem_map.mp isItem
      cases other

theorem isStored_of_dataset {dataset : Dataset} (stored : value.HasStoredArrays)
    (read : Dataset.ofValue value = .ok dataset) : ∀ domain ∈ dataset, domain.IsStored := by
  intro domain isDomain
  obtain ⟨parts, described, reads⟩ := bind_eq_ok.mp read
  obtain ⟨part, isPart, readsPart⟩ := exists_of_mem_mapM reads isDomain
  obtain ⟨entries, rfl⟩ := isMapping_of_domain readsPart
  apply isStored_of_domain _ readsPart
  unfold Dataset.descriptions at described
  split at described
  · split at described
    · cases described
      rw [List.mem_singleton.mp isPart]
      exact stored
    · cases described
      obtain ⟨entry, isEntry, same⟩ := List.mem_map.mp isPart
      rw [← same]
      exact hasStoredArrays_of_mem stored isEntry
  · rename_i noMapping
    exact hasStoredArrays_of_items? stored noMapping described isPart

end Reading

end FieldSurvey
