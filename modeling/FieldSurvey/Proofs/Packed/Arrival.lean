import FieldSurvey.Proofs.Packed.Columns
import FieldSurvey.Proofs.Packed.Transit
import FieldSurvey.Proofs.Registry

/-!
Which values arrive unchanged. A value is steady if whatever arrives is what was sent: it may fail
to arrive, but it cannot arrive as something else. A steady list or mapping arrives if all of its
parts do, and if the mapping does not pass for an array.
-/

namespace FieldSurvey

namespace Value

/-- The value arrives as it was sent. -/
def Arrives (value : Value) : Prop := value.transit = .ok value

/-- Whatever arrives is what was sent. -/
def IsSteady (value : Value) : Prop := ∀ arrived, value.transit = .ok arrived → arrived = value

def KeysDiffer (entries : List (Value × Value)) : Prop :=
  (entries.map Prod.fst).Pairwise fun earlier later => earlier.sameKey later = false

theorem Arrives.isSteady {value : Value} (arrives : value.Arrives) : value.IsSteady := by
  intro arrived passes
  rw [arrives] at passes
  cases passes
  rfl

section Scalars

theorem text_arrives (content : String) : (text content).Arrives := rfl

theorem whole_arrives (number : Int) : (whole number).Arrives := rfl

end Scalars

section Lists

theorem transitItems_eq_mapM (items : List Value) : transitItems items = items.mapM transit := by
  induction items with
  | nil => rfl
  | cons item rest inductionHypothesis =>
      rw [transitItems, List.mapM_cons, inductionHypothesis]

theorem list_transit_eq_ok {items : List Value} (steady : ∀ item ∈ items, item.IsSteady)
    {arrived : Value} :
    (list items).transit = .ok arrived ↔
      arrived = list items ∧ ∀ item ∈ items, item.Arrives := by
  rw [transit, transitItems_eq_mapM, bind_eq_ok]
  constructor
  · rintro ⟨found, passes, isList⟩
    cases isList
    obtain ⟨rfl, allArrive⟩ := (mapM_eq_ok_of_steady steady).mp passes
    exact ⟨rfl, allArrive⟩
  · rintro ⟨rfl, allArrive⟩
    exact ⟨items, (mapM_eq_ok_of_steady steady).mpr ⟨rfl, allArrive⟩, rfl⟩

theorem list_steady (items : List Value) (steady : ∀ item ∈ items, item.IsSteady) :
    (list items).IsSteady ∧ ((list items).Arrives ↔ ∀ item ∈ items, item.Arrives) := by
  constructor
  · exact fun arrived passes => ((list_transit_eq_ok steady).mp passes).1
  · exact (list_transit_eq_ok steady).trans (and_iff_right rfl)

end Lists

section Mappings

theorem setEntry_of_differs {key value : Value} {entries : List (Value × Value)}
    (differs : ∀ entry ∈ entries, entry.1.sameKey key = false) :
    setEntry key value entries = entries ++ [(key, value)] := by
  induction entries with
  | nil => rfl
  | cons entry rest inductionHypothesis =>
      have first := differs entry List.mem_cons_self
      have others := inductionHypothesis fun entry isEntry =>
        differs entry (List.mem_cons_of_mem _ isEntry)
      unfold setEntry
      rw [first, others]
      rfl

/-- Entries whose keys arrive and differ are set one behind the other. -/
theorem transitEntries_eq {entries built : List (Value × Value)}
    (keysArrive : ∀ entry ∈ entries, entry.1.Arrives ∧ entry.1.isKey = true)
    (differ : KeysDiffer (built ++ entries)) :
    transitEntries entries built = (do
      let arrived ← entries.mapM fun entry => do
        let value ← entry.2.transit
        return (entry.1, value)
      return built ++ arrived) := by
  induction entries generalizing built with
  | nil =>
      rw [transitEntries, List.mapM_nil]
      exact congrArg Except.ok (List.append_nil built).symm
  | cons entry rest inductionHypothesis =>
      obtain ⟨key, value⟩ := entry
      obtain ⟨keyArrives, isKey⟩ := keysArrive (key, value) List.mem_cons_self
      -- The next key differs from all that are built, so setting it replaces nothing.
      have differs : ∀ entry ∈ built, entry.1.sameKey key = false := by
        intro entry isEntry
        unfold KeysDiffer at differ
        rw [List.map_append, List.pairwise_append] at differ
        exact differ.2.2 entry.1 (List.mem_map_of_mem isEntry) key List.mem_cons_self
      rw [transitEntries, keyArrives, List.mapM_cons]
      cases value.transit with
      | error cause => rfl
      | ok arrived =>
          have stillDiffer : KeysDiffer ((built ++ [(key, arrived)]) ++ rest) := by
            unfold KeysDiffer at differ ⊢
            rw [List.append_assoc, List.map_append]
            rw [List.map_append] at differ
            exact differ
          have others := inductionHypothesis (fun entry isEntry =>
            keysArrive entry (List.mem_cons_of_mem _ isEntry)) stillDiffer
          simp only [ok_bind, if_pos isKey, setEntry_of_differs differs, others, pure_eq_ok]
          cases List.mapM (fun entry : Value × Value => do
            let value ← entry.2.transit
            Except.ok (entry.1, value)) rest with
          | error cause => rfl
          | ok later => exact congrArg Except.ok (List.append_assoc built [(key, arrived)] later)

theorem map_transit_eq_ok {entries : List (Value × Value)}
    (keysArrive : ∀ entry ∈ entries, entry.1.Arrives ∧ entry.1.isKey = true)
    (differ : KeysDiffer entries) (steady : ∀ entry ∈ entries, entry.2.IsSteady)
    {arrived : Value} :
    (map entries).transit = .ok arrived ↔
      (∀ entry ∈ entries, entry.2.Arrives) ∧ restore entries = .ok arrived := by
  have passesOne (entry : Value × Value) {result : Value × Value} :
      (do
        let value ← entry.2.transit
        return (entry.1, value)) = Except.ok result ↔
        result.1 = entry.1 ∧ entry.2.transit = .ok result.2 := by
    rw [bind_eq_ok]
    constructor
    · rintro ⟨value, passes, isResult⟩
      cases isResult
      exact ⟨rfl, passes⟩
    · rintro ⟨isSame, passes⟩
      exact ⟨result.2, passes, by rw [← isSame]; rfl⟩
  have passes {values : List (Value × Value)} :
      (entries.mapM fun entry => do
        let value ← entry.2.transit
        return (entry.1, value)) = Except.ok values ↔
        values = entries ∧ ∀ entry ∈ entries, entry.2.Arrives := by
    rw [mapM_eq_ok_of_steady]
    · simp only [passesOne, true_and]
      exact Iff.rfl
    · intro entry isEntry result passes
      obtain ⟨sameKey, passes⟩ := (passesOne entry).mp passes
      exact Prod.ext sameKey (steady entry isEntry _ passes)
  rw [transit, transitEntries_eq keysArrive (show KeysDiffer ([] ++ entries) from differ)]
  simp only [List.nil_append]
  constructor
  · intro reads
    obtain ⟨found, reads, restored⟩ := bind_eq_ok.mp reads
    obtain ⟨values, valuesPass, isFound⟩ := bind_eq_ok.mp reads
    cases isFound
    obtain ⟨rfl, allArrive⟩ := passes.mp valuesPass
    exact ⟨allArrive, restored⟩
  · rintro ⟨allArrive, restored⟩
    have valuesPass := passes.mpr ⟨rfl, allArrive⟩
    rw [valuesPass]
    exact restored

/-- What stands under the mark of arrays, if anything does, counts as false. -/
def IsUnmarked (entries : List (Value × Value)) : Prop :=
  ∀ mark, find? arrayMark entries = some mark → mark.isTrue = .ok false

theorem restore_of_isUnmarked {entries : List (Value × Value)} (unmarked : IsUnmarked entries) :
    restore entries = .ok (map entries) := by
  unfold restore
  split
  · rename_i mark isMark
    rw [unmarked mark isMark]
    rfl
  · rfl

end Mappings

section Records

def textual (entries : List (String × Value)) : List (Value × Value) :=
  entries.map fun entry => (text entry.1, entry.2)

theorem keysDiffer_textual {entries : List (String × Value)}
    (distinct : (Registry.names entries).Nodup) : KeysDiffer (textual entries) := by
  unfold KeysDiffer textual
  unfold Registry.names at distinct
  rw [List.map_map, List.pairwise_map]
  rw [List.nodup_iff_pairwise_ne, List.pairwise_map] at distinct
  refine distinct.imp ?_
  intro earlier later differ
  exact beq_eq_false_iff_ne.mpr differ

theorem find?_textual (name : String) (entries : List (String × Value)) :
    find? name (textual entries) = Registry.find? name entries := by
  induction entries with
  | nil => rfl
  | cons entry rest inductionHypothesis =>
      unfold find? Registry.find? textual at inductionHypothesis ⊢
      have asked : (text entry.1).sameKey (text name) = (name == entry.1) := Bool.beq_comm
      rw [List.map_cons, List.lookup_cons, List.find?_cons, asked]
      cases name == entry.1 with
      | false => exact inductionHypothesis
      | true => rfl

theorem isUnmarked_of_not_mem {entries : List (String × Value)}
    (notTaken : arrayMark ∉ Registry.names entries) : IsUnmarked (textual entries) := by
  intro mark isMark
  rw [find?_textual] at isMark
  exact absurd (List.mem_map_of_mem (Registry.mem_of_find? isMark)) notTaken

theorem record_transit_eq_ok {entries : List (String × Value)}
    (distinct : (Registry.names entries).Nodup) (steady : ∀ entry ∈ entries, entry.2.IsSteady)
    {arrived : Value} :
    (record entries).transit = .ok arrived ↔
      (∀ entry ∈ entries, entry.2.Arrives) ∧ restore (textual entries) = .ok arrived := by
  have keysArrive : ∀ entry ∈ textual entries, entry.1.Arrives ∧ entry.1.isKey = true := by
    intro entry isEntry
    obtain ⟨own, _, rfl⟩ := List.mem_map.mp isEntry
    exact ⟨text_arrives own.1, rfl⟩
  have valuesSteady : ∀ entry ∈ textual entries, entry.2.IsSteady := by
    intro entry isEntry
    obtain ⟨own, isOwn, rfl⟩ := List.mem_map.mp isEntry
    exact steady own isOwn
  refine (map_transit_eq_ok keysArrive (keysDiffer_textual distinct) valuesSteady).trans ?_
  refine and_congr_left' ?_
  unfold textual
  rw [List.forall_mem_map]

theorem record_steady (entries : List (String × Value)) (distinct : (Registry.names entries).Nodup)
    (notTaken : arrayMark ∉ Registry.names entries)
    (steady : ∀ entry ∈ entries, entry.2.IsSteady) :
    (record entries).IsSteady ∧
      ((record entries).Arrives ↔ ∀ entry ∈ entries, entry.2.Arrives) := by
  have restored := restore_of_isUnmarked (isUnmarked_of_not_mem notTaken)
  constructor
  · intro arrived passes
    obtain ⟨_, isRestored⟩ := (record_transit_eq_ok distinct steady).mp passes
    rw [restored] at isRestored
    cases isRestored
    rfl
  · unfold Arrives
    rw [record_transit_eq_ok distinct steady, restored]
    exact ⟨fun passes => passes.1, fun allArrive => ⟨allArrive, rfl⟩⟩

end Records

section Plain

/-- Values built from scalars, lists, mappings of different keys and some arrays, where no mapping
passes for an array. -/
inductive IsBuilt (admits : List Nat → Column Value → Prop) : Value → Prop
  | null : IsBuilt admits .null
  | truth (value : Bool) : IsBuilt admits (.truth value)
  | whole (number : Int) : IsBuilt admits (.whole number)
  | real (stored : Double) : IsBuilt admits (.real stored)
  | text (content : String) : IsBuilt admits (.text content)
  | bytes (content : Bytes) : IsBuilt admits (.bytes content)
  | list {items : List Value} (builtItems : ∀ item ∈ items, IsBuilt admits item) :
      IsBuilt admits (.list items)
  | map {entries : List (Value × Value)} (areKeys : ∀ entry ∈ entries, entry.1.isKey = true)
      (builtKeys : ∀ entry ∈ entries, IsBuilt admits entry.1)
      (builtValues : ∀ entry ∈ entries, IsBuilt admits entry.2) (differ : KeysDiffer entries)
      (unmarked : IsUnmarked entries) : IsBuilt admits (.map entries)
  | array {shape : List Nat} {column : Column Value} (admitted : admits shape column) :
      IsBuilt admits (.array shape column)

/-- Values without arrays and without numbers that have a type. -/
def IsPlain (value : Value) : Prop := value.IsBuilt fun _ _ => False

theorem IsBuilt.arrives {admits : List Nat → Column Value → Prop} {value : Value}
    (built : value.IsBuilt admits)
    (arraysArrive : ∀ shape column, admits shape column → (Value.array shape column).Arrives) :
    value.Arrives := by
  induction built with
  | null => rfl
  | truth value => rfl
  | whole number => rfl
  | real stored => rfl
  | text content => rfl
  | bytes content => rfl
  | list builtItems allArrive =>
      exact (list_transit_eq_ok fun item isItem => (allArrive item isItem).isSteady).mpr
        ⟨rfl, allArrive⟩
  | map areKeys builtKeys builtValues differ unmarked keysArrive valuesArrive =>
      have keys := fun entry isEntry => And.intro (keysArrive entry isEntry) (areKeys entry isEntry)
      have steady := fun entry isEntry => (valuesArrive entry isEntry).isSteady
      exact (map_transit_eq_ok keys differ steady).mpr
        ⟨valuesArrive, restore_of_isUnmarked unmarked⟩
  | array admitted => exact arraysArrive _ _ admitted

theorem IsPlain.arrives {value : Value} (plain : value.IsPlain) : value.Arrives :=
  IsBuilt.arrives plain fun _ _ admitted => admitted.elim

end Plain

section Rows

/-- A stored row of numbers or texts arrives exactly if entries of its type can be read. -/
theorem row_steady {column : Column Value} (stored : column.IsStored) :
    (row column).IsSteady ∧ ((row column).Arrives ↔ column.elementType.IsReadable) := by
  have marked : restore (arrayForm [column.size] column) =
      ofArrayForm (arrayForm [column.size] column) := rfl
  have transits : (row column).transit = ofArrayForm (arrayForm [column.size] column) := marked
  have comesBack (readable : column.elementType.IsReadable) :
      (row column).transit = .ok (row column) := by
    rw [transits]
    exact ofArrayForm_arrayForm (List.cons_ne_nil _ _) (show 1 ≤ axisLimit by decide)
      (Nat.one_mul _) stored readable
  constructor
  · intro arrived passes
    rw [transits] at passes
    rw [← transits, comesBack (isReadable_of_ofArrayForm passes)] at passes
    cases passes
    rfl
  · constructor
    · intro arrives
      unfold Arrives at arrives
      rw [transits] at arrives
      exact isReadable_of_ofArrayForm arrives
    · exact comesBack

end Rows

end Value

end FieldSurvey
