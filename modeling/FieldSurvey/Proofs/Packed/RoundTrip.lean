import FieldSurvey.Proofs.Packed.Arrival
import FieldSurvey.Proofs.Packed.Limits

/-!
Data that is packed and read again: truth values, numbers, texts, byte strings, lists, mappings and
arrays of numbers, within each other in any way. Such data can be packed exactly if its numbers and
sizes have a packed form and it is not nested too deep, and what is read from the bytes is the data
itself.
-/

namespace FieldSurvey

/-- Truth values and numbers; no code stands for complex numbers of half words. -/
def ElementType.IsNumeric : ElementType → Prop
  | truth | int _ | float _ => True
  | complex width => width ≠ .half
  | _ => False

theorem ElementType.IsNumeric.isReadable {type : ElementType} (numeric : type.IsNumeric) :
    type.IsReadable := by
  cases type with
  | complex width => exact numeric
  | truth | int _ | float _ => trivial
  | text _ | bytes _ | mixed => exact numeric.elim

theorem ElementType.IsNumeric.code_fits {type : ElementType} (numeric : type.IsNumeric) :
    type.code.toUTF8.size < 2 ^ 32 := by
  cases type with
  | truth => decide
  | int type => cases type <;> decide
  | float width => cases width <;> decide
  | complex width => cases width <;> decide
  | text _ | bytes _ | mixed => exact numeric.elim

theorem Column.isStored_of_isNumeric {column : Column Value}
    (numeric : column.elementType.IsNumeric) : column.IsStored := by
  cases column with
  | truth _ | int _ _ | float _ _ | complex _ _ | mixed _ => trivial
  | text _ _ | bytes _ _ => exact numeric.elim

namespace Value

/-- An array of truth values or numbers with at least one axis. Axes may have length 0. -/
structure IsNumericArray (shape : List Nat) (column : Column Value) : Prop where
  hasAxes : shape ≠ []
  fewAxes : shape.length ≤ axisLimit
  counts : shape.foldl (· * ·) 1 = column.size
  numeric : column.elementType.IsNumeric

/-- Truth values, numbers, texts, byte strings, arrays of numbers, and lists and mappings of data,
where the keys of a mapping differ and it does not pass for an array. -/
def IsData (value : Value) : Prop := value.IsBuilt IsNumericArray

mutual

/-- How many levels a value is packed in. An array is packed as a mapping with the list of its axes,
so it takes three. -/
def nesting : Value → Nat
  | .list items => 1 + itemsNesting items
  | .map entries => 1 + entriesNesting entries
  | .array _ _ => 3
  | _ => 1

def itemsNesting : List Value → Nat
  | [] => 0
  | item :: rest => max item.nesting (itemsNesting rest)

def entriesNesting : List (Value × Value) → Nat
  | [] => 0
  | (key, value) :: rest => max (max key.nesting value.nesting) (entriesNesting rest)

end

mutual

/-- All numbers and sizes within a value are small enough to be packed. -/
def HasRoom : Value → Prop
  | .list items => items.length < 2 ^ 32 ∧ ItemsHaveRoom items
  | .map entries => entries.length < 2 ^ 32 ∧ EntriesHaveRoom entries
  | .array shape column =>
      (∀ length ∈ shape, length < 2 ^ 64) ∧ column.elementType.byteCount * column.size < 2 ^ 32
  | value => value.ScalarFits

def ItemsHaveRoom : List Value → Prop
  | [] => True
  | item :: rest => item.HasRoom ∧ ItemsHaveRoom rest

def EntriesHaveRoom : List (Value × Value) → Prop
  | [] => True
  | (key, value) :: rest => (key.HasRoom ∧ value.HasRoom) ∧ EntriesHaveRoom rest

end

section Parts

theorem itemsNesting_le_iff {items : List Value} {depth : Nat} :
    itemsNesting items ≤ depth ↔ ∀ item ∈ items, item.nesting ≤ depth := by
  induction items with
  | nil => simp [itemsNesting]
  | cons item rest inductionHypothesis =>
      rw [itemsNesting, Nat.max_le, inductionHypothesis, List.forall_mem_cons]

theorem entriesNesting_le_iff {entries : List (Value × Value)} {depth : Nat} :
    entriesNesting entries ≤ depth ↔
      ∀ entry ∈ entries, entry.1.nesting ≤ depth ∧ entry.2.nesting ≤ depth := by
  induction entries with
  | nil => simp [entriesNesting]
  | cons entry rest inductionHypothesis =>
      rw [entriesNesting, Nat.max_le, Nat.max_le, inductionHypothesis, List.forall_mem_cons]

theorem itemsHaveRoom_iff {items : List Value} :
    ItemsHaveRoom items ↔ ∀ item ∈ items, item.HasRoom := by
  induction items with
  | nil => simp [ItemsHaveRoom]
  | cons item rest inductionHypothesis =>
      rw [ItemsHaveRoom, inductionHypothesis, List.forall_mem_cons]

theorem entriesHaveRoom_iff {entries : List (Value × Value)} :
    EntriesHaveRoom entries ↔ ∀ entry ∈ entries, entry.1.HasRoom ∧ entry.2.HasRoom := by
  induction entries with
  | nil => simp [EntriesHaveRoom]
  | cons entry rest inductionHypothesis =>
      rw [EntriesHaveRoom, inductionHypothesis, List.forall_mem_cons]

/-- The value fits within a depth exactly if it has room and takes no more levels. -/
def FitsByLevels (value : Value) : Prop :=
  ∀ depth, value.Fits depth ↔ value.HasRoom ∧ value.nesting ≤ depth

theorem scalar_fitsByLevels {value : Value} (oneLevel : value.nesting = 1)
    (fits : ∀ depth, value.Fits (depth + 1) ↔ value.HasRoom) : value.FitsByLevels := by
  intro depth
  rw [oneLevel]
  cases depth with
  | zero => exact ⟨False.elim, fun room => absurd room.2 (by decide)⟩
  | succ depth =>
      rw [fits]
      exact (and_iff_left (Nat.le_add_left 1 depth)).symm

theorem list_fitsByLevels {items : List Value} (each : ∀ item ∈ items, item.FitsByLevels) :
    (list items).FitsByLevels := by
  intro depth
  cases depth with
  | zero => exact ⟨False.elim, fun room => absurd room.2 (by rw [nesting]; omega)⟩
  | succ depth =>
      have inList : (list items).Fits (depth + 1) ↔
          items.length < 2 ^ 32 ∧ ∀ item ∈ items, item.Fits depth := Iff.rfl
      rw [inList, HasRoom, nesting, Nat.add_comm 1, Nat.add_le_add_iff_right, itemsHaveRoom_iff,
        itemsNesting_le_iff, and_assoc, ← forall₂_and]
      exact and_congr_right fun _ => forall₂_congr fun item isItem => each item isItem depth

theorem map_fitsByLevels {entries : List (Value × Value)}
    (each : ∀ entry ∈ entries, entry.1.FitsByLevels ∧ entry.2.FitsByLevels) :
    (map entries).FitsByLevels := by
  intro depth
  cases depth with
  | zero => exact ⟨False.elim, fun room => absurd room.2 (by rw [nesting]; omega)⟩
  | succ depth =>
      have inMap : (map entries).Fits (depth + 1) ↔
          entries.length < 2 ^ 32 ∧
            ∀ entry ∈ entries, entry.1.Fits depth ∧ entry.2.Fits depth := Iff.rfl
      rw [inMap, HasRoom, nesting, Nat.add_comm 1, Nat.add_le_add_iff_right, entriesHaveRoom_iff,
        entriesNesting_le_iff, and_assoc, ← forall₂_and]
      refine and_congr_right fun _ => forall₂_congr fun entry isEntry => ?_
      rw [(each entry isEntry).1 depth, (each entry isEntry).2 depth]
      exact and_and_and_comm

end Parts

section Arrays

variable {shape : List Nat} {column : Column Value}

theorem IsNumericArray.arrives (numeric : IsNumericArray shape column) :
    (array shape column).Arrives :=
  ofArrayForm_arrayForm numeric.hasAxes numeric.fewAxes numeric.counts
    (Column.isStored_of_isNumeric numeric.numeric) numeric.numeric.isReadable

theorem arrayForm_of_hasAxes (hasAxes : shape ≠ []) :
    arrayForm shape column =
      [(.text arrayMark, .truth true), (.text "dtype", .text column.elementType.code),
       (.text "shape", .list (shape.map fun (length : Nat) => .whole length)),
       (.text "data", .bytes column.toBytes)] := by
  unfold arrayForm
  rw [List.isEmpty_eq_false_iff.mpr hasAxes]
  rfl

theorem arrayForm_fitsByLevels (hasAxes : shape ≠ []) :
    (map (arrayForm shape column)).FitsByLevels := by
  have axes : (list (shape.map fun (length : Nat) => whole length)).FitsByLevels := by
    refine list_fitsByLevels ?_
    rw [List.forall_mem_map]
    exact fun length _ => scalar_fitsByLevels rfl fun _ => Iff.rfl
  have texts (content : String) : (text content).FitsByLevels :=
    scalar_fitsByLevels rfl fun _ => Iff.rfl
  refine map_fitsByLevels ?_
  rw [arrayForm_of_hasAxes hasAxes, List.forall_mem_cons, List.forall_mem_cons,
    List.forall_mem_cons, List.forall_mem_singleton]
  exact ⟨⟨texts _, scalar_fitsByLevels rfl fun _ => Iff.rfl⟩, ⟨texts _, texts _⟩,
    ⟨texts _, axes⟩, texts _, scalar_fitsByLevels rfl fun _ => Iff.rfl⟩

theorem nesting_arrayForm (hasAxes : shape ≠ []) :
    (map (arrayForm shape column)).nesting = (array shape column).nesting := by
  obtain ⟨length, rest, rfl⟩ := List.exists_cons_of_ne_nil hasAxes
  have flat : itemsNesting (rest.map fun (length : Nat) => whole length) ≤ 1 := by
    rw [itemsNesting_le_iff, List.forall_mem_map]
    exact fun _ _ => Nat.le_refl 1
  rw [arrayForm_of_hasAxes hasAxes]
  simp only [nesting, entriesNesting, List.map_cons, itemsNesting]
  omega

theorem hasRoom_arrayForm (numeric : IsNumericArray shape column) :
    (map (arrayForm shape column)).HasRoom ↔ (array shape column).HasRoom := by
  have content : column.toBytes.length = column.elementType.byteCount * column.size :=
    length_toBytes (Column.isStored_of_isNumeric numeric.numeric)
  have fewAxes : shape.length < 2 ^ 32 := Nat.lt_of_le_of_lt numeric.fewAxes (by decide)
  have axes : ItemsHaveRoom (shape.map fun (length : Nat) => whole length) ↔
      ∀ length ∈ shape, length < 2 ^ 64 := by
    rw [itemsHaveRoom_iff, List.forall_mem_map]
    refine forall₂_congr fun length _ => ?_
    have bounds : (whole length).HasRoom ↔
        -(2 ^ 63) ≤ (length : Int) ∧ (length : Int) < 2 ^ 64 := Iff.rfl
    rw [bounds]
    omega
  have names : arrayMark.toUTF8.size < 2 ^ 32 ∧ "dtype".toUTF8.size < 2 ^ 32 ∧
      "shape".toUTF8.size < 2 ^ 32 ∧ "data".toUTF8.size < 2 ^ 32 := by decide
  have code := numeric.numeric.code_fits
  rw [arrayForm_of_hasAxes numeric.hasAxes]
  simp only [HasRoom, EntriesHaveRoom, ScalarFits, List.length_cons, List.length_nil,
    List.length_map, axes, content, names, code, fewAxes, true_and, and_true]
  exact and_iff_right (by decide)

/-- An array is packed as its mapping. -/
theorem array_fitsByLevels (numeric : IsNumericArray shape column) :
    (array shape column).FitsByLevels := by
  intro depth
  have asMapping : (array shape column).Fits depth ↔ (map (arrayForm shape column)).Fits depth := by
    cases depth with
    | zero => exact Iff.rfl
    | succ depth => exact Iff.rfl
  rw [asMapping, arrayForm_fitsByLevels numeric.hasAxes depth, nesting_arrayForm numeric.hasAxes,
    hasRoom_arrayForm numeric]

end Arrays

section RoundTrip

theorem IsData.fitsByLevels {value : Value} (data : value.IsData) : value.FitsByLevels := by
  unfold IsData at data
  induction data with
  | null | truth _ | whole _ | real _ | text _ | bytes _ =>
      exact scalar_fitsByLevels rfl fun _ => Iff.rfl
  | array numeric => exact array_fitsByLevels numeric
  | list builtItems eachFits => exact list_fitsByLevels eachFits
  | map areKeys builtKeys builtValues differ unmarked keysFit valuesFit =>
      exact map_fitsByLevels fun entry isEntry =>
        ⟨keysFit entry isEntry, valuesFit entry isEntry⟩

theorem IsData.arrives {value : Value} (data : value.IsData) : value.Arrives :=
  IsBuilt.arrives data fun _ _ numeric => numeric.arrives

/-- Data can be packed exactly if it has room and is not nested too deep, and it is read back from
its bytes as it was. -/
theorem packed_data_comes_back {value : Value} (data : value.IsData) :
    ((∃ bytes, pack value = .ok bytes) ↔ value.HasRoom ∧ value.nesting ≤ writingDepth) ∧
      ∀ bytes, pack value = .ok bytes → unpack bytes = .ok value := by
  constructor
  · exact (packWithin_eq_ok writingDepth value).trans (data.fitsByLevels writingDepth)
  · intro bytes packed
    rw [unpack_pack packed]
    exact data.arrives

/-- The extremes of whole numbers, an undefined number, a text beside the byte string of the same
characters, and two arrays, one of them empty. The mark of arrays stands for nothing here. -/
def stationLog : Value :=
  .map [(.whole 2, .list [.whole (-(2 ^ 63)), .whole (2 ^ 64 - 1), .real ⟨0x7ff8000000000001⟩]),
    (.text "a", .bytes [0x61]), (.bytes [0x61], .text "a"),
    (.real ⟨0x3fe0000000000000⟩, .array [0, 2] (.complex .double [])),
    (.null, .array [1, 3] (.int .int8 [1, 2, 3])), (.text arrayMark, .truth false)]

theorem stationLog_isData : stationLog.IsData := by
  have numbers : (list [.whole (-(2 ^ 63)), .whole (2 ^ 64 - 1),
      .real ⟨0x7ff8000000000001⟩]).IsData := by
    refine .list ?_
    rw [List.forall_mem_cons, List.forall_mem_cons, List.forall_mem_singleton]
    exact ⟨.whole _, .whole _, .real _⟩
  have none : (array [0, 2] (.complex .double [])).IsData :=
    .array ⟨List.cons_ne_nil _ _, by decide, rfl, show FloatWidth.double ≠ .half by decide⟩
  have three : (array [1, 3] (.int .int8 [1, 2, 3])).IsData :=
    .array ⟨List.cons_ne_nil _ _, by decide, rfl, trivial⟩
  refine .map (by decide) ?_ ?_ (by unfold KeysDiffer; decide) ?_
  · simp only [List.forall_mem_cons]
    exact ⟨.whole _, .text _, .bytes _, .real _, .null, .text _, List.forall_mem_nil _⟩
  · simp only [List.forall_mem_cons]
    exact ⟨numbers, .bytes _, .text _, none, three, .truth _, List.forall_mem_nil _⟩
  · intro mark isMark
    cases isMark
    rfl

theorem packed_stationLog_comes_back :
    ∃ bytes, pack stationLog = .ok bytes ∧ unpack bytes = .ok stationLog := by
  have comesBack := packed_data_comes_back stationLog_isData
  have room : stationLog.HasRoom ∧ stationLog.nesting ≤ writingDepth := by
    constructor
    · simp only [stationLog, HasRoom, EntriesHaveRoom, ItemsHaveRoom, ScalarFits]
      decide
    · decide
  obtain ⟨bytes, packed⟩ := comesBack.1.mpr room
  exact ⟨bytes, packed, comesBack.2 bytes packed⟩

end RoundTrip

end Value

end FieldSurvey
