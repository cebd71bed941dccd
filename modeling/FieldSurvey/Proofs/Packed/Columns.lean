import FieldSurvey.Packed.ArrayForm
import FieldSurvey.Proofs.Packed.ElementCodes
import FieldSurvey.Proofs.Rows

/-!
Columns as bytes and back. Numbers come back bit for bit; a text or byte string does if it is no
longer than its type says and has no nulls at its end, which is how they are stored.
-/

namespace FieldSurvey

/-- Texts and byte strings are no longer than their type says and have no nulls at the end. -/
def Column.IsStored : Column Value → Prop
  | .text length entries => ∀ content ∈ entries,
      content.toList.length ≤ length ∧ dropTrailingNulls content = content
  | .bytes length entries => ∀ content ∈ entries,
      content.length ≤ length ∧ dropTrailingNullBytes content = content
  | _ => True

section Groups

theorem groupsOf_flatMap {β : Type} {write : β → Bytes} {size : Nat} (entries : List β)
    (each : ∀ entry ∈ entries, (write entry).length = size) :
    groupsOf size entries.length (entries.flatMap write) = entries.map write := by
  induction entries with
  | nil => rfl
  | cons entry rest inductionHypothesis =>
      have first : (write entry).length = size := each entry List.mem_cons_self
      have others := inductionHypothesis fun entry isEntry =>
        each entry (List.mem_cons_of_mem _ isEntry)
      rw [List.flatMap_cons, List.length_cons, groupsOf, List.map_cons]
      rw [List.take_append_of_le_length (by omega), List.drop_append_of_le_length (by omega),
        List.take_of_length_le (by omega), List.drop_of_length_le (by omega), List.nil_append,
        others]

theorem map_groupsOf_flatMap {β : Type} {size : Nat} {entries : List β} (write : β → Bytes)
    (read : Bytes → β) (each : ∀ entry ∈ entries, (write entry).length = size)
    (reread : ∀ entry ∈ entries, read (write entry) = entry) :
    (groupsOf size entries.length (entries.flatMap write)).map read = entries := by
  rw [groupsOf_flatMap entries each, List.map_map]
  exact (List.map_congr_left reread).trans (List.map_id entries)

end Groups

section Words

theorem ofNat_littleEndian {bits count : Nat} (room : 2 ^ bits ≤ 256 ^ count)
    (word : BitVec bits) :
    BitVec.ofNat bits (fromLittleEndian (littleEndian count word.toNat)) = word := by
  have small : word.toNat < 256 ^ count := Nat.lt_of_lt_of_le word.isLt room
  rw [fromLittleEndian_littleEndian, Nat.mod_eq_of_lt small, BitVec.ofNat_toNat,
    BitVec.setWidth_eq]

theorem IntType.room (type : IntType) : 2 ^ type.bits ≤ 256 ^ type.byteCount := by
  cases type with
  | _ => exact Nat.le_refl _

theorem FloatWidth.room (width : FloatWidth) : 2 ^ width.bits ≤ 256 ^ width.byteCount := by
  cases width with
  | _ => exact Nat.le_refl _

end Words

section Nulls

theorem dropTrailingNullBytes_append (content : Bytes) (count : Nat) :
    dropTrailingNullBytes (content ++ List.replicate count 0) = dropTrailingNullBytes content := by
  unfold dropTrailingNullBytes
  induction count with
  | zero => rw [List.replicate_zero, List.append_nil]
  | succ count inductionHypothesis =>
      rw [List.replicate_succ', ← List.append_assoc, List.reverse_append]
      exact inductionHypothesis

theorem dropTrailingNulls_append (characters : List Char) (count : Nat) :
    dropTrailingNulls (String.ofList (characters ++ List.replicate count (Char.ofNat 0))) =
      dropTrailingNulls (String.ofList characters) := by
  unfold dropTrailingNulls
  simp only [String.toList_ofList]
  induction count with
  | zero => rw [List.replicate_zero, List.append_nil]
  | succ count inductionHypothesis =>
      rw [List.replicate_succ', ← List.append_assoc, List.reverse_append]
      exact inductionHypothesis

/-- The characters of a text filled up to a length with nulls. -/
def filledCharacters (length : Nat) (content : String) : List Char :=
  content.toList ++ List.replicate (length - content.toList.length) (Char.ofNat 0)

theorem length_filledCharacters {length : Nat} {content : String}
    (short : content.toList.length ≤ length) : (filledCharacters length content).length = length := by
  unfold filledCharacters
  rw [List.length_append, List.length_replicate]
  omega

theorem textCells_eq (length : Nat) (content : String) :
    textCells length content =
      (filledCharacters length content).flatMap fun character => littleEndian 4 character.toNat := by
  have null : (Char.ofNat 0).toNat = 0 := rfl
  unfold textCells filledCharacters
  dsimp only
  rw [List.length_map, List.flatMap_append, List.flatMap_append, List.flatMap_map,
    List.flatMap_replicate, List.flatMap_replicate, null]

theorem length_textCells {length : Nat} {content : String}
    (short : content.toList.length ≤ length) : (textCells length content).length = 4 * length := by
  rw [textCells_eq, length_flatMap_of_forall fun character _ =>
    length_littleEndian 4 character.toNat, length_filledCharacters short]

theorem ofNat_littleEndian_toNat (character : Char) :
    Char.ofNat (fromLittleEndian (littleEndian 4 character.toNat)) = character := by
  have small : character.toNat < 256 ^ 4 := character.val.toBitVec.isLt
  rw [fromLittleEndian_littleEndian, Nat.mod_eq_of_lt small, Char.ofNat_toNat]

theorem text_ofBytes_textCells {length : Nat} {content : String}
    (short : content.toList.length ≤ length) (stored : dropTrailingNulls content = content) :
    dropTrailingNulls (String.ofList ((groupsOf 4 length (textCells length content)).map
      fun point => Char.ofNat (fromLittleEndian point))) = content := by
  have characters : (groupsOf 4 (filledCharacters length content).length
      (textCells length content)).map (fun point => Char.ofNat (fromLittleEndian point)) =
        filledCharacters length content := by
    rw [textCells_eq]
    exact map_groupsOf_flatMap (fun character : Char => littleEndian 4 character.toNat)
      (fun point => Char.ofNat (fromLittleEndian point))
      (fun character _ => length_littleEndian 4 character.toNat)
      (fun character _ => ofNat_littleEndian_toNat character)
  have filled := dropTrailingNulls_append content.toList (length - content.toList.length)
  rw [length_filledCharacters short] at characters
  rw [String.ofList_toList, stored] at filled
  rw [characters]
  exact filled

end Nulls

section Columns

theorem length_toBytes {column : Column Value} (stored : column.IsStored) :
    column.toBytes.length = column.elementType.byteCount * column.size := by
  cases column with
  | truth entries =>
      unfold Column.toBytes
      rw [List.length_map]
      exact (Nat.one_mul _).symm
  | int type entries =>
      exact length_flatMap_of_forall fun word _ => length_littleEndian type.byteCount word.toNat
  | float width entries =>
      exact length_flatMap_of_forall fun word _ => length_littleEndian width.byteCount word.toNat
  | complex width entries =>
      apply length_flatMap_of_forall
      intro parts _
      rw [List.length_append, length_littleEndian, length_littleEndian]
      exact (Nat.two_mul _).symm
  | text length entries =>
      apply length_flatMap_of_forall
      intro content isEntry
      exact length_textCells (stored content isEntry).1
  | bytes length entries =>
      apply length_flatMap_of_forall
      intro content isEntry
      have short := (stored content isEntry).1
      rw [List.length_append, List.length_replicate]
      exact Nat.add_sub_cancel' short
  | mixed entries => exact length_flatMap_of_forall fun _ _ => length_littleEndian 8 0

/-- A column is read back from its bytes. -/
theorem ofBytes_toBytes {column : Column Value} (stored : column.IsStored)
    (readable : column.elementType.IsReadable) :
    Column.ofBytes column.elementType false column.size column.toBytes = .ok column := by
  cases column with
  | truth entries =>
      have bytes : Column.toBytes (.truth entries) =
          entries.flatMap fun entry => [if entry then (1 : UInt8) else 0] := by
        rw [← List.map_eq_flatMap]
        rfl
      have cells := map_groupsOf_flatMap (fun entry : Bool => [if entry then (1 : UInt8) else 0])
        (fun cell => fromLittleEndian cell != 0) (fun entry (_ : entry ∈ entries) => rfl)
        (fun entry _ => by cases entry <;> rfl)
      rw [bytes]
      exact congrArg (fun entries => Except.ok (Column.truth entries)) cells
  | int type entries =>
      have cells := map_groupsOf_flatMap
        (fun word : BitVec type.bits => littleEndian type.byteCount word.toNat)
        (fun cell => BitVec.ofNat type.bits (fromLittleEndian cell))
        (fun word (_ : word ∈ entries) => length_littleEndian type.byteCount word.toNat)
        (fun word _ => ofNat_littleEndian type.room word)
      exact congrArg (fun entries => Except.ok (Column.int type entries)) cells
  | float width entries =>
      have cells := map_groupsOf_flatMap
        (fun word : BitVec width.bits => littleEndian width.byteCount word.toNat)
        (fun cell => BitVec.ofNat width.bits (fromLittleEndian cell))
        (fun word (_ : word ∈ entries) => length_littleEndian width.byteCount word.toNat)
        (fun word _ => ofNat_littleEndian width.room word)
      exact congrArg (fun entries => Except.ok (Column.float width entries)) cells
  | complex width entries =>
      have cells := map_groupsOf_flatMap
        (fun parts : BitVec width.bits × BitVec width.bits =>
          littleEndian width.byteCount parts.1.toNat ++ littleEndian width.byteCount parts.2.toNat)
        (fun cell => (BitVec.ofNat width.bits (fromLittleEndian (cell.take width.byteCount)),
          BitVec.ofNat width.bits (fromLittleEndian (cell.drop width.byteCount))))
        (fun parts (_ : parts ∈ entries) => by
          rw [List.length_append, length_littleEndian, length_littleEndian, ← Nat.two_mul])
        (fun parts _ => by
          have first := length_littleEndian width.byteCount parts.1.toNat
          rw [List.take_left' first, List.drop_left' first, ofNat_littleEndian width.room,
            ofNat_littleEndian width.room])
      exact congrArg (fun entries => Except.ok (Column.complex width entries)) cells
  | text length entries =>
      have cells := map_groupsOf_flatMap (textCells length)
        (fun cell => dropTrailingNulls (String.ofList ((groupsOf 4 length cell).map
          fun point => Char.ofNat (fromLittleEndian point))))
        (fun content isEntry => length_textCells (stored content isEntry).1)
        (fun content isEntry =>
          text_ofBytes_textCells (stored content isEntry).1 (stored content isEntry).2)
      exact congrArg (fun entries => Except.ok (Column.text length entries)) cells
  | bytes length entries =>
      have cells := map_groupsOf_flatMap
        (fun content : Bytes => content ++ List.replicate (length - content.length) 0)
        dropTrailingNullBytes
        (fun content isEntry => by
          have short := (stored content isEntry).1
          rw [List.length_append, List.length_replicate, Nat.add_sub_cancel' short])
        (fun content isEntry => by
          rw [dropTrailingNullBytes_append]
          exact (stored content isEntry).2)
      exact congrArg (fun entries => Except.ok (Column.bytes length entries)) cells
  | mixed entries => exact absurd readable id

end Columns

section Arrays

variable {shape : List Nat} {column : Column Value}

theorem byteCount_pos_of_isReadable {type : ElementType} (readable : type.IsReadable) :
    0 < type.byteCount := by
  cases type with
  | truth => exact Nat.one_pos
  | int type => cases type <;> decide
  | float width => cases width <;> decide
  | complex width => cases width <;> decide
  | text length => exact Nat.mul_pos (by decide) readable.1
  | bytes length => exact readable.1
  | mixed => exact absurd readable id

theorem item_data : (Value.map (Value.arrayForm shape column)).item "data" =
    .ok (.bytes column.toBytes) := rfl

theorem item_dtype : (Value.map (Value.arrayForm shape column)).item "dtype" =
    .ok (.text column.elementType.code) := rfl

theorem item_shape (hasAxes : shape ≠ []) :
    (Value.map (Value.arrayForm shape column)).item "shape" =
      .ok (.list (shape.map fun (length : Nat) => .whole length)) := by
  cases shape with
  | nil => exact absurd rfl hasAxes
  | cons length rest => rfl

theorem resolveShape_lengths {count : Nat} (counts : shape.foldl (· * ·) 1 = count) :
    Value.resolveShape count (shape.map fun (length : Nat) => (length : Int)) = .ok shape := by
  have known : (shape.map fun (length : Nat) => (length : Int)).filter (· != -1) =
      shape.map fun (length : Nat) => (length : Int) := by
    rw [List.filter_eq_self]
    intro length isLength
    obtain ⟨natural, _, rfl⟩ := List.mem_map.mp isLength
    rw [bne_iff_ne]
    omega
  have product (start : Nat) :
      (shape.map fun (length : Nat) => (length : Int)).foldl (· * ·) (start : Int) =
        ((shape.foldl (· * ·) start : Nat) : Int) := by
    -- The product is that of the natural numbers, from any start.
    clear counts known
    induction shape generalizing start with
    | nil => rfl
    | cons length rest inductionHypothesis =>
        rw [List.map_cons, List.foldl_cons, List.foldl_cons, ← inductionHypothesis,
          Int.natCast_mul]
  have noneBelow : (shape.map fun (length : Nat) => (length : Int)).any (· < 0) = false := by
    rw [List.any_eq_false]
    intro length isLength
    obtain ⟨natural, _, rfl⟩ := List.mem_map.mp isLength
    simp
  have whole := product 1
  rw [counts] at whole
  unfold Value.resolveShape
  rw [known]
  dsimp only
  rw [if_neg (by rw [noneBelow]; exact Bool.false_ne_true), if_pos rfl]
  refine (if_pos whole).trans ?_
  rw [List.map_map]
  exact congrArg Except.ok (List.map_id shape)

theorem ofArrayForm_arrayForm (hasAxes : shape ≠ []) (fewAxes : shape.length ≤ Value.axisLimit)
    (counts : shape.foldl (· * ·) 1 = column.size) (stored : column.IsStored)
    (readable : column.elementType.IsReadable) :
    Value.ofArrayForm (Value.arrayForm shape column) = .ok (.array shape column) := by
  have positive := byteCount_pos_of_isReadable readable
  have usable : ¬(column.elementType = .mixed ∨ column.elementType.byteCount = 0) := by
    rintro (isMixed | isEmpty)
    · rw [isMixed] at readable
      exact readable
    · omega
  have lengths : (shape.map fun (length : Nat) => Value.whole length).mapM Value.toPlace =
      .ok (shape.map fun (length : Nat) => (length : Int)) := by
    rw [mapM_eq_ok, List.forall₂_map_left_iff, List.forall₂_map_right_iff, List.forall₂_same]
    exact fun length _ => rfl
  have typeRead : ElementType.ofValue (.text column.elementType.code) =
      .ok (column.elementType, false) := by
    unfold ElementType.ofValue
    dsimp only
    rw [ElementType.ofText?_code readable]
  unfold Value.ofArrayForm
  dsimp only
  rw [item_data, item_dtype, item_shape hasAxes]
  simp only [ok_bind, typeRead, if_neg usable, Value.toContent, Value.items?, lengths]
  rw [if_neg (by rw [length_toBytes stored, Nat.mul_mod_right]; exact fun h => h rfl)]
  rw [length_toBytes stored, Nat.mul_div_cancel_left _ positive, ofBytes_toBytes stored readable,
    ok_bind, List.length_map, if_neg (by omega), resolveShape_lengths counts]
  rfl

theorem isReadable_of_ofArrayForm {value : Value}
    (read : Value.ofArrayForm (Value.arrayForm shape column) = .ok value) :
    column.elementType.IsReadable := by
  unfold Value.ofArrayForm at read
  obtain ⟨_, _, read⟩ := bind_eq_ok.mp read
  rw [item_dtype, ok_bind] at read
  obtain ⟨⟨found, isHighFirst⟩, typeRead, read⟩ := bind_eq_ok.mp read
  dsimp only at read
  split at read
  · cases read
  · rename_i usable
    unfold ElementType.ofValue at typeRead
    dsimp only at typeRead
    split at typeRead
    · rename_i isFound
      cases typeRead
      exact ElementType.isReadable_of_ofText? isFound (fun isMixed => usable (.inl isMixed))
        (fun isEmpty => usable (.inr isEmpty))
    · cases typeRead

end Arrays

end FieldSurvey
