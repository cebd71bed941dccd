import Std.Data.String.ToNat
import FieldSurvey.Packed.ElementCode
import FieldSurvey.Proofs.Outcome

/-!
Which element types their codes lead back to: all but mixed entries, complex numbers of half words,
and texts and byte strings without a size or with one past the limit.
-/

namespace FieldSurvey.ElementType

/-- The types whose entries can be read from bytes. -/
def IsReadable : ElementType → Prop
  | complex width => width ≠ .half
  | text length => 0 < length ∧ 4 * length ≤ sizeLimit
  | bytes length => 0 < length ∧ length ≤ sizeLimit
  | mixed => False
  | _ => True

theorem not_blank_of_isDigit {character : Char} (isDigit : character.isDigit = true) :
    [' ', '\t', '\n', '\u000b', '\u000c', '\r'].contains character = false ∧ character ≠ '+' := by
  constructor
  · rw [Bool.eq_false_iff]
    intro isBlank
    simp only [List.contains_iff_mem, List.mem_cons, List.not_mem_nil, or_false] at isBlank
    rcases isBlank with rfl | rfl | rfl | rfl | rfl | rfl <;> cases isDigit
  · rintro rfl
    cases isDigit

theorem sizeOf?_digits (size : Nat) :
    sizeOf? (Nat.toDigits 10 size) = if size ≤ sizeLimit then some size else none := by
  have areDigits : ∀ character ∈ Nat.toDigits 10 size, character.isDigit = true :=
    fun character isDigit => Nat.isDigit_of_mem_toDigits (by decide) (by decide) isDigit
  have read : (String.ofList (Nat.toDigits 10 size)).toNat? = some size := by
    rw [← Nat.repr_eq_ofList_toDigits]
    exact Nat.toNat?_repr size
  have someDigits : Nat.toDigits 10 size ≠ [] := Nat.toDigits_ne_nil
  generalize Nat.toDigits 10 size = digits at areDigits read someDigits
  cases digits with
  | nil => exact absurd rfl someDigits
  | cons first rest =>
      have firstIsDigit := areDigits first List.mem_cons_self
      obtain ⟨notBlank, notPlus⟩ := not_blank_of_isDigit firstIsDigit
      have all : (first :: rest).all Char.isDigit = true := List.all_eq_true.mpr areDigits
      unfold sizeOf?
      rw [List.dropWhile_cons_of_neg (by rw [notBlank]; exact Bool.false_ne_true)]
      dsimp only
      split
      · rename_i digits isPlus
        cases isPlus
        exact absurd rfl notPlus
      · rw [all, read]
        change Option.filter (fun size => decide (size ≤ sizeLimit)) (some size) = _
        rw [Option.filter_some]
        simp only [decide_eq_true_eq]

theorem ofCode?_sized (kind : Char) (size : Nat) :
    ofCode? (kind :: Nat.toDigits 10 size) =
      match sizeOf? (Nat.toDigits 10 size) with
      | none => none
      | some size =>
        if kind = 'U' then if 4 * size ≤ sizeLimit then some (.text size) else none
        else if kind = 'S' ∨ kind = 'a' then some (.bytes size)
        else sized.lookup (String.singleton kind ++ toString size) := by
  have someDigits : Nat.toDigits 10 size ≠ [] := Nat.toDigits_ne_nil
  generalize Nat.toDigits 10 size = digits at someDigits ⊢
  cases digits with
  | nil => exact absurd rfl someDigits
  | cons first rest => rfl

/-- No name of a type starts like a code that tells the byte order. -/
theorem named_lookup_eq_none {content : String} {order : Char} {code : List Char}
    (isCode : content.toList = order :: code) (isOrder : order = '<' ∨ order = '|') :
    named.lookup content = none := by
  -- The table of names is closed, so the two marks can be looked for in it.
  have others : named.all fun entry =>
      entry.1.toList.head? != some '<' && entry.1.toList.head? != some '|' := by decide
  rw [List.lookup_eq_none_iff]
  intro entry isEntry
  have other := List.all_eq_true.mp others entry isEntry
  rw [Bool.and_eq_true, bne_iff_ne, bne_iff_ne] at other
  rw [bne_iff_ne]
  intro same
  rw [← same, isCode] at other
  rcases isOrder with rfl | rfl
  · exact other.1 rfl
  · exact other.2 rfl

theorem ofText?_ordered {content : String} {order : Char} {code : List Char}
    (isCode : content.toList = order :: code) (isOrder : order = '<' ∨ order = '|') :
    ofText? content = (ofCode? code).map fun type => (type, false) := by
  have unnamed := named_lookup_eq_none isCode isOrder
  have isSplit : splitOrder content.toList = (false, code) := by
    rw [isCode]
    rcases isOrder with rfl | rfl
    · rfl
    · rfl
  unfold ofText?
  rw [isSplit, unnamed]
  dsimp only
  cases ofCode? code with
  | none => rfl
  | some type => rfl

theorem ofText?_text (length : Nat) :
    ofText? (code (.text length)) =
      if 4 * length ≤ sizeLimit then some (.text length, false) else none := by
  have isCode : (code (.text length)).toList = '<' :: 'U' :: Nat.toDigits 10 length := by
    unfold code
    rw [String.toList_append]
    exact congrArg (fun digits => '<' :: 'U' :: digits) Nat.toList_repr
  rw [ofText?_ordered isCode (.inl rfl), ofCode?_sized, sizeOf?_digits]
  by_cases fits : 4 * length ≤ sizeLimit
  · rw [if_pos fits, if_pos (by omega)]
    exact congrArg (Option.map _) (if_pos fits)
  · rw [if_neg fits]
    by_cases alsoFits : length ≤ sizeLimit
    · rw [if_pos alsoFits]
      exact congrArg (Option.map _) (if_neg fits)
    · rw [if_neg alsoFits]
      rfl

theorem ofText?_bytes (length : Nat) :
    ofText? (code (.bytes length)) =
      if length ≤ sizeLimit then some (.bytes length, false) else none := by
  have isCode : (code (.bytes length)).toList = '|' :: 'S' :: Nat.toDigits 10 length := by
    unfold code
    rw [String.toList_append]
    exact congrArg (fun digits => '|' :: 'S' :: digits) Nat.toList_repr
  rw [ofText?_ordered isCode (.inr rfl), ofCode?_sized, sizeOf?_digits]
  by_cases fits : length ≤ sizeLimit
  · rw [if_pos fits, if_pos fits]
    rfl
  · rw [if_neg fits, if_neg fits]
    rfl

theorem ofText?_sized {content : String} (order kind : Char) (size : Nat)
    (isCode : content.toList = order :: kind :: Nat.toDigits 10 size)
    (isOrder : order = '<' ∨ order = '|') (fits : size ≤ sizeLimit)
    (isNumber : kind ≠ 'U' ∧ ¬(kind = 'S' ∨ kind = 'a')) :
    ofText? content =
      (sized.lookup (String.singleton kind ++ toString size)).map fun type => (type, false) := by
  rw [ofText?_ordered isCode isOrder, ofCode?_sized, sizeOf?_digits, if_pos fits]
  dsimp only
  rw [if_neg isNumber.1, if_neg isNumber.2]

theorem ofText?_int (type : IntType) : ofText? (code (.int type)) = some (.int type, false) := by
  have isCode : (code (.int type)).toList = (if type.byteCount = 1 then '|' else '<') ::
      (if type.isSigned then 'i' else 'u') :: Nat.toDigits 10 type.byteCount := by
    cases type <;> decide
  rw [ofText?_sized _ _ _ isCode]
  · cases type <;> decide
  · cases type <;> decide
  · cases type <;> decide
  · cases type <;> decide

theorem ofText?_float (width : FloatWidth) :
    ofText? (code (.float width)) = some (.float width, false) := by
  have isCode : (code (.float width)).toList = '<' :: 'f' :: Nat.toDigits 10 width.byteCount := by
    cases width <;> decide
  rw [ofText?_sized _ _ _ isCode (.inl rfl)]
  · cases width <;> decide
  · cases width <;> decide
  · decide

theorem ofText?_complex (width : FloatWidth) :
    ofText? (code (.complex width)) =
      if width = .half then none else some (.complex width, false) := by
  have isCode : (code (.complex width)).toList =
      '<' :: 'c' :: Nat.toDigits 10 (2 * width.byteCount) := by
    cases width <;> decide
  rw [ofText?_sized _ _ _ isCode (.inl rfl)]
  · cases width <;> decide
  · cases width <;> decide
  · decide

theorem ofText?_truth : ofText? (code .truth) = some (.truth, false) := by
  rw [ofText?_sized '|' 'b' 1 (by decide) (.inr rfl) (by decide) (by decide)]
  decide

/-- The code of a readable type is read as this type, the lowest byte first. -/
theorem ofText?_code {type : ElementType} (readable : type.IsReadable) :
    ofText? type.code = some (type, false) := by
  cases type with
  | truth => exact ofText?_truth
  | int type => exact ofText?_int type
  | float width => exact ofText?_float width
  | complex width => rw [ofText?_complex, if_neg readable]
  | text length => rw [ofText?_text, if_pos readable.2]
  | bytes length => rw [ofText?_bytes, if_pos readable.2]
  | mixed => exact absurd readable id

theorem isReadable_of_ofText? {type found : ElementType} {isHighFirst : Bool}
    (read : ofText? type.code = some (found, isHighFirst)) (notMixed : found ≠ .mixed)
    (hasSize : found.byteCount ≠ 0) : type.IsReadable := by
  cases type with
  | truth => trivial
  | int type => trivial
  | float width => trivial
  | complex width =>
      rw [ofText?_complex] at read
      split at read
      · cases read
      · assumption
  | text length =>
      rw [ofText?_text] at read
      split at read
      · rename_i fits
        cases read
        have hasSize : 4 * length ≠ 0 := hasSize
        exact ⟨by omega, fits⟩
      · cases read
  | bytes length =>
      rw [ofText?_bytes] at read
      split at read
      · rename_i fits
        cases read
        exact ⟨Nat.pos_of_ne_zero hasSize, fits⟩
      · cases read
  | mixed =>
      have readMixed : ofText? (code .mixed) = some (.mixed, false) := by decide
      rw [readMixed] at read
      cases read
      exact notMixed rfl

end FieldSurvey.ElementType
