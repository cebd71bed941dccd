import FieldSurvey.Packed.Writer
import FieldSurvey.Proofs.Outcome

/-!
Which values can be packed: whole numbers have to fit 64 bits, with a sign or without, sizes have to
fit 32 bits, and containers may be nested only so deep.
-/

namespace FieldSurvey

/-- Whether a value that holds no others can be packed. -/
def Value.ScalarFits : Value → Prop
  | .null | .truth _ | .real _ => True
  | .whole number => -(2 ^ 63) ≤ number ∧ number < 2 ^ 64
  | .text content => content.toUTF8.size < 2 ^ 32
  | .bytes content => content.length < 2 ^ 32
  | _ => False

def EntriesFit (fits : Value → Prop) (entries : List (Value × Value)) : Prop :=
  entries.length < 2 ^ 32 ∧ ∀ entry ∈ entries, fits entry.1 ∧ fits entry.2

/-- Whether a value can be packed within a depth of nesting. -/
def Value.Fits : Nat → Value → Prop
  | 0, _ => False
  | depth + 1, value =>
      match value with
      | .list items => items.length < 2 ^ 32 ∧ ∀ item ∈ items, Fits depth item
      | .map entries => EntriesFit (Fits depth) entries
      | .array shape column => EntriesFit (Fits depth) (arrayForm shape column)
      | .typed number => ∃ plain, number.plain = .ok plain ∧ plain.ScalarFits
      | scalar => scalar.ScalarFits

theorem sizedHead_eq_ok (head : Nat → Bytes) (size : Nat) :
    (∃ bytes, sizedHead head size = .ok bytes) ↔ size < 2 ^ 32 := by
  unfold sizedHead
  split
  · rename_i fits
    exact ⟨fun _ => fits, fun _ => ⟨_, rfl⟩⟩
  · rename_i large
    constructor
    · rintro ⟨_, packed⟩
      cases packed
    · exact fun fits => absurd fits large

theorem packWhole_eq_ok (number : Int) :
    (∃ bytes, packWhole number = .ok bytes) ↔ -(2 ^ 63) ≤ number ∧ number < 2 ^ 64 := by
  constructor
  · rintro ⟨bytes, packed⟩
    unfold packWhole at packed
    split at packed
    · iterate 5 (
        split at packed
        · omega)
      cases packed
    · iterate 5 (
        split at packed
        · omega)
      cases packed
  · rintro ⟨least, most⟩
    unfold packWhole
    split
    · iterate 4 (
        split
        · exact ⟨_, rfl⟩)
      exact ⟨_, rfl⟩
    · iterate 4 (
        split
        · exact ⟨_, rfl⟩)
      exact ⟨_, rfl⟩

theorem refused {cause : Error} :
    (∃ bytes, (Except.error cause : Except Error Bytes) = .ok bytes) ↔ False := by
  constructor
  · rintro ⟨_, packed⟩
    cases packed
  · exact False.elim

theorem packScalar_eq_ok (value : Value) :
    (∃ bytes, packScalar value = .ok bytes) ↔ value.ScalarFits := by
  have sequence {head : Nat → Bytes} {size : Nat} {content : Bytes} :
      (∃ bytes, (do let head ← sizedHead head size; return head ++ content) = Except.ok bytes) ↔
        size < 2 ^ 32 := by
    rw [← sizedHead_eq_ok head size]
    constructor
    · rintro ⟨bytes, packed⟩
      obtain ⟨found, headPacked, _⟩ := bind_eq_ok.mp packed
      exact ⟨found, headPacked⟩
    · rintro ⟨found, headPacked⟩
      exact ⟨found ++ content, by rw [headPacked]; rfl⟩
  cases value with
  | null => exact ⟨fun _ => trivial, fun _ => ⟨_, rfl⟩⟩
  | truth content => exact ⟨fun _ => trivial, fun _ => ⟨_, rfl⟩⟩
  | real stored => exact ⟨fun _ => trivial, fun _ => ⟨_, rfl⟩⟩
  | whole number => exact packWhole_eq_ok number
  | text content => exact sequence
  | bytes content => exact sequence
  | list items => exact refused
  | map entries => exact refused
  | array shape column => exact refused
  | typed number => exact refused
  | foreign typeName spelling => exact refused

theorem mapM_succeeds {β γ : Type} {step : β → Except Error γ} {items : List β} :
    (∃ results, items.mapM step = .ok results) ↔ ∀ item ∈ items, ∃ result, step item = .ok result := by
  constructor
  · rintro ⟨results, passed⟩ item isItem
    obtain ⟨result, _, stepped⟩ := exists_of_mapM_ok passed isItem
    exact ⟨result, stepped⟩
  · intro each
    induction items with
    | nil => exact ⟨[], rfl⟩
    | cons item rest inductionHypothesis =>
        obtain ⟨result, stepped⟩ := each item List.mem_cons_self
        obtain ⟨results, passed⟩ := inductionHypothesis fun item isItem =>
          each item (List.mem_cons_of_mem _ isItem)
        exact ⟨result :: results, by rw [List.mapM_cons, stepped, passed]; rfl⟩

theorem packItems_eq_ok {pack : Value → Except Error Bytes} {items : List Value} :
    (∃ bytes, packItems pack items = .ok bytes) ↔
      items.length < 2 ^ 32 ∧ ∀ item ∈ items, ∃ bytes, pack item = .ok bytes := by
  rw [← sizedHead_eq_ok listHead, ← mapM_succeeds]
  constructor
  · rintro ⟨bytes, packed⟩
    obtain ⟨head, headPacked, packed⟩ := bind_eq_ok.mp packed
    obtain ⟨parts, partsPacked, _⟩ := bind_eq_ok.mp packed
    exact ⟨⟨head, headPacked⟩, parts, partsPacked⟩
  · rintro ⟨⟨head, headPacked⟩, parts, partsPacked⟩
    exact ⟨head ++ parts.flatten, by unfold packItems; rw [headPacked, partsPacked]; rfl⟩

theorem packEntries_eq_ok {pack : Value → Except Error Bytes} {entries : List (Value × Value)} :
    (∃ bytes, packEntries pack entries = .ok bytes) ↔
      EntriesFit (fun value => ∃ bytes, pack value = .ok bytes) entries := by
  have each (entry : Value × Value) :
      (∃ bytes, (do
        let key ← pack entry.1
        let value ← pack entry.2
        return key ++ value) = Except.ok bytes) ↔
      (∃ bytes, pack entry.1 = .ok bytes) ∧ ∃ bytes, pack entry.2 = .ok bytes := by
    constructor
    · rintro ⟨bytes, packed⟩
      obtain ⟨key, keyPacked, packed⟩ := bind_eq_ok.mp packed
      obtain ⟨value, valuePacked, _⟩ := bind_eq_ok.mp packed
      exact ⟨⟨key, keyPacked⟩, value, valuePacked⟩
    · rintro ⟨⟨key, keyPacked⟩, value, valuePacked⟩
      exact ⟨key ++ value, by rw [keyPacked, valuePacked]; rfl⟩
  unfold EntriesFit
  simp only [← each]
  rw [← sizedHead_eq_ok mapHead, ← mapM_succeeds]
  constructor
  · rintro ⟨bytes, packed⟩
    obtain ⟨head, headPacked, packed⟩ := bind_eq_ok.mp packed
    obtain ⟨parts, partsPacked, _⟩ := bind_eq_ok.mp packed
    exact ⟨⟨head, headPacked⟩, parts, partsPacked⟩
  · rintro ⟨⟨head, headPacked⟩, parts, partsPacked⟩
    exact ⟨head ++ parts.flatten, by unfold packEntries; rw [headPacked, partsPacked]; rfl⟩

/-- A value fits within a depth exactly if it can be packed within it. -/
theorem packWithin_eq_ok (depth : Nat) (value : Value) :
    (∃ bytes, packWithin depth value = .ok bytes) ↔ value.Fits depth := by
  induction depth generalizing value with
  | zero => exact refused
  | succ depth inductionHypothesis =>
      -- Both sides ask the same of the parts, by the induction on the depth.
      have same : (fun value => ∃ bytes, packWithin depth value = .ok bytes) = Value.Fits depth :=
        funext fun value => propext (inductionHypothesis value)
      cases value with
      | list items =>
          refine packItems_eq_ok.trans ?_
          simp only [inductionHypothesis]
          exact Iff.rfl
      | map entries =>
          refine packEntries_eq_ok.trans ?_
          rw [same]
          exact Iff.rfl
      | array shape column =>
          refine packEntries_eq_ok.trans ?_
          rw [same]
          exact Iff.rfl
      | typed number =>
          constructor
          · rintro ⟨bytes, packed⟩
            obtain ⟨plain, isPlain, packed⟩ := bind_eq_ok.mp packed
            exact ⟨plain, isPlain, (packScalar_eq_ok plain).mp ⟨bytes, packed⟩⟩
          · rintro ⟨plain, isPlain, fits⟩
            obtain ⟨bytes, packed⟩ := (packScalar_eq_ok plain).mpr fits
            exact ⟨bytes, bind_eq_ok.mpr ⟨plain, isPlain, packed⟩⟩
      | null => exact packScalar_eq_ok .null
      | truth content => exact packScalar_eq_ok (.truth content)
      | whole number => exact packScalar_eq_ok (.whole number)
      | real stored => exact packScalar_eq_ok (.real stored)
      | text content => exact packScalar_eq_ok (.text content)
      | bytes content => exact packScalar_eq_ok (.bytes content)
      | foreign typeName spelling => exact packScalar_eq_ok (.foreign typeName spelling)

end FieldSurvey
