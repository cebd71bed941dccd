import FieldSurvey.Mesh.Location
import FieldSurvey.Proofs.Packed.Arrival
import FieldSurvey.Proofs.Packed.Limits

/-!
Values that are handed on packed. A value survives if what is read from its bytes is equal to it, a
number with a type counting as the plain number. Texts survive up to a size, and places as long as
their domain number fits 64 bits; of the other values, those survive that have a plain form in which
no mapping passes for an array and whose arrays can be read.
-/

namespace FieldSurvey

namespace Value

/-- What comes of a value that is packed by one process and read by all. -/
def relayed (content : Value) : Except Error Value := do unpack (← pack content)

mutual

/-- The value with plain numbers in place of those with a type; a complex number has no plain form. -/
def untyped : Value → Value
  | .typed number =>
      match number.plain with
      | .ok plain => plain
      | .error _ => .typed number
  | .list items => .list (untypedItems items)
  | .map entries => .map (untypedEntries entries)
  | value => value

def untypedItems : List Value → List Value
  | [] => []
  | item :: rest => item.untyped :: untypedItems rest

def untypedEntries : List (Value × Value) → List (Value × Value)
  | [] => []
  | (key, value) :: rest => (key.untyped, value.untyped) :: untypedEntries rest

end

/-- What is read from the bytes of the value is equal to it. -/
def Survives (content : Value) : Prop :=
  ∃ arrived, content.relayed = .ok arrived ∧ arrived.untyped = content.untyped

section Untyped

theorem untypedItems_eq_map (items : List Value) : untypedItems items = items.map untyped := by
  induction items with
  | nil => rfl
  | cons item rest inductionHypothesis =>
      rw [untypedItems, inductionHypothesis, List.map_cons]

theorem untypedEntries_eq_map (entries : List (Value × Value)) :
    untypedEntries entries = entries.map fun entry => (entry.1.untyped, entry.2.untyped) := by
  induction entries with
  | nil => rfl
  | cons entry rest inductionHypothesis =>
      obtain ⟨key, value⟩ := entry
      rw [untypedEntries, inductionHypothesis, List.map_cons]

theorem packWithin_plain {number : TypedNumber} {plain : Value} (isPlain : number.plain = .ok plain)
    (depth : Nat) : packWithin (depth + 1) plain = packScalar plain ∧ plain.untyped = plain := by
  unfold TypedNumber.plain at isPlain
  split at isPlain
  all_goals cases isPlain
  all_goals exact ⟨rfl, rfl⟩

/-- Without their types numbers have the same bytes. -/
theorem packWithin_untyped (depth : Nat) (value : Value) :
    packWithin depth value.untyped = packWithin depth value := by
  induction depth generalizing value with
  | zero => rfl
  | succ depth inductionHypothesis =>
      cases value with
      | typed number =>
          rw [untyped]
          cases isPlain : number.plain with
          | error cause => rfl
          | ok plain =>
              have unpacked : packWithin (depth + 1) (.typed number) = packScalar plain := by
                simp only [packWithin, isPlain, ok_bind]
              rw [unpacked]
              exact (packWithin_plain isPlain depth).1
      | list items =>
          simp only [untyped, packWithin, packItems, untypedItems_eq_map, List.length_map,
            List.mapM_map, Function.comp_def, inductionHypothesis]
      | map entries =>
          simp only [untyped, packWithin, packEntries, untypedEntries_eq_map, List.length_map,
            List.mapM_map, Function.comp_def, inductionHypothesis]
      | _ => rfl

theorem relayed_untyped (content : Value) : content.untyped.relayed = content.relayed := by
  unfold relayed pack
  rw [packWithin_untyped]

theorem untyped_untyped (value : Value) : value.untyped.untyped = value.untyped := by
  induction value using untyped.induct
    (motive_2 := fun entries => untypedEntries (untypedEntries entries) = untypedEntries entries)
    (motive_3 := fun items => untypedItems (untypedItems items) = untypedItems items) with
  | case1 number plain isPlain =>
      rw [untyped, isPlain]
      exact (packWithin_plain isPlain 0).2
  | case2 number cause noPlain =>
      rw [untyped, noPlain]
      simp only [untyped, noPlain]
  | case3 items inItems =>
      rw [untyped, untyped, inItems]
  | case4 entries inEntries =>
      rw [untyped, untyped, inEntries]
  | case5 value notTyped notList notMap =>
      have same : value.untyped = value := by rw [untyped] <;> assumption
      rw [same, same]
  | case6 => rfl
  | case7 item rest inItem inRest =>
      rw [untypedItems, untypedItems, inItem, inRest]
  | case8 => rfl
  | case9 key value rest inKey inValue inRest =>
      rw [untypedEntries, untypedEntries, inKey, inValue, inRest]

end Untyped

section Survivors

/-- A value that has a plain form, in which no mapping passes for an array and every array has axes
and entries that can be read from bytes. -/
def IsPortable (content : Value) : Prop :=
  content.untyped.IsBuilt fun shape column =>
    shape ≠ [] ∧ shape.length ≤ axisLimit ∧ shape.foldl (· * ·) 1 = column.size ∧
      column.IsStored ∧ column.elementType.IsReadable

/-- Only packing can fail for a value that arrives as it was sent. -/
theorem relayed_eq_of_arrives {content : Value} (arrives : content.Arrives) :
    content.relayed = pack content >>= fun _ => .ok content := by
  unfold relayed
  cases packed : pack content with
  | error cause => rfl
  | ok bytes =>
      rw [ok_bind, unpack_pack packed]
      exact arrives

theorem relayed_of_arrives {content : Value} (fits : content.Fits writingDepth)
    (arrives : content.Arrives) : content.relayed = .ok content := by
  obtain ⟨bytes, packed⟩ := (packWithin_eq_ok writingDepth content).mpr fits
  have isPacked : pack content = .ok bytes := packed
  rw [relayed_eq_of_arrives arrives, isPacked, ok_bind]

theorem fits_of_relayed {content arrived : Value} (relays : content.relayed = .ok arrived) :
    content.Fits writingDepth := by
  obtain ⟨bytes, packed, _⟩ := bind_eq_ok.mp relays
  exact (packWithin_eq_ok writingDepth content).mp ⟨bytes, packed⟩

theorem fits_untyped {content : Value} (fits : content.Fits writingDepth) :
    content.untyped.Fits writingDepth := by
  rw [← packWithin_eq_ok] at fits ⊢
  rw [packWithin_untyped]
  exact fits

theorem IsPortable.arrives {content : Value} (portable : content.IsPortable) :
    content.untyped.Arrives := by
  apply IsBuilt.arrives portable
  rintro shape column ⟨hasAxes, fewAxes, counts, stored, readable⟩
  exact ofArrayForm_arrayForm hasAxes fewAxes counts stored readable

/-- A portable value survives if it can be packed at all. -/
theorem IsPortable.survives_iff {content : Value} (portable : content.IsPortable) :
    content.Survives ↔ content.Fits writingDepth := by
  constructor
  · rintro ⟨arrived, relays, _⟩
    exact fits_of_relayed relays
  · intro fits
    refine ⟨content.untyped, ?_, untyped_untyped content⟩
    rw [← relayed_untyped]
    exact relayed_of_arrives (fits_untyped fits) portable.arrives

theorem survives_iff_of_arrives {content : Value} (arrives : content.Arrives) :
    content.Survives ↔ content.Fits writingDepth := by
  constructor
  · rintro ⟨arrived, relays, _⟩
    exact fits_of_relayed relays
  · exact fun fits => ⟨content, relayed_of_arrives fits arrives, rfl⟩

theorem text_refused {content : String} {cause : Error}
    (refused : (text content).relayed = .error cause) : cause = .badValue := by
  rw [relayed_eq_of_arrives (text_arrives content)] at refused
  rcases bind_eq_error.mp refused with unpacked | ⟨_, _, passed⟩
  · have unsized : sizedHead textHead content.toUTF8.data.toList.length = .error cause := by
      rcases bind_eq_error.mp (show packText content = .error cause from unpacked) with
        unsized | ⟨_, _, passed⟩
      · exact unsized
      · cases passed
    unfold sizedHead at unsized
    split at unsized
    · cases unsized
    · cases unsized
      rfl
  · cases passed

theorem text_survives_iff (content : String) :
    (text content).Survives ↔ content.toUTF8.size < 2 ^ 32 :=
  survives_iff_of_arrives (text_arrives content)

/-- A position with the number of a domain, as one process tells it to all. -/
def place (position : Position Float) (domain : Int) : Value :=
  .list [.row (.ofFloats position.toList), .whole domain]

theorem place_arrives (position : Position Float) (domain : Int) :
    (place position domain).Arrives := by
  have stored : (Column.ofFloats position.toList : Column Value).IsStored := trivial
  have rowArrives := (row_steady stored).2.mpr trivial
  unfold Arrives at rowArrives
  unfold Arrives place
  rw [transit, transitItems, rowArrives, transitItems, transitItems]
  rfl

theorem position_fits (position : Position Float) (depth : Nat) :
    (row (.ofFloats position.toList)).Fits (depth + 3) := by
  have few : (4 : Nat) < 2 ^ 32 := by decide
  refine ⟨few, ?_⟩
  intro entry isEntry
  simp only [arrayForm, List.mem_cons, List.not_mem_nil, or_false] at isEntry
  rcases isEntry with rfl | rfl | rfl | rfl
  · exact ⟨show "__ndarray__".toUTF8.size < 2 ^ 32 by decide, trivial⟩
  · exact ⟨show "dtype".toUTF8.size < 2 ^ 32 by decide, show "<f8".toUTF8.size < 2 ^ 32 by decide⟩
  · refine ⟨show "shape".toUTF8.size < 2 ^ 32 by decide, show 1 < 2 ^ 32 by decide, ?_⟩
    intro item isItem
    have isThree : item ∈ [Value.whole 3] := isItem
    rw [List.mem_singleton.mp isThree]
    exact ⟨by decide, by decide⟩
  · exact ⟨show "data".toUTF8.size < 2 ^ 32 by decide, show 24 < 2 ^ 32 by decide⟩

theorem relayed_place (position : Position Float) (domain : Int) :
    (place position domain).relayed = packWhole domain >>= fun _ => .ok (place position domain) := by
  obtain ⟨rowBytes, rowPacked⟩ := (packWithin_eq_ok _ _).mpr (position_fits position 508)
  rw [relayed_eq_of_arrives (place_arrives position domain)]
  have packed : pack (place position domain) =
      packWhole domain >>= fun bytes => .ok (listHead 2 ++ (rowBytes ++ bytes)) := by
    have inList : pack (place position domain) =
        packItems (packWithin 511) [row (.ofFloats position.toList), .whole domain] := rfl
    have wholePacked : packWithin 511 (.whole domain) = packWhole domain := rfl
    have short : sizedHead listHead 2 = .ok (listHead 2) := rfl
    rw [inList]
    simp only [packItems, List.length_cons, List.length_nil, Nat.zero_add, Nat.reduceAdd, short,
      List.mapM_cons, List.mapM_nil, rowPacked, wholePacked, ok_bind, pure_eq_ok]
    cases packWhole domain with
    | error cause => rfl
    | ok bytes => simp
  rw [packed]
  cases packWhole domain <;> rfl

/-- A place survives exactly if its domain number fits 64 bits, with a sign or without. -/
theorem place_survives_iff (position : Position Float) (domain : Int) :
    (place position domain).Survives ↔ -(2 ^ 63) ≤ domain ∧ domain < 2 ^ 64 := by
  rw [survives_iff_of_arrives (place_arrives position domain)]
  constructor
  · rintro ⟨_, allFit⟩
    exact allFit (.whole domain) (by simp)
  · intro fits
    have short : (2 : Nat) < 2 ^ 32 := by decide
    refine ⟨short, ?_⟩
    intro item isItem
    simp only [List.mem_cons, List.not_mem_nil, or_false] at isItem
    rcases isItem with rfl | rfl
    · exact position_fits position 508
    · exact fits

end Survivors

end Value

end FieldSurvey
