import FieldSurvey.Error

/-!
Subscripts into lists.
-/

namespace FieldSurvey

/-- The entry at an index; negative indices count from the end. -/
def entryAt {β : Type} (entries : List β) (index : Int) : Except Error β :=
  let place := if index < 0 then index + entries.length else index
  if place < 0 then .error .badSubscript
  else
    match entries[place.toNat]? with
    | some entry => .ok entry
    | none => .error .badSubscript

theorem entryAt_ofNat {β : Type} {entries : List β} {place : Nat} {entry : β}
    (stands : entries[place]? = some entry) : entryAt entries (place : Int) = .ok entry := by
  have notBefore : ¬ (place : Int) < 0 := Int.not_lt.mpr (Int.natCast_nonneg place)
  simp only [entryAt, if_neg notBefore, Int.toNat_natCast, stands]

section Found

variable {β : Type} {entries : List β} {index : Int} {entry : β}

/-- A subscript is a place of the list; a negative one counts from the end. -/
theorem entryAt_eq_ok :
    entryAt entries index = .ok entry ↔ ∃ place : Nat, entries[place]? = some entry ∧
      (place : Int) = if index < 0 then index + entries.length else index := by
  unfold entryAt
  generalize (if index < 0 then index + (entries.length : Int) else index) = counted
  constructor
  · intro found
    dsimp only at found
    split at found
    · cases found
    · split at found
      · rename_i isEntry
        cases found
        exact ⟨counted.toNat, isEntry, by omega⟩
      · cases found
  · rintro ⟨place, isEntry, rfl⟩
    have notBefore : ¬ (place : Int) < 0 := by omega
    simp only [if_neg notBefore, Int.toNat_natCast, isEntry]

theorem entryAt_ok_iff :
    (∃ entry, entryAt entries index = .ok entry) ↔
      -(entries.length : Int) ≤ index ∧ index < entries.length := by
  simp only [entryAt_eq_ok]
  constructor
  · rintro ⟨entry, place, isEntry, counted⟩
    have onList := (List.getElem?_eq_some_iff.mp isEntry).1
    split at counted <;> omega
  · rintro ⟨notBefore, isBelow⟩
    obtain ⟨place, counted⟩ : ∃ place : Nat,
        (place : Int) = if index < 0 then index + entries.length else index :=
      Int.eq_ofNat_of_zero_le (by split <;> omega) |>.imp fun _ same => same.symm
    have onList : place < entries.length := by
      split at counted <;> omega
    exact ⟨entries[place], place, List.getElem?_eq_getElem onList, counted⟩

theorem entryAt_natCast {place : Nat} :
    entryAt entries (place : Int) = .ok entry ↔ entries[place]? = some entry := by
  refine ⟨?_, entryAt_ofNat⟩
  intro found
  obtain ⟨counted, stands, isPlace⟩ := entryAt_eq_ok.mp found
  have same : counted = place := by
    split at isPlace <;> omega
  exact same ▸ stands

end Found

end FieldSurvey
