/-!
Lists that are put together of equally long rows: how long they are, and where each row stands.
-/

namespace FieldSurvey

section Rows

variable {β γ : Type} {size : Nat} {row : β → List γ} {items : List β}

theorem length_flatMap_of_forall (even : ∀ item ∈ items, (row item).length = size) :
    (items.flatMap row).length = size * items.length := by
  induction items with
  | nil => rfl
  | cons first rest inductionHypothesis =>
      have firstLength := even first List.mem_cons_self
      have others := inductionHypothesis fun other isLater =>
        even other (List.mem_cons_of_mem first isLater)
      rw [List.flatMap_cons, List.length_append, firstLength, others, List.length_cons,
        Nat.mul_succ, Nat.add_comm]

/-- Each row is found at its multiple of their length. -/
theorem take_drop_flatMap (even : ∀ item ∈ items, (row item).length = size) {place : Nat}
    {item : β} (stands : items[place]? = some item) :
    ((items.flatMap row).drop (place * size)).take size = row item := by
  induction items generalizing place with
  | nil => cases stands
  | cons first rest inductionHypothesis =>
      have firstLength := even first List.mem_cons_self
      cases place with
      | zero =>
          cases stands
          rw [Nat.zero_mul, List.drop_zero, List.flatMap_cons, ← firstLength, List.take_left]
      | succ place =>
          have later := inductionHypothesis
            (fun other isLater => even other (List.mem_cons_of_mem first isLater)) stands
          have skipped : (place + 1) * size = (row first).length + place * size := by
            rw [firstLength, Nat.succ_mul, Nat.add_comm]
          rw [List.flatMap_cons, skipped, ← List.drop_drop, List.drop_left, later]

theorem getElem?_flatMap (even : ∀ item ∈ items, (row item).length = size) {place offset : Nat}
    {item : β} (stands : items[place]? = some item) (inRow : offset < size) :
    (items.flatMap row)[place * size + offset]? = (row item)[offset]? := by
  rw [← take_drop_flatMap even stands, List.getElem?_take_of_lt inRow, List.getElem?_drop]

end Rows

end FieldSurvey
