import Mathlib.Data.List.MinMax
import Mathlib.Order.Nat
import FieldSurvey.Snapshot

/-!
Dealing items round and round. A receiver gets every item at a distance of whole rounds from its
first, so each item falls to one receiver, no receiver gets more than one item more than another, and
taking the items of all receivers in turn gives back what was dealt.
-/

namespace FieldSurvey

variable {β γ : Type} {size rank : Nat}

/-- The shares of a dataset whose domains are dealt round and round. -/
def Dataset.shares (size : Nat) (dataset : Dataset) : List Dataset :=
  (List.range size).map fun (rank : Nat) => dealt size rank dataset

/-- The next item of every share in turn, round after round, as long as any share has items. -/
def takenInTurn (shares : List (List β)) : List β :=
  (List.range ((shares.map List.length).foldr max 0)).flatMap fun round =>
    shares.filterMap fun share => share[round]?

theorem Dataset.length_shares (size : Nat) (dataset : Dataset) :
    (dataset.shares size).length = size := by
  simp [shares]

theorem Dataset.getElem?_shares {dataset share : Dataset} :
    (dataset.shares size)[rank]? = some share ↔ rank < size ∧ dealt size rank dataset = share := by
  rw [List.getElem?_eq_some_iff]
  simp [shares]

section Turns

theorem dealt_eq (size rank : Nat) (items : List β) :
    dealt size rank items =
      (items.zipIdx.filter fun item => item.2 % size == rank).map Prod.fst := by
  have samePart (item : β × Nat) :
      ((item.2 : Int) % size == (rank : Int)) = (item.2 % size == rank) := by
    rw [← Int.natCast_emod, Bool.eq_iff_iff, beq_iff_eq, beq_iff_eq, Int.natCast_inj]
  unfold dealt
  simp only [samePart]

theorem dealt_one (items : List β) : dealt 1 0 items = items := by
  unfold dealt
  rw [List.filter_eq_self.mpr]
  · exact List.zipIdx_map_fst ..
  · intro item _
    rw [Int.emod_one]
    rfl

theorem dealt_map (change : β → γ) (size rank : Int) (items : List β) :
    dealt size rank (items.map change) = (dealt size rank items).map change := by
  unfold dealt
  rw [List.zipIdx_map, List.filter_map, List.map_map, List.map_map]
  rfl

theorem dealt_sublist (size rank : Int) (items : List β) : (dealt size rank items).Sublist items := by
  have kept : (items.zipIdx.filter fun item => (item.2 : Int) % size == rank).Sublist items.zipIdx :=
    List.filter_sublist
  have inItems := kept.map Prod.fst
  rw [List.zipIdx_map_fst] at inItems
  exact inItems

/-- The turn after a place is the next one, or the first after a whole round. -/
theorem succ_mod (isGroup : 0 < size) (place : Nat) :
    (place + 1) % size = if place % size + 1 = size then 0 else place % size + 1 := by
  have inRound := Nat.mod_lt place isGroup
  rw [← Nat.mod_add_mod]
  split
  · rename_i isLast
    rw [isLast, Nat.mod_self]
  · exact Nat.mod_eq_of_lt (by omega)

/-- What comes after the first item falls to the receivers one turn later. -/
theorem dealt_rest {turn : Nat} (items : List β)
    (turns : ∀ place, (place + 1) % size = rank ↔ place % size = turn) :
    ((items.zipIdx 1).filter fun item => item.2 % size == rank).map Prod.fst =
      dealt size turn items := by
  have sameTurn (item : β × Nat) : ((item.2 + 1) % size == rank) = (item.2 % size == turn) := by
    rw [Bool.eq_iff_iff, beq_iff_eq, beq_iff_eq]
    exact turns item.2
  rw [dealt_eq, List.zipIdx_succ, List.filter_map, List.map_map]
  simp only [Function.comp_def, sameTurn]

/-- The first receiver gets the first item and is then the last in turn. -/
theorem dealt_cons_zero (isGroup : 0 < size) (first : β) (rest : List β) :
    dealt size (0 : Nat) (first :: rest) = first :: dealt size (size - 1 : Nat) rest := by
  have turns (place : Nat) : (place + 1) % size = 0 ↔ place % size = size - 1 := by
    rw [succ_mod isGroup]
    split <;> omega
  have takesFirst : (fun item : β × Nat => item.2 % size == 0) (first, 0) = true :=
    beq_iff_eq.mpr (Nat.zero_mod size)
  rw [← dealt_rest rest turns, dealt_eq, List.zipIdx_cons, List.filter_cons, if_pos takesFirst,
    List.map_cons]

/-- The other receivers move up by one turn. -/
theorem dealt_cons_succ (inGroup : rank + 1 < size) (first : β) (rest : List β) :
    dealt size (rank + 1 : Nat) (first :: rest) = dealt size rank rest := by
  have turns (place : Nat) : (place + 1) % size = rank + 1 ↔ place % size = rank := by
    rw [succ_mod (by omega)]
    split <;> omega
  have leavesFirst : ¬(fun item : β × Nat => item.2 % size == rank + 1) (first, 0) = true := by
    intro takesFirst
    have isFirst := beq_iff_eq.mp takesFirst
    rw [Nat.zero_mod] at isFirst
    cases isFirst
  rw [← dealt_rest rest turns, dealt_eq, List.zipIdx_cons, List.filter_cons, if_neg leavesFirst]

/-- A receiver gets the items at a distance of whole rounds from its first. -/
theorem getElem?_dealt (inGroup : rank < size) (items : List β) (round : Nat) :
    (dealt size rank items)[round]? = items[rank + round * size]? := by
  have isGroup : 0 < size := Nat.zero_lt_of_lt inGroup
  induction items generalizing rank round with
  | nil => rfl
  | cons first rest inductionHypothesis =>
      cases rank with
      | zero =>
          rw [dealt_cons_zero isGroup]
          cases round with
          | zero => rw [Nat.zero_mul, List.getElem?_cons_zero, List.getElem?_cons_zero]
          | succ round =>
              have oneRound : 0 + (round + 1) * size = size - 1 + round * size + 1 := by
                rw [Nat.succ_mul]
                omega
              rw [List.getElem?_cons_succ, inductionHypothesis (by omega), oneRound,
                List.getElem?_cons_succ]
      | succ rank =>
          have onePlace : rank + 1 + round * size = rank + round * size + 1 := by omega
          rw [dealt_cons_succ inGroup, inductionHypothesis (by omega), onePlace,
            List.getElem?_cons_succ]

end Turns

section Shares

/-- Every item falls to one receiver, once. -/
theorem existsUnique_slot (isGroup : 0 < size) {items : List β} {place : Nat} {item : β}
    (stands : items[place]? = some item) :
    ∃! slot : Nat × Nat, slot.1 < size ∧ slot.1 + slot.2 * size = place ∧
      (dealt size slot.1 items)[slot.2]? = some item := by
  have inGroup := Nat.mod_lt place isGroup
  have rounds : place % size + place / size * size = place := Nat.mod_add_div' place size
  refine ⟨(place % size, place / size), ⟨inGroup, rounds, ?_⟩, ?_⟩
  · rw [getElem?_dealt inGroup, rounds]
    exact stands
  · rintro ⟨rank, round⟩ ⟨otherInGroup, rfl, _⟩
    rw [Nat.add_mul_mod_self_right, Nat.mod_eq_of_lt otherInGroup,
      Nat.add_mul_div_right _ _ isGroup, Nat.div_eq_of_lt otherInGroup, Nat.zero_add]

theorem length_dealt_le (inGroup : rank < size) {other : Nat} (otherInGroup : other < size)
    (items : List β) :
    (dealt size rank items).length ≤ (dealt size other items).length + 1 := by
  have atEnd : items[other + (dealt size other items).length * size]? = none := by
    rw [← getElem?_dealt otherInGroup]
    exact List.getElem?_eq_none (Nat.le_refl _)
  rw [List.getElem?_eq_none_iff] at atEnd
  rw [← List.getElem?_eq_none_iff, getElem?_dealt inGroup, List.getElem?_eq_none_iff, Nat.succ_mul]
  omega

/-- What the first receivers have in one round stands in a row. -/
theorem taken_round {count : Nat} (inGroup : count ≤ size) (items : List β) (round : Nat) :
    (List.range count).filterMap (fun (rank : Nat) => (dealt size rank items)[round]?) =
      (items.drop (round * size)).take count := by
  induction count with
  | zero => rfl
  | succ count inductionHypothesis =>
      have next : [count].filterMap (fun (rank : Nat) => (dealt size rank items)[round]?) =
          (items.drop (round * size))[count]?.toList := by
        rw [List.getElem?_drop, Nat.add_comm, ← getElem?_dealt (by omega), List.filterMap_cons]
        cases (dealt size count items)[round]? <;> rfl
      rw [List.range_succ, List.filterMap_append, inductionHypothesis (by omega), next,
        List.take_add_one]

/-- Rows of equal length, one after the other. -/
theorem flatMap_rows (items : List β) (rounds : Nat) :
    (List.range rounds).flatMap (fun round => (items.drop (round * size)).take size) =
      items.take (rounds * size) := by
  induction rounds with
  | zero => rw [Nat.zero_mul]; rfl
  | succ rounds inductionHypothesis =>
      rw [List.range_succ, List.flatMap_append, inductionHypothesis, List.flatMap_singleton,
        ← List.take_add, Nat.succ_mul]

/-- Taking the items of all receivers in turn gives back what was dealt. -/
theorem takenInTurn_dealt (isGroup : 0 < size) (items : List β) :
    takenInTurn ((List.range size).map fun (rank : Nat) => dealt size rank items) = items := by
  have rounds (round : Nat) :
      ((List.range size).map fun (rank : Nat) => dealt size rank items).filterMap
        (fun share => share[round]?) = (items.drop (round * size)).take size := by
    rw [List.filterMap_map]
    exact taken_round (Nat.le_refl size) items round
  have noneLeft : items.length ≤ (dealt size (0 : Nat) items).length * size := by
    have atEnd : (dealt size (0 : Nat) items)[(dealt size (0 : Nat) items).length]? = none :=
      List.getElem?_eq_none (Nat.le_refl _)
    rw [getElem?_dealt isGroup, Nat.zero_add] at atEnd
    exact List.getElem?_eq_none_iff.mp atEnd
  -- The first receiver has as many items as any, so there are enough rounds for all.
  have enough : (dealt size (0 : Nat) items).length ≤
      (((List.range size).map fun (rank : Nat) => dealt size rank items).map
        List.length).foldr max 0 := by
    have isFirst : dealt size (0 : Nat) items ∈
        (List.range size).map fun (rank : Nat) => dealt size rank items :=
      List.mem_map_of_mem (List.mem_range.mpr isGroup)
    exact List.le_max_of_le (List.mem_map_of_mem isFirst) (Nat.le_refl _)
  unfold takenInTurn
  simp only [rounds, flatMap_rows]
  exact List.take_of_length_le (Nat.le_trans noneLeft (Nat.mul_le_mul_right size enough))

end Shares

end FieldSurvey
