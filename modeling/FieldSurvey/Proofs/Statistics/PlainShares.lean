import Mathlib.Algebra.BigOperators.Ring.Finset
import FieldSurvey.Proofs.Statistics.Counting
import FieldSurvey.Proofs.Statistics.Vote

/-!
Shares of a field that are plain columns of numbers, of any type that has the operations of numbers.
Three searches decide whether there is anything to report: an average by a count over the group, an
extreme entry by what the search of an array finds and then by a vote. They come to one decision, for
each counts or finds something exactly where some entry is defined.
-/

namespace FieldSurvey

open ProcessGroup Collective OwnExtremum

/-- A part of a field that is one column of numbers, each of which has a place that can be told. -/
structure PlainColumn (α : Type) where
  part : FieldPart α
  numbers : List α
  entries : part.entries = .ok (.reals numbers)
  places : ∀ index number, numbers[index]? = some number →
    (∃ position, part.locate index = .ok position) ∧
    ∃ domain, part.domainId = .ok domain ∧ -(2 ^ 63) ≤ domain ∧ domain < 2 ^ 64

def FieldShare.ofColumns {α : Type} (name label : String) (columns : List (PlainColumn α)) :
    FieldShare α :=
  ⟨name, label, .ok (columns.map PlainColumn.part)⟩

/-- All entries of some columns. -/
def columnNumbers {α : Type} (columns : List (PlainColumn α)) : List α :=
  columns.flatMap PlainColumn.numbers

variable {α β ω : Type} [Scalar α] {name label : String}

section Sums

/-- The sum of the defined entries of a column, and their number. -/
def definedSum (numbers : List α) : α × Nat :=
  let defined := numbers.filter fun number => !Scalar.isUndefined number
  if defined.isEmpty then (Scalar.zero, 0) else (blockedSum defined, defined.length)

theorem Entries.sum_eq_definedSum (numbers : List α) :
    (Entries.reals numbers).sum = .ok (definedSum numbers) := by
  unfold Entries.sum definedSum
  dsimp only
  split <;> rfl

theorem definedSum_count (numbers : List α) :
    (definedSum numbers).2 = numbers.countP fun number => !Scalar.isUndefined number := by
  obtain ⟨total, summed⟩ := Entries.sum_reals numbers
  rw [Entries.sum_eq_definedSum] at summed
  rw [Except.ok.inj summed]

/-- What a process adds up in its own columns. -/
def columnsTotal (columns : List (PlainColumn α)) : FieldSum α :=
  columns.foldl (fun sum column =>
    ⟨sum.total + (definedSum column.numbers).1, sum.count + (definedSum column.numbers).2⟩)
    ⟨Scalar.zero, 0⟩

theorem columnsTotal_append (columns : List (PlainColumn α)) (last : PlainColumn α) :
    columnsTotal (columns ++ [last]) =
      ⟨(columnsTotal columns).total + (definedSum last.numbers).1,
        (columnsTotal columns).count + (definedSum last.numbers).2⟩ := by
  unfold columnsTotal
  rw [List.foldl_append]
  rfl

theorem FieldShare.ownSum_ofColumns (columns : List (PlainColumn α)) :
    (FieldShare.ofColumns name label columns).ownSum = .ok (columnsTotal columns) := by
  have totalled : ∃ sum, (columns.foldlM (fun sum column => do
      let entries ← column.part.entries
      let found ← entries.sum
      return (⟨sum.total + found.1, sum.count + found.2⟩ : FieldSum α))
        ⟨Scalar.zero, 0⟩ : Except Error (FieldSum α)) = .ok sum ∧ sum = columnsTotal columns := by
    refine foldlM_reaches (fun passed sum => sum = columnsTotal passed) ?_ rfl
    intro passed column sum _ isTotal
    refine ⟨columnsTotal (passed ++ [column]), ?_, rfl⟩
    rw [column.entries, ok_bind, Entries.sum_eq_definedSum, columnsTotal_append, isTotal]
    rfl
  obtain ⟨sum, passed, isTotal⟩ := totalled
  unfold FieldShare.ownSum FieldShare.foldEntries FieldShare.ofColumns
  rw [ok_bind, List.foldlM_map, ← isTotal]
  exact passed

/-- The count over some columns is the number of their defined entries. -/
theorem columnsTotal_count (columns : List (PlainColumn α)) :
    (columnsTotal columns).count =
      (columnNumbers columns).countP fun number => !Scalar.isUndefined number := by
  induction columns using List.reverseRecOn with
  | nil => rfl
  | append_singleton earlier last inductionHypothesis =>
      rw [columnsTotal_append, inductionHypothesis, definedSum_count]
      unfold columnNumbers
      rw [List.flatMap_append, List.countP_append, Nat.cast_add, List.flatMap_singleton]

end Sums

section Searches

/-- How an entry is ranked in a search: an undefined one counts as the worst of all. -/
def Extreme.rankedAs (extreme : Extreme) (number : α) : α :=
  if Scalar.isUndefined number then extreme.worst else number

theorem Extreme.rankedAs_of_isUndefined {extreme : Extreme} {number : α}
    (isUndefined : Scalar.isUndefined number = true) : extreme.rankedAs number = extreme.worst :=
  if_pos isUndefined

theorem Extreme.rankedAs_of_isDefined {extreme : Extreme} {number : α}
    (isDefined : Scalar.isUndefined number = false) : extreme.rankedAs number = number :=
  if_neg (Bool.eq_false_iff.mp isDefined)

variable (extreme : Extreme)

/-- The search of a column with a defined entry finds the entry whose rank is the first best. -/
theorem Entries.extremum_of_defined {numbers : List α}
    (someDefined : ∃ number ∈ numbers, Scalar.isUndefined number = false) :
    ∃ value index, (Entries.reals numbers).extremum extreme = .ok (some (value, index)) ∧
      numbers[index]? = some value ∧
      firstBest? extreme.beats (numbers.map extreme.rankedAs) =
        some (index, extreme.rankedAs value) := by
  obtain ⟨number, isEntry, isDefined⟩ := someDefined
  have notAll : ¬ numbers.all Scalar.isUndefined = true := by
    rw [List.all_eq_true]
    intro allUndefined
    rw [allUndefined number isEntry] at isDefined
    cases isDefined
  have someRank : numbers.map extreme.rankedAs ≠ [] :=
    List.map_eq_nil_iff.not.mpr (List.ne_nil_of_mem isEntry)
  obtain ⟨index, best, found⟩ : ∃ index best,
      firstBest? extreme.beats (numbers.map extreme.rankedAs) = some (index, best) :=
    firstBest?_isSome someRank
  have stands := firstBest?_stands found
  rw [List.getElem?_map] at stands
  obtain ⟨value, atIndex, rfl⟩ := Option.map_eq_some_iff.mp stands
  refine ⟨value, index, ?_, atIndex, found⟩
  have searched : (Entries.reals numbers).extremum extreme =
      .ok ((firstBest? extreme.beats (numbers.map extreme.rankedAs)).bind fun first =>
        numbers[first.1]?.bind fun number => some (number, first.1)) := if_neg notAll
  rw [searched, found, Option.bind_some, atIndex, Option.bind_some]

/-- What the search of a part finds. -/
def FieldPart.found? (part : FieldPart α) : Option (α × Nat) :=
  match part.entries >>= Entries.extremum extreme with
  | .ok found => found
  | .error _ => none

namespace PlainColumn

theorem extremum_eq (column : PlainColumn α) :
    (Entries.reals column.numbers).extremum extreme = .ok (column.part.found? extreme) := by
  unfold FieldPart.found?
  rw [column.entries, ok_bind]
  cases searched : (Entries.reals column.numbers).extremum extreme with
  | ok found => rfl
  | error cause =>
      unfold Entries.extremum at searched
      dsimp only at searched
      split at searched <;> cases searched

theorem found?_eq_none_iff {column : PlainColumn α} :
    column.part.found? extreme = none ↔
      ∀ number ∈ column.numbers, Scalar.isUndefined number = true := by
  constructor
  · intro noneFound number isEntry
    by_contra isDefined
    obtain ⟨value, index, found, _⟩ :=
      Entries.extremum_of_defined extreme ⟨number, isEntry, Bool.eq_false_iff.mpr isDefined⟩
    rw [column.extremum_eq, noneFound] at found
    cases found
  · intro noneDefined
    have searched : (Entries.reals column.numbers).extremum extreme = .ok none :=
      if_pos (List.all_eq_true.mpr noneDefined)
    rw [column.extremum_eq] at searched
    exact Except.ok.inj searched

theorem exists_defined_of_found? {column : PlainColumn α} {item : α × Nat}
    (found : column.part.found? extreme = some item) :
    ∃ number ∈ column.numbers, Scalar.isUndefined number = false := by
  by_contra noneDefined
  have nothing : column.part.found? extreme = none := by
    apply (found?_eq_none_iff extreme).mpr
    intro number isEntry
    by_contra isDefined
    exact noneDefined ⟨number, isEntry, Bool.eq_false_iff.mpr isDefined⟩
  rw [found] at nothing
  cases nothing

theorem found?_eq_some {column : PlainColumn α} {value : α} {index : Nat}
    (found : column.part.found? extreme = some (value, index)) :
    column.numbers[index]? = some value ∧
      firstBest? extreme.beats (column.numbers.map extreme.rankedAs) =
        some (index, extreme.rankedAs value) := by
  obtain ⟨other, place, searched, stands, isFirst⟩ :=
    Entries.extremum_of_defined extreme (exists_defined_of_found? extreme found)
  rw [column.extremum_eq, found] at searched
  cases searched
  exact ⟨stands, isFirst⟩

/-- What a process finds in its own columns. -/
def best? (columns : List (PlainColumn α)) : Option (OwnExtremum α) :=
  leader (fun candidate best => extreme.beats candidate.value best.value)
    (columns.map fun column => (column.part.found? extreme).map fun item =>
      ⟨item.1, item.2, column.part⟩)

theorem ownExtremum_ofColumns (columns : List (PlainColumn α)) :
    (FieldShare.ofColumns name label columns).ownExtremum extreme =
      .ok (best? extreme columns) := by
  have scans : ∀ part ∈ columns.map PlainColumn.part, ∃ entries, part.entries = .ok entries ∧
      entries.extremum extreme = .ok (part.found? extreme) := by
    intro part isPart
    obtain ⟨column, _, rfl⟩ := List.mem_map.mp isPart
    exact ⟨_, column.entries, column.extremum_eq extreme⟩
  refine (foldlM_improve extreme (FieldPart.found? extreme) _ scans none).trans ?_
  rw [List.map_map]
  rfl

theorem best?_eq_none_iff {columns : List (PlainColumn α)} :
    best? extreme columns = none ↔
      ∀ number ∈ columnNumbers columns, Scalar.isUndefined number = true := by
  unfold best? columnNumbers
  simp only [leader_eq_none, List.forall_mem_map, Option.map_eq_none_iff, found?_eq_none_iff,
    List.forall_mem_flatMap]

theorem best?_eq_some {columns : List (PlainColumn α)} {own : OwnExtremum α}
    (leads : best? extreme columns = some own) :
    ∃ column ∈ columns, own.part = column.part ∧
      column.part.found? extreme = some (own.value, own.index) := by
  obtain ⟨column, isColumn, same⟩ := List.mem_map.mp (leader_mem leads)
  obtain ⟨item, found, rfl⟩ := Option.map_eq_some_iff.mp same
  exact ⟨column, isColumn, rfl, found⟩

/-- A process can tell where the entry is that it finds. -/
theorem exists_place_of_best? {columns : List (PlainColumn α)} {own : OwnExtremum α}
    (leads : best? extreme columns = some own) (group : ProcessGroup) :
    ∃ position domain, group.placeOffer (told (some own)) group.rank =
      .ok (.place position domain) := by
  obtain ⟨column, _, samePart, found⟩ := best?_eq_some extreme leads
  obtain ⟨⟨position, located⟩, domain, numbered, fits⟩ :=
    column.places own.index own.value (found?_eq_some extreme found).1
  refine ⟨position, domain, placeOffer_of_place ?_ ?_ fits.1 fits.2⟩
  · rw [samePart]
    exact located
  · rw [samePart]
    exact numbered

end PlainColumn

end Searches

section Groups

variable {kind : GroupKind} {shares : List ω} (columnsOf : ω → List (PlainColumn α))

/-- The entries of all processes. -/
def sharedNumbers (shares : List ω) : List α :=
  shares.flatMap fun share => columnNumbers (columnsOf share)

/-- What all processes add up together. -/
def sharedTotal (shares : List ω) : FieldSum α :=
  ⟨joinReals (· + ·) (shares.map fun share => (columnsTotal (columnsOf share)).total),
    (shares.map fun share => (columnsTotal (columnsOf share)).count).sum⟩

theorem sharedTotal_count (shares : List ω) :
    (sharedTotal columnsOf shares).count =
      (sharedNumbers columnsOf shares).countP fun number => !Scalar.isUndefined number := by
  unfold sharedTotal sharedNumbers
  simp only [columnsTotal_count, List.countP_flatMap]
  rw [Nat.cast_list_sum, List.map_map]
  rfl

/-- A group counts nothing just if no process has a defined entry. -/
theorem sharedTotal_count_eq_zero_iff :
    (sharedTotal columnsOf shares).count = 0 ↔
      ∀ number ∈ sharedNumbers columnsOf shares, Scalar.isUndefined number = true := by
  rw [sharedTotal_count, Int.natCast_eq_zero, List.countP_eq_zero]
  simp only [Bool.not_eq_true', Bool.not_eq_false]

namespace PlainColumn

/-- The vote on what the processes find in their own columns. -/
def elected? (extreme : Extreme) (shares : List ω) : Option (α × Nat) :=
  select extreme (shares.map fun share => submission (best? extreme (columnsOf share)))

theorem elected?_eq_leader (extreme : Extreme) (shares : List ω) :
    elected? columnsOf extreme shares =
      leader (fun candidate best => extreme.beats candidate.1 best.1)
        (shares.zipIdx.map fun item => (best? extreme (columnsOf item.1)).map fun own =>
          (own.value, item.2)) := by
  unfold elected?
  rw [select_eq_leader]
  unfold presentSubmissions
  rw [List.zipIdx_map, List.map_map]
  congr 1
  apply List.map_congr_left
  intro item _
  cases own : best? extreme (columnsOf item.1) with
  | none => simp [submission, own]
  | some found => simp [submission, own]

/-- A group elects nobody just if no process has a defined entry. -/
theorem elected?_eq_none_iff {extreme : Extreme} :
    elected? columnsOf extreme shares = none ↔
      ∀ number ∈ sharedNumbers columnsOf shares, Scalar.isUndefined number = true := by
  unfold sharedNumbers
  rw [elected?_eq_leader]
  simp only [leader_eq_none, List.forall_mem_map, Option.map_eq_none_iff, best?_eq_none_iff,
    List.forall_mem_flatMap]
  -- The ranks say who is elected, but not whether anybody is.
  have unnumbered := List.forall_mem_map (l := shares.zipIdx) (f := Prod.fst)
    (P := fun share => ∀ number ∈ columnNumbers (columnsOf share), Scalar.isUndefined number = true)
  rw [List.zipIdx_map_fst] at unnumbered
  exact unnumbered.symm

end PlainColumn

variable (connects : kind.Connects shares.length)

include connects

/-- No process can fail in its own columns, so all take part in the vote. -/
theorem together_extremum (extreme : Extreme)
    (next : ProcessGroup → ω → FieldExtremum α → Collective α β) :
    together kind (fun group share =>
        (FieldShare.ofColumns name label (columnsOf share)).extremum extreme group >>=
          next group share) shares =
      together kind (fun group share =>
        group.afterElection name (PlainColumn.best? extreme (columnsOf share))
          (PlainColumn.elected? columnsOf extreme shares) >>= next group share) shares := by
  simp only [FieldShare.extremum_eq, bind_bind, PlainColumn.ownExtremum_ofColumns]
  have selected := selectExtreme_all connects extreme
    (fun seat => submission (PlainColumn.best? extreme (columnsOf seat.2)))
    fun seat winner => seat.1.afterElection name (PlainColumn.best? extreme (columnsOf seat.2))
      winner >>= next seat.1 seat.2
  rw [map_seats_share kind fun share => submission (PlainColumn.best? extreme (columnsOf share))]
    at selected
  exact selected

/-- The process that the vote elects tells the others where its entry lies, and all go on with one
record. -/
theorem together_extremum_of_elected {extreme : Extreme} {value : α} {rank : Nat}
    (elected : PlainColumn.elected? columnsOf extreme shares = some (value, rank)) :
    ∃ domain position, ∀ next : ProcessGroup → ω → FieldExtremum α → Collective α β,
      together kind (fun group share =>
        (FieldShare.ofColumns name label (columnsOf share)).extremum extreme group >>=
          next group share) shares =
      together kind (fun group share => next group share ⟨value, rank, domain, position⟩) shares := by
  have chosen := elected
  unfold PlainColumn.elected? at chosen
  rw [← map_seats_share kind fun share => submission (PlainColumn.best? extreme (columnsOf share))]
    at chosen
  obtain ⟨teller, isSeat, rfl, submitted⟩ := exists_chosen chosen
  obtain ⟨own, found⟩ : ∃ own, PlainColumn.best? extreme (columnsOf teller.2) = some own := by
    rw [← Option.isSome_iff_exists]
    exact congrArg Prod.snd submitted
  obtain ⟨position, domain, tells⟩ := PlainColumn.exists_place_of_best? extreme found teller.1
  rw [← found] at tells
  refine ⟨domain, position, fun next => ?_⟩
  rw [together_extremum columnsOf connects, elected]
  simp only [afterElection, bind_bind]
  exact broadcastPlace_all connects
    (fun seat => told (PlainColumn.best? extreme (columnsOf seat.2))) isSeat tells
    fun seat place => next seat.1 seat.2 ⟨value, teller.1.rank, place.2, place.1⟩

theorem together_extremum_of_undefined (extreme : Extreme)
    (noneDefined : ∀ number ∈ sharedNumbers columnsOf shares, Scalar.isUndefined number = true)
    (next : ProcessGroup → ω → FieldExtremum α → Collective α β) :
    together kind (fun group share =>
        (FieldShare.ofColumns name label (columnsOf share)).extremum extreme group >>=
          next group share) shares =
      shares.map fun _ => .error (.noDefinedValues name) := by
  rw [together_extremum columnsOf connects,
    (PlainColumn.elected?_eq_none_iff columnsOf).mpr noneDefined]
  exact together_finish _

theorem together_sum_ofColumns (conclude : FieldSum α → Except Error β) :
    together kind (fun group share =>
        (FieldShare.ofColumns name label (columnsOf share)).sum group >>= fun sum =>
          Collective.ofExcept (conclude sum)) shares =
      shares.map fun _ => conclude (sharedTotal columnsOf shares) :=
  FieldShare.together_sum connects _ _ (fun _ _ => FieldShare.ownSum_ofColumns _) conclude

theorem together_average_ofColumns (conclude : α → β) :
    together kind (fun group share =>
        (FieldShare.ofColumns name label (columnsOf share)).average group >>= fun mean =>
          pure (conclude mean)) shares =
      shares.map fun _ => conclude <$> (sharedTotal columnsOf shares).mean? name := by
  simp only [FieldShare.average_bind]
  exact together_sum_ofColumns columnsOf connects fun sum => conclude <$> sum.mean? name

end Groups

end FieldSurvey
