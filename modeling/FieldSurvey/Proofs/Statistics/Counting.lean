import FieldSurvey.Proofs.Group.Shares
import FieldSurvey.Proofs.Statistics.Histogram

/-!
What a process counts in its own domains, and what the processes count together. A count goes through
the domains one by one, so that it adds up to the same in whichever way the domains are dealt. Of
numbers, those that are undefined and those that are summed make up all entries.
-/

-- The sums of whole numbers start from the built-in zero.
attribute [local instance (1100)] Zero.ofOfNat0

namespace FieldSurvey

section Dealt

variable {domains : Dataset} {datasets : List Dataset}

theorem Dataset.share_subset (dealt : datasets.flatten.Perm domains) {dataset : Dataset}
    (isShare : dataset ∈ datasets) : dataset ⊆ domains := by
  intro domain isOwn
  exact dealt.mem_iff.mp (List.mem_flatten.mpr ⟨dataset, isShare, isOwn⟩)

/-- What is looked up in the domains and counted adds up to the same, whichever way the domains are
dealt. -/
theorem Dataset.sum_dealt {β : Type} (dealt : datasets.flatten.Perm domains)
    (lookUp : Domain → Option β) (count : β → Int) :
    (datasets.map fun dataset => ((dataset.filterMap lookUp).map count).sum).sum =
      ((domains.filterMap lookUp).map count).sum := by
  have joined : (datasets.map fun dataset => ((dataset.filterMap lookUp).map count).sum).sum =
      ((datasets.flatten.filterMap lookUp).map count).sum := by
    rw [List.filterMap_flatten, List.map_flatten, List.sum_flatten, List.map_map, List.map_map]
    rfl
  rw [joined]
  exact ((dealt.filterMap lookUp).map count).sum_eq

end Dealt

section Fields

open ProcessGroup Collective

variable {α β ω : Type}

def FieldPart.count (measure : Entries α → Except Error Nat) (part : FieldPart α) :
    Except Error Int := do
  let entries ← part.entries
  let count ← measure entries
  return count

/-- The counts of the entries in each domain of a share. -/
def FieldShare.counts (measure : Entries α → Except Error Nat) (share : FieldShare α) :
    Except Error (List Int) := do
  let parts ← share.parts
  parts.mapM (FieldPart.count measure)

/-- A pass that adds a count to its state for each domain ends with the sum of these counts. -/
theorem FieldShare.foldEntries_count {measure : Entries α → Except Error Nat} {read : β → Int}
    {step : β → FieldPart α → Entries α → Except Error β}
    (adds : ∀ state part entries,
      read <$> step state part entries = (fun more : Nat => read state + more) <$> measure entries)
    (start : β) (share : FieldShare α) :
    read <$> share.foldEntries step start =
      (fun counts : List Int => read start + counts.sum) <$> share.counts measure := by
  have addsPart (state : β) (part : FieldPart α) :
      read <$> (part.entries >>= step state part) = (read state + ·) <$> part.count measure := by
    unfold FieldPart.count
    rw [map_bind, map_bind]
    congr 1
    funext entries
    rw [adds, map_bind]
    rfl
  unfold foldEntries counts
  rw [map_bind, map_bind]
  congr 1
  funext parts
  rw [foldlM_reading addsPart]
  congr 1
  funext counts
  exact List.foldl_eq_apply_foldr

theorem FieldShare.ownSum_count [Scalar α] (share : FieldShare α) :
    FieldSum.count <$> share.ownSum =
      List.sum <$> share.counts fun entries => Prod.snd <$> entries.sum := by
  have adds (state : FieldSum α) (part : FieldPart α) (entries : Entries α) :
      FieldSum.count <$> (do
        let found ← entries.sum
        return (⟨state.total + found.1, state.count + found.2⟩ : FieldSum α) :
          Except Error (FieldSum α)) =
        (fun more : Nat => state.count + more) <$> (Prod.snd <$> entries.sum) := by
    cases entries.sum <;> rfl
  have passed := foldEntries_count adds ⟨Scalar.zero, 0⟩ share
  simp only [Int.zero_add] at passed
  exact passed

theorem FieldShare.ownCount_eq (pick : Entries α → Nat) (share : FieldShare α) :
    share.ownCount pick = List.sum <$> share.counts fun entries => .ok (pick entries) := by
  have adds (state : Int) (part : FieldPart α) (entries : Entries α) :
      id <$> (.ok (state + pick entries) : Except Error Int) =
        (fun more : Nat => id state + more) <$> (.ok (pick entries) : Except Error Nat) := rfl
  have passed := foldEntries_count adds 0 share
  rw [id_map] at passed
  simp only [id, Int.zero_add] at passed
  exact passed

theorem FieldShare.together_sum [Scalar α] {kind : GroupKind} {shares : List ω}
    (connects : kind.Connects shares.length) (shareOf : ω → FieldShare α) (own : ω → FieldSum α)
    (finds : ∀ share ∈ shares, (shareOf share).ownSum = .ok (own share))
    (conclude : FieldSum α → Except Error β) :
    together kind (fun group share => (shareOf share).sum group >>= fun sum =>
        Collective.ofExcept (conclude sum)) shares =
      shares.map fun _ => conclude ⟨joinReals (· + ·) (shares.map fun share => (own share).total),
        (shares.map fun share => (own share).count).sum⟩ := by
  unfold FieldShare.sum
  simp only [liftM_eq_ofExcept, bind_bind]
  rw [together_own_step _ own finds, together_rank connects, together_log,
    together_reduceReal connects rfl, together_sumWhole connects]
  exact together_finish _

/-- A column of truth values, whole numbers or real numbers. -/
def Column.HoldsNumbers : Column ω → Prop
  | .truth _ => True
  | .int _ _ => True
  | .float _ _ => True
  | _ => False

theorem Entries.sum_reals [Scalar α] (numbers : List α) :
    ∃ total, (Entries.reals numbers).sum =
      .ok (total, numbers.countP fun number => !Scalar.isUndefined number) := by
  rw [List.countP_eq_length_filter]
  unfold Entries.sum
  by_cases noneDefined : (numbers.filter fun number => !Scalar.isUndefined number).isEmpty
  · refine ⟨Scalar.zero, ?_⟩
    simp only [List.isEmpty_iff.mp noneDefined]
    rfl
  · refine ⟨blockedSum (numbers.filter fun number => !Scalar.isUndefined number), ?_⟩
    simp only [if_neg noneDefined]

theorem Entries.sum_wholes [Scalar α] (numbers : List Int) :
    ∃ total, (Entries.wholes numbers : Entries α).sum = .ok (total, numbers.length) := by
  unfold Entries.sum
  by_cases noEntries : (Entries.wholes numbers : Entries α).count = 0
  · refine ⟨Scalar.zero, ?_⟩
    simp only [if_pos noEntries]
    exact congrArg (fun count => Except.ok (Scalar.zero, count)) noEntries.symm
  · refine ⟨blockedSum (numbers.map Scalar.ofInt), ?_⟩
    simp only [if_neg noEntries]
    rfl

/-- Entries that are not undefined. -/
def Entries.definedCount [Scalar α] : Entries α → Nat
  | reals entries => entries.countP fun number => !Scalar.isUndefined number
  | complexes entries =>
      entries.countP fun parts => !(Scalar.isUndefined parts.1 || Scalar.isUndefined parts.2)
  | entries => entries.count

theorem Entries.definedCount_add_undefinedCount [Scalar α] (entries : Entries α) :
    entries.definedCount + entries.undefinedCount = entries.count := by
  have counted {γ : Type} (isUndefined : γ → Bool) (items : List γ) :
      (items.countP fun item => !isUndefined item) + items.countP isUndefined = items.length := by
    have all := List.length_eq_countP_add_countP isUndefined (l := items)
    simp only [Bool.not_eq_true, Bool.decide_eq_false] at all
    exact (Nat.add_comm _ _).trans all.symm
  cases entries with
  | reals entries => exact counted Scalar.isUndefined entries
  | complexes entries =>
      exact counted (fun parts => Scalar.isUndefined parts.1 || Scalar.isUndefined parts.2) entries
  | _ => rfl

/-- Of a column of numbers those are summed that are not undefined. -/
theorem Column.sum_entries {column : Column Value} (numbers : column.HoldsNumbers) :
    ∃ total, column.entries.sum = .ok (total, column.entries.definedCount) := by
  cases column with
  | truth entries =>
      obtain ⟨total, summed⟩ := Entries.sum_wholes (α := Float)
        (entries.map fun entry => if entry then 1 else 0)
      exact ⟨total, summed⟩
  | int type entries =>
      obtain ⟨total, summed⟩ := Entries.sum_wholes (α := Float) (entries.map type.read)
      exact ⟨total, summed⟩
  | float width entries =>
      obtain ⟨total, summed⟩ := Entries.sum_reals (entries.map width.toFloat)
      exact ⟨total, summed⟩
  | _ => exact numbers.elim

/-- Wherever a field is defined, it is a single column of numbers. -/
def Dataset.HoldsNumbers (name : String) (dataset : Dataset) : Prop :=
  ∀ holder ∈ dataset.holders name, ∃ column,
    holder.2.scalarColumn = .ok column ∧ column.HoldsNumbers

def Field.countOf (pick : Entries Float → Nat) (field : Field) : Nat :=
  match field.scalarColumn with
  | .ok column => pick column.entries
  | .error _ => 0

/-- A count of the entries of a field, over all domains that define it. -/
def Dataset.countOf (pick : Entries Float → Nat) (name : String) (dataset : Dataset) : Int :=
  ((dataset.holders name).map fun holder => (holder.2.countOf pick : Int)).sum

variable {name : String} {dataset : Dataset}

namespace Dataset.HoldsNumbers

/-- Every domain that defines a field of numbers can be counted. -/
theorem counts_eq (numbers : dataset.HoldsNumbers name)
    {measure : Entries Float → Except Error Nat} (count : Field → Nat)
    (counted : ∀ field column, field.scalarColumn = .ok column → column.HoldsNumbers →
      measure column.entries = .ok (count field)) :
    (dataset.fieldShare (.text name)).counts measure =
      .ok ((dataset.holders name).map fun holder => (count holder.2 : Int)) := by
  unfold FieldShare.counts Dataset.fieldShare
  simp only [havingField_text, ok_bind, pure_eq_ok]
  apply mapM_map_of_forall_ok
  intro holder isHolder
  obtain ⟨column, isColumn, areNumbers⟩ := numbers holder isHolder
  unfold FieldPart.count Domain.fieldPart
  simp only [isColumn, ok_bind, pure_eq_ok, counted holder.2 column isColumn areNumbers]

theorem counts_pick (numbers : dataset.HoldsNumbers name) (pick : Entries Float → Nat) :
    (dataset.fieldShare (.text name)).counts (fun entries => .ok (pick entries)) =
      .ok ((dataset.holders name).map fun holder => (holder.2.countOf pick : Int)) := by
  apply numbers.counts_eq (Field.countOf pick)
  intro field column isColumn _
  simp only [Field.countOf, isColumn]

theorem counts_summed (numbers : dataset.HoldsNumbers name) :
    (dataset.fieldShare (.text name)).counts (fun entries => Prod.snd <$> entries.sum) =
      .ok ((dataset.holders name).map fun holder =>
        (holder.2.countOf Entries.definedCount : Int)) := by
  apply numbers.counts_eq (Field.countOf Entries.definedCount)
  intro field column isColumn areNumbers
  obtain ⟨total, summed⟩ := column.sum_entries areNumbers
  simp only [Field.countOf, isColumn, summed]
  rfl

theorem of_subset {part : Dataset} (numbers : dataset.HoldsNumbers name) (isPart : part ⊆ dataset) :
    part.HoldsNumbers name := by
  intro holder isHolder
  obtain ⟨domain, isOwn, defines⟩ := List.mem_filterMap.mp isHolder
  exact numbers holder (List.mem_filterMap.mpr ⟨domain, isPart isOwn, defines⟩)

end Dataset.HoldsNumbers

/-- The entries that are defined and those that are undefined are all entries. -/
theorem Dataset.countOf_defined_add_undefined (name : String) (dataset : Dataset) :
    dataset.countOf Entries.definedCount name + dataset.countOf Entries.undefinedCount name =
      dataset.countOf Entries.count name := by
  unfold countOf
  rw [← List.sum_map_add]
  congr 1
  apply List.map_congr_left
  intro holder _
  unfold Field.countOf
  split
  · rename_i column _
    have all := column.entries.definedCount_add_undefinedCount
    omega
  · rfl

end Fields

end FieldSurvey
