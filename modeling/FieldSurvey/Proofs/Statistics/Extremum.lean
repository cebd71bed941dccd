import FieldSurvey.Proofs.Kernel.Search
import FieldSurvey.Proofs.Packed.Limits
import FieldSurvey.Proofs.Statistics.Vote

/-!
Extreme entries of a field that is spread over a group. On columns of doubles or narrower reals the
search is exact: it finds the first best defined entry of the first domain of the lowest rank, and
all processes learn of it. How a group ends in general is decided by what its processes do by
themselves, which includes that the winner of the vote looks up its place.
-/

namespace FieldSurvey

open ProcessGroup OwnExtremum

def extremumProgram (extreme : Extreme) (field : Value) (group : ProcessGroup) (dataset : Dataset) :
    Collective Float (FieldExtremum Float) :=
  (dataset.fieldShare field).loggedExtremum extreme group

section Entries

def Field.reals? (field : Field) : Option (List Float) :=
  match field.values with
  | .scalar (.float width words) => some (words.map width.toFloat)
  | _ => none

def Dataset.holders (name : String) (dataset : Dataset) : List (Domain × Field) :=
  dataset.filterMap fun domain => (domain.fields.find? name).map (domain, ·)

/-- The entry of a field on the process of a rank, at an index in one of the domains that define it
there. -/
def entryAt? (name : String) (datasets : List Dataset) (rank place index : Nat) : Option Float := do
  let dataset ← datasets[rank]?
  let holder ← (dataset.holders name)[place]?
  let entries ← holder.2.reals?
  entries[index]?

/-- Wherever a field is defined it is one column of reals, and these are finite or undefined. -/
def HoldsPlainReals (name : String) (datasets : List Dataset) : Prop :=
  ∀ dataset ∈ datasets, ∀ holder ∈ dataset.holders name, ∃ entries, holder.2.reals? = some entries ∧
    ∀ number ∈ entries, Scalar.isFinite number = true ∨ Scalar.isUndefined number = true

/-- Wherever a field is defined it is one column of reals, and the search of these cannot stop at an
undefined one. -/
def HoldsSearchedReals (extreme : Extreme) (name : String) (datasets : List Dataset) : Prop :=
  ∀ dataset ∈ datasets, ∀ holder ∈ dataset.holders name, ∃ entries, holder.2.reals? = some entries ∧
    extreme.Searches entries

/-- Wherever a field is defined it is one column of reals. -/
def HoldsReals (name : String) (datasets : List Dataset) : Prop :=
  ∀ dataset ∈ datasets, ∀ holder ∈ dataset.holders name, ∃ entries, holder.2.reals? = some entries

instance (name : String) (datasets : List Dataset) : Decidable (HoldsReals name datasets) :=
  decidable_of_iff (∀ dataset ∈ datasets, ∀ holder ∈ dataset.holders name,
      holder.2.reals?.isSome = true)
    (by simp only [HoldsReals, Option.isSome_iff_exists])

theorem HoldsSearchedReals.reals {extreme : Extreme} {name : String} {datasets : List Dataset}
    (searched : HoldsSearchedReals extreme name datasets) : HoldsReals name datasets := by
  intro dataset isShare holder isHolder
  obtain ⟨entries, areReals, _⟩ := searched dataset isShare holder isHolder
  exact ⟨entries, areReals⟩

theorem HoldsPlainReals.searched {name : String} {datasets : List Dataset}
    (plain : HoldsPlainReals name datasets) (extreme : Extreme) :
    HoldsSearchedReals extreme name datasets := by
  intro dataset isShare holder isHolder
  obtain ⟨entries, areReals, arePlain⟩ := plain dataset isShare holder isHolder
  exact ⟨entries, areReals, extreme.searches_of_plain arePlain⟩

/-- An entry is the first extreme one: it is defined, no entry of any process beats it, no process of
a lower rank has an entry equal to it, and neither has an earlier domain of its process or an earlier
index of its domain. -/
structure IsFirstExtreme (extreme : Extreme) (entry : Nat → Nat → Nat → Option Float)
    (value : Float) (rank place index : Nat) : Prop where
  stands : entry rank place index = some value
  isDefined : Scalar.isUndefined value = false
  unbeaten : ∀ otherRank otherPlace otherIndex other,
    entry otherRank otherPlace otherIndex = some other → extreme.beats other value = false
  lowestRank : ∀ otherRank otherPlace otherIndex other, otherRank < rank →
    entry otherRank otherPlace otherIndex = some other → Scalar.eq other value = false
  firstDomain : ∀ otherPlace otherIndex other, otherPlace < place →
    entry rank otherPlace otherIndex = some other → Scalar.eq other value = false
  firstIndex : ∀ otherIndex other, otherIndex < index →
    entry rank place otherIndex = some other → Scalar.eq other value = false

end Entries

section Levels

variable (extreme : Extreme) (name : String)

def Dataset.partBests (dataset : Dataset) : List (Option (OwnExtremum Float)) :=
  (dataset.holders name).map fun holder =>
    (extreme.ofEntries (holder.2.reals?.getD [])).map fun item =>
      ⟨item.1, item.2, holder.1.fieldPart name holder.2⟩

def Dataset.ownBest (dataset : Dataset) : Option (OwnExtremum Float) :=
  leader (fun candidate best => extreme.beats candidate.value best.value)
    (dataset.partBests extreme name)

variable {extreme name}

theorem havingField_text (dataset : Dataset) :
    dataset.havingField (.text name) = .ok (dataset.holders name) := by
  unfold Dataset.havingField Dataset.having Dataset.holders
  cases dataset with
  | nil => rfl
  | cons first rest => rfl

theorem HoldsReals.entries_eq {datasets : List Dataset} (holdsReals : HoldsReals name datasets)
    {dataset : Dataset} (isShare : dataset ∈ datasets) {holder : Domain × Field}
    (isHolder : holder ∈ dataset.holders name) :
    (holder.1.fieldPart name holder.2).entries = .ok (.reals (holder.2.reals?.getD [])) := by
  obtain ⟨entries, areReals⟩ := holdsReals dataset isShare holder isHolder
  rw [areReals, Option.getD_some]
  unfold Field.reals? at areReals
  unfold Domain.fieldPart Field.scalarColumn
  split at areReals
  · rename_i width words isColumn
    cases areReals
    simp only [isColumn]
    rfl
  · cases areReals

/-- What the search of a part that is one column of reals finds. -/
def foundInPart? (extreme : Extreme) (part : FieldPart Float) : Option (Float × Nat) :=
  match part.entries with
  | .ok (.reals entries) => extreme.foundIn entries
  | _ => none

/-- What a process finds among its own domains. -/
def Dataset.ownFound (extreme : Extreme) (name : String) (dataset : Dataset) :
    Option (OwnExtremum Float) :=
  leader (fun candidate best => extreme.beats candidate.value best.value)
    ((dataset.holders name).map fun holder =>
      (extreme.foundIn (holder.2.reals?.getD [])).map fun item =>
        ⟨item.1, item.2, holder.1.fieldPart name holder.2⟩)

theorem ownExtremum_found {datasets : List Dataset} (holdsReals : HoldsReals name datasets)
    {dataset : Dataset} (isShare : dataset ∈ datasets) :
    (dataset.fieldShare (.text name)).ownExtremum extreme = .ok (dataset.ownFound extreme name) := by
  have hasEntries : ∀ holder ∈ dataset.holders name,
      (holder.1.fieldPart name holder.2).entries =
        .ok (.reals (holder.2.reals?.getD [])) :=
    fun holder isHolder => holdsReals.entries_eq isShare isHolder
  have scans : ∀ part ∈ (dataset.holders name).map fun holder =>
      holder.1.fieldPart name holder.2,
      ∃ entries, part.entries = .ok entries ∧
        entries.extremum extreme = .ok (foundInPart? extreme part) := by
    intro part isPart
    obtain ⟨holder, isHolder, rfl⟩ := List.mem_map.mp isPart
    refine ⟨_, hasEntries holder isHolder, ?_⟩
    simp only [foundInPart?, hasEntries holder isHolder]
    exact Extreme.extremum_eq_foundIn
  unfold FieldShare.ownExtremum FieldShare.foldEntries Dataset.fieldShare
  simp only [havingField_text, ok_bind, pure_eq_ok]
  refine (foldlM_improve extreme (foundInPart? extreme) _ scans none).trans ?_
  unfold Dataset.ownFound leader
  rw [List.map_map]
  congr 2
  apply List.map_congr_left
  intro holder isHolder
  simp only [Function.comp_apply, foundInPart?, hasEntries holder isHolder]

theorem ownExtremum_eq {datasets : List Dataset}
    (searched : HoldsSearchedReals extreme name datasets)
    {dataset : Dataset} (isShare : dataset ∈ datasets) :
    (dataset.fieldShare (.text name)).ownExtremum extreme = .ok (dataset.ownBest extreme name) := by
  rw [ownExtremum_found searched.reals isShare]
  unfold Dataset.ownFound Dataset.ownBest Dataset.partBests
  congr 2
  apply List.map_congr_left
  intro holder isHolder
  obtain ⟨entries, areReals, searches⟩ := searched dataset isShare holder isHolder
  rw [areReals, Option.getD_some, Extreme.foundIn_of_searches searches]

theorem getElem?_partBests {dataset : Dataset} {place : Nat} {own : OwnExtremum Float} :
    (dataset.partBests extreme name)[place]? = some (some own) ↔
      ∃ holder, (dataset.holders name)[place]? = some holder ∧
        extreme.ofEntries (holder.2.reals?.getD []) = some (own.value, own.index) ∧
        own.part = holder.1.fieldPart name holder.2 := by
  unfold Dataset.partBests
  rw [List.getElem?_map]
  obtain ⟨value, index, part⟩ := own
  cases found : (dataset.holders name)[place]? with
  | none => simp
  | some holder =>
      cases best : extreme.ofEntries (holder.2.reals?.getD []) with
      | none => simp [best]
      | some item =>
          obtain ⟨number, stood⟩ := item
          simp only [Option.map_some, best, Option.some.injEq, OwnExtremum.mk.injEq]
          constructor
          · rintro ⟨rfl, rfl, rfl⟩
            exact ⟨holder, rfl, best, rfl⟩
          · rintro ⟨other, rfl, sameBest, rfl⟩
            rw [best, Option.some.injEq, Prod.mk.injEq] at sameBest
            exact ⟨sameBest.1, sameBest.2, rfl⟩

theorem isDefined_of_mem_partBests {dataset : Dataset} {own : OwnExtremum Float}
    (isMember : some own ∈ dataset.partBests extreme name) :
    Scalar.isUndefined own.value = false := by
  obtain ⟨place, found⟩ := List.getElem?_of_mem isMember
  obtain ⟨holder, _, best, _⟩ := getElem?_partBests.mp found
  exact (mem_definedEntries (leader_mem best)).2

theorem ownBest_isFirstBest {dataset : Dataset} {own : OwnExtremum Float}
    (found : dataset.ownBest extreme name = some own) :
    ∃ place, IsFirstBest (fun best : OwnExtremum Float => extreme.key best.value)
      (dataset.partBests extreme name) own place := by
  refine leader_isFirstBest _ ?_ found
  intro candidate old isCandidate isOld
  exact extreme.beats_eq (isDefined_of_mem_partBests isCandidate)
    (isDefined_of_mem_partBests isOld)

theorem entryAt?_eq_some {datasets : List Dataset} {rank place index : Nat} {number : Float} :
    entryAt? name datasets rank place index = some number ↔
      ∃ dataset holder entries, datasets[rank]? = some dataset ∧
        (dataset.holders name)[place]? = some holder ∧ holder.2.reals? = some entries ∧
        entries[index]? = some number := by
  unfold entryAt?
  simp only [Option.bind_eq_bind, Option.bind_eq_some_iff]
  constructor
  · rintro ⟨dataset, atRank, holder, atPlace, entries, areReals, stands⟩
    exact ⟨dataset, holder, entries, atRank, atPlace, areReals, stands⟩
  · rintro ⟨dataset, holder, entries, atRank, atPlace, areReals, stands⟩
    exact ⟨dataset, atRank, holder, atPlace, entries, areReals, stands⟩

theorem partBest_of_entry (extreme : Extreme) {dataset : Dataset} {holder : Domain × Field} {entries : List Float}
    {place index : Nat} {number : Float} (atPlace : (dataset.holders name)[place]? = some holder)
    (areReals : holder.2.reals? = some entries) (stands : entries[index]? = some number)
    (isDefined : Scalar.isUndefined number = false) :
    ∃ own : OwnExtremum Float, (dataset.partBests extreme name)[place]? = some (some own) ∧
      extreme.key own.value ≤ extreme.key number ∧
      (index < own.index → extreme.key own.value < extreme.key number) := by
  obtain ⟨value, stood, best, notBetter, worseBefore⟩ :=
    extreme.ofEntries_of_entry stands isDefined
  refine ⟨⟨value, stood, holder.1.fieldPart name holder.2⟩, ?_, notBetter, worseBefore⟩
  rw [getElem?_partBests]
  exact ⟨holder, atPlace, by rw [areReals]; exact best, rfl⟩

theorem ownBest_of_partBest {dataset : Dataset} {place : Nat} {own : OwnExtremum Float}
    (found : (dataset.partBests extreme name)[place]? = some (some own)) :
    ∃ best, dataset.ownBest extreme name = some best ∧
      extreme.key best.value ≤ extreme.key own.value := by
  cases bestFound : dataset.ownBest extreme name with
  | none =>
      have missing := leader_eq_none.mp
        (show leader _ (dataset.partBests extreme name) = none from bestFound)
      have isMissing := missing (some own) (List.mem_of_getElem? found)
      cases isMissing
  | some best =>
      obtain ⟨bestPlace, isBest⟩ := ownBest_isFirstBest bestFound
      exact ⟨best, rfl, isBest.least place own found⟩

def bestSubmissions (extreme : Extreme) (name : String) (datasets : List Dataset) :
    List (Float × Bool) :=
  datasets.map fun dataset => submission (dataset.ownBest extreme name)

theorem submission_of_ownBest {datasets : List Dataset} {rank : Nat} {dataset : Dataset}
    {best : OwnExtremum Float} (atRank : datasets[rank]? = some dataset)
    (found : dataset.ownBest extreme name = some best) :
    (presentSubmissions 0 (bestSubmissions extreme name datasets))[rank]? =
      some (some (best.value, rank)) := by
  rw [getElem?_presentSubmissions]
  refine ⟨?_, rfl⟩
  unfold bestSubmissions
  rw [List.getElem?_map, atRank, Option.map_some, found]
  rfl

theorem ownBest_of_submission {datasets : List Dataset} {rank : Nat} {item : Float × Nat}
    (found : (presentSubmissions 0 (bestSubmissions extreme name datasets))[rank]? =
      some (some item)) :
    item.2 = rank ∧ ∃ dataset best, datasets[rank]? = some dataset ∧
      dataset.ownBest extreme name = some best ∧ best.value = item.1 := by
  obtain ⟨submitted, sameRank⟩ := getElem?_presentSubmissions.mp found
  refine ⟨sameRank, ?_⟩
  unfold bestSubmissions at submitted
  rw [List.getElem?_map] at submitted
  cases atRank : datasets[rank]? with
  | none =>
      rw [atRank] at submitted
      cases submitted
  | some dataset =>
      rw [atRank, Option.map_some, Option.some.injEq] at submitted
      cases holds : dataset.ownBest extreme name with
      | none =>
          rw [holds] at submitted
          have isPresent : false = true := congrArg Prod.snd submitted
          cases isPresent
      | some best =>
          rw [holds] at submitted
          exact ⟨dataset, best, rfl, holds, congrArg Prod.fst submitted⟩

theorem select_isFirstBest {datasets : List Dataset} {value : Float} {rank : Nat}
    (chosen : select extreme (bestSubmissions extreme name datasets) = some (value, rank)) :
    IsFirstBest (fun item : Float × Nat => extreme.key item.1)
      (presentSubmissions 0 (bestSubmissions extreme name datasets)) (value, rank) rank := by
  have isDefined : ∀ item : Float × Nat,
      some item ∈ presentSubmissions 0 (bestSubmissions extreme name datasets) →
        Scalar.isUndefined item.1 = false := by
    intro item isMember
    obtain ⟨place, found⟩ := List.getElem?_of_mem isMember
    obtain ⟨_, dataset, best, _, holds, sameValue⟩ := ownBest_of_submission found
    rw [← sameValue]
    exact isDefined_of_mem_partBests (leader_mem holds)
  rw [select_eq_leader] at chosen
  obtain ⟨place, isBest⟩ := leader_isFirstBest (fun item : Float × Nat => extreme.key item.1)
    (fun candidate old isCandidate isOld =>
      extreme.beats_eq (isDefined candidate isCandidate) (isDefined old isOld)) chosen
  have samePlace : rank = place := (ownBest_of_submission isBest.stands).1
  rw [samePlace] at isBest ⊢
  exact isBest

end Levels

section Placed

variable {extreme : Extreme} {name : String} {datasets : List Dataset} {value number : Float}
  {rank place index : Nat}

/-- The entries of a field, each with the rank, the domain and the index that it stands at. -/
def placedEntries (name : String) (datasets : List Dataset) : List (Nat × Nat × Nat × Float) :=
  datasets.zipIdx.flatMap fun (dataset, rank) =>
    (dataset.holders name).zipIdx.flatMap fun (holder, place) =>
      (holder.2.reals?.getD []).zipIdx.map fun (number, index) => (rank, place, index, number)

theorem mem_placedEntries : (rank, place, index, number) ∈ placedEntries name datasets ↔
    entryAt? name datasets rank place index = some number := by
  rw [entryAt?_eq_some]
  simp only [placedEntries, List.mem_flatMap, List.mem_map, Prod.exists, Prod.mk.injEq,
    List.mem_zipIdx_iff_getElem?]
  constructor
  · rintro ⟨dataset, _, atRank, domain, field, _, atPlace, _, _, stands, rfl, rfl, rfl, rfl⟩
    cases areReals : field.reals? with
    | none =>
        rw [areReals] at stands
        cases stands
    | some entries =>
        rw [areReals] at stands
        exact ⟨dataset, domain, field, entries, atRank, atPlace, areReals, stands⟩
  · rintro ⟨dataset, domain, field, entries, atRank, atPlace, areReals, stands⟩
    refine ⟨dataset, rank, atRank, domain, field, place, atPlace, number, index, ?_, rfl, rfl, rfl,
      rfl⟩
    rw [areReals]
    exact stands

/-- A place comes before another one: on a lower rank, or in an earlier domain of the same rank, or at
an earlier index of the same domain. -/
def StandsBefore (rank place index otherRank otherPlace otherIndex : Nat) : Prop :=
  rank < otherRank ∨
    rank = otherRank ∧ (place < otherPlace ∨ place = otherPlace ∧ index < otherIndex)

instance (rank place index otherRank otherPlace otherIndex : Nat) :
    Decidable (StandsBefore rank place index otherRank otherPlace otherIndex) :=
  inferInstanceAs (Decidable (_ ∨ _))

theorem IsFirstExtreme.differs_before {entry : Nat → Nat → Nat → Option Float}
    (isFirst : IsFirstExtreme extreme entry value rank place index)
    {otherRank otherPlace otherIndex : Nat}
    (isBefore : StandsBefore otherRank otherPlace otherIndex rank place index)
    (stands : entry otherRank otherPlace otherIndex = some number) :
    Scalar.eq number value = false := by
  rcases isBefore with isLower | ⟨rfl, isEarlier | ⟨rfl, isBefore⟩⟩
  · exact isFirst.lowestRank _ _ _ _ isLower stands
  · exact isFirst.firstDomain _ _ _ isEarlier stands
  · exact isFirst.firstIndex _ _ isBefore stands

/-- Whether an entry is the first extreme one can be told by looking at all entries in turn. -/
theorem isFirstExtreme_iff : IsFirstExtreme extreme (entryAt? name datasets) value rank place index ↔
    entryAt? name datasets rank place index = some value ∧ Scalar.isUndefined value = false ∧
      ∀ other ∈ placedEntries name datasets, extreme.beats other.2.2.2 value = false ∧
        (StandsBefore other.1 other.2.1 other.2.2.1 rank place index →
          Scalar.eq other.2.2.2 value = false) := by
  constructor
  · intro isFirst
    refine ⟨isFirst.stands, isFirst.isDefined, ?_⟩
    rintro ⟨otherRank, otherPlace, otherIndex, other⟩ isPlaced
    have stands := mem_placedEntries.mp isPlaced
    exact ⟨isFirst.unbeaten _ _ _ _ stands, fun isBefore => isFirst.differs_before isBefore stands⟩
  · rintro ⟨stands, isDefined, ofOthers⟩
    have ofOther {otherRank otherPlace otherIndex : Nat} {other : Float}
        (otherStands : entryAt? name datasets otherRank otherPlace otherIndex = some other) :=
      ofOthers _ (mem_placedEntries.mpr otherStands)
    exact {
      stands := stands
      isDefined := isDefined
      unbeaten := fun _ _ _ _ otherStands => (ofOther otherStands).1
      lowestRank := fun _ _ _ _ isLower otherStands => (ofOther otherStands).2 (.inl isLower)
      firstDomain := fun _ _ _ isEarlier otherStands =>
        (ofOther otherStands).2 (.inr ⟨rfl, .inl isEarlier⟩)
      firstIndex := fun _ _ isBefore otherStands =>
        (ofOther otherStands).2 (.inr ⟨rfl, .inr ⟨rfl, isBefore⟩⟩) }

instance : Decidable (IsFirstExtreme extreme (entryAt? name datasets) value rank place index) :=
  decidable_of_iff _ isFirstExtreme_iff.symm

section Uniqueness

variable {entry : Nat → Nat → Nat → Option Float} {otherValue : Float}
  {otherRank otherPlace otherIndex : Nat}

/-- Of two first extreme entries, which are equal as neither beats the other, none comes before the
other one. -/
theorem IsFirstExtreme.not_before (first : IsFirstExtreme extreme entry value rank place index)
    (other : IsFirstExtreme extreme entry otherValue otherRank otherPlace otherIndex) :
    ¬StandsBefore rank place index otherRank otherPlace otherIndex := by
  intro isBefore
  have notBetter := other.unbeaten _ _ _ _ first.stands
  have notWorse := first.unbeaten _ _ _ _ other.stands
  have same := extreme.eq_of_unbeaten first.isDefined other.isDefined notBetter notWorse
  rw [other.differs_before isBefore first.stands] at same
  cases same

/-- There is at most one first extreme entry. -/
theorem IsFirstExtreme.unique (first : IsFirstExtreme extreme entry value rank place index)
    (other : IsFirstExtreme extreme entry otherValue otherRank otherPlace otherIndex) :
    (value, rank, place, index) = (otherValue, otherRank, otherPlace, otherIndex) := by
  have notBefore := first.not_before other
  have notAfter := other.not_before first
  obtain ⟨rfl, rfl, rfl⟩ : rank = otherRank ∧ place = otherPlace ∧ index = otherIndex := by
    unfold StandsBefore at notBefore notAfter
    omega
  rw [Option.some.inj (first.stands.symm.trans other.stands)]

end Uniqueness

instance : Decidable (HoldsPlainReals name datasets) :=
  decidable_of_iff (∀ dataset ∈ datasets, ∀ holder ∈ dataset.holders name,
      holder.2.reals?.any (fun entries => entries.all fun number =>
        Scalar.isFinite number || Scalar.isUndefined number) = true)
    (by simp only [HoldsPlainReals, Option.any_eq_true, List.all_eq_true, Bool.or_eq_true])

end Placed

section Exact

variable {extreme : Extreme} {name : String} {datasets : List Dataset}

/-- A defined entry is not better than the extreme one of its domain, and this is not better than that
of its process. -/
theorem bounds_of_entry (extreme : Extreme) {rank place index : Nat} {number : Float}
    (found : entryAt? name datasets rank place index = some number)
    (isDefined : Scalar.isUndefined number = false) :
    ∃ dataset part own, datasets[rank]? = some dataset ∧
      (dataset.partBests extreme name)[place]? = some (some part) ∧
      dataset.ownBest extreme name = some own ∧
      extreme.key own.value ≤ extreme.key part.value ∧
      extreme.key part.value ≤ extreme.key number ∧
      (index < part.index → extreme.key part.value < extreme.key number) := by
  obtain ⟨dataset, holder, entries, atRank, atPlace, areReals, stands⟩ := entryAt?_eq_some.mp found
  obtain ⟨part, isPart, notBetter, worseBefore⟩ :=
    partBest_of_entry extreme atPlace areReals stands isDefined
  obtain ⟨own, isOwn, ownBetter⟩ := ownBest_of_partBest isPart
  exact ⟨dataset, part, own, atRank, isPart, isOwn, ownBetter, notBetter, worseBefore⟩

/-- The entry that wins the vote is the first extreme one of the group. -/
theorem isFirstExtreme_of_winner {value : Float} {rank : Nat}
    (chosen : select extreme (bestSubmissions extreme name datasets) = some (value, rank))
    {dataset : Dataset} {best : OwnExtremum Float} (atRank : datasets[rank]? = some dataset)
    (holds : dataset.ownBest extreme name = some best) (sameValue : best.value = value)
    {place : Nat}
    (isBest : IsFirstBest (fun own : OwnExtremum Float => extreme.key own.value)
      (dataset.partBests extreme name) best place) :
    IsFirstExtreme extreme (entryAt? name datasets) value rank place best.index := by
  have isWinner := select_isFirstBest chosen
  have valueDefined : Scalar.isUndefined value = false := by
    rw [← sameValue]
    exact isDefined_of_mem_partBests (leader_mem holds)
  have notEqual {other : Float} (worse : Scalar.isUndefined other = false →
      extreme.key value < extreme.key other) : Scalar.eq other value = false := by
    cases isDefined : Scalar.isUndefined other with
    | false => exact extreme.eq_false_of_key_lt (worse isDefined)
    | true => exact Extreme.eq_of_isUndefined value isDefined
  obtain ⟨holder, atPlace, isExtreme, _⟩ := getElem?_partBests.mp isBest.stands
  constructor
  · rw [entryAt?_eq_some]
    obtain ⟨stands, _⟩ := mem_definedEntries (leader_mem isExtreme)
    cases areReals : holder.2.reals? with
    | none =>
        rw [areReals] at stands
        cases stands
    | some entries =>
        rw [areReals] at stands
        exact ⟨dataset, holder, entries, atRank, atPlace, areReals, sameValue ▸ stands⟩
  · exact valueDefined
  · intro otherRank otherPlace otherIndex other found
    cases isDefined : Scalar.isUndefined other with
    | true => exact extreme.beats_of_isUndefined value isDefined
    | false =>
        obtain ⟨otherDataset, part, own, atOther, _, isOwn, ownBetter, partBetter, _⟩ :=
          bounds_of_entry extreme found isDefined
        have winnerBetter : extreme.key value ≤ extreme.key own.value :=
          isWinner.least otherRank (own.value, otherRank) (submission_of_ownBest atOther isOwn)
        rw [extreme.beats_eq isDefined valueDefined, decide_eq_false_iff_not]
        omega
  · intro otherRank otherPlace otherIndex other isLower found
    apply notEqual
    intro isDefined
    obtain ⟨otherDataset, part, own, atOther, _, isOwn, ownBetter, partBetter, _⟩ :=
      bounds_of_entry extreme found isDefined
    have winnerBetter : extreme.key value < extreme.key own.value :=
      isWinner.first otherRank (own.value, otherRank) isLower (submission_of_ownBest atOther isOwn)
    omega
  · intro otherPlace otherIndex other isEarlier found
    apply notEqual
    intro isDefined
    obtain ⟨otherDataset, part, own, atOther, isPart, _, _, partBetter, _⟩ :=
      bounds_of_entry extreme found isDefined
    rw [atRank, Option.some.injEq] at atOther
    rw [← atOther] at isPart
    have bestBetter : extreme.key best.value < extreme.key part.value :=
      isBest.first otherPlace part isEarlier isPart
    rw [sameValue] at bestBetter
    omega
  · intro otherIndex other isEarlier found
    apply notEqual
    intro isDefined
    obtain ⟨otherDataset, part, own, atOther, isPart, _, _, _, worseBefore⟩ :=
      bounds_of_entry extreme found isDefined
    rw [atRank, Option.some.injEq] at atOther
    rw [← atOther, isBest.stands, Option.some.injEq, Option.some.injEq] at isPart
    rw [← isPart, sameValue] at worseBefore
    exact worseBefore isEarlier

theorem submissions_of_seats (kind : GroupKind) :
    (seats kind datasets).map (fun seat => submission (seat.2.ownBest extreme name)) =
      bestSubmissions extreme name datasets :=
  map_seats_share kind (fun dataset : Dataset => submission (dataset.ownBest extreme name)) datasets

/-- If some entry is defined and no search can stop at an undefined one, there is a first extreme
entry, and once its place can be looked up and told, every process returns it. -/
theorem extremum_reported {kind : GroupKind} (connects : kind.Connects datasets.length)
    (searched : HoldsSearchedReals extreme name datasets)
    (someDefined : ∃ rank place index number, entryAt? name datasets rank place index = some number ∧
      Scalar.isUndefined number = false) :
    ∃ value rank place index,
      IsFirstExtreme extreme (entryAt? name datasets) value rank place index ∧
      ∃ dataset domain field, datasets[rank]? = some dataset ∧
        (dataset.holders name)[place]? = some (domain, field) ∧
        ∀ position number, domain.locate name (.ok index) = .ok position →
          domain.id = .ok number → -(2 ^ 63) ≤ number → number < 2 ^ 64 →
          together kind (extremumProgram extreme (.text name)) datasets =
            datasets.map fun _ => .ok ⟨value, rank, number, position⟩ := by
  let own : ProcessGroup × Dataset → Option (OwnExtremum Float) := fun seat =>
    seat.2.ownBest extreme name
  cases chosen : select extreme ((seats kind datasets).map fun seat => submission (own seat)) with
  | none =>
      obtain ⟨rank, place, index, number, found, isDefined⟩ := someDefined
      obtain ⟨dataset, part, best, atRank, _, isOwn, _⟩ := bounds_of_entry extreme found isDefined
      have present := submission_of_ownBest atRank isOwn
      rw [submissions_of_seats, select_eq_leader] at chosen
      have missing := leader_eq_none.mp chosen _ (List.mem_of_getElem? present)
      cases missing
  | some winner =>
      obtain ⟨value, rank⟩ := winner
      obtain ⟨teller, isSeat, rfl, best, holds, sameValue⟩ := exists_winner extreme chosen
      obtain ⟨_, _, atRank⟩ := of_mem_seats isSeat
      obtain ⟨place, isBest⟩ := ownBest_isFirstBest holds
      obtain ⟨⟨domain, field⟩, atPlace, _, samePart⟩ := getElem?_partBests.mp isBest.stands
      refine ⟨value, teller.1.rank, place, best.index,
        isFirstExtreme_of_winner (submissions_of_seats kind ▸ chosen) atRank holds sameValue isBest,
        teller.2, domain, field, atRank, atPlace, ?_⟩
      intro position number located numbered aboveLeast belowGreatest
      have tells : teller.1.placeOffer (told (own teller)) teller.1.rank =
          .ok (.place position number) := by
        rw [show own teller = some best from holds]
        refine placeOffer_of_place ?_ ?_ aboveLeast belowGreatest
        · rw [samePart]
          exact located
        · rw [samePart]
          exact numbered
      exact extremum_told (Dataset.fieldShare (.text name)) extreme connects (fun _ => rfl) own
        (fun seat seatIn => ownExtremum_eq searched (share_mem_of_mem_seats seatIn)) isSeat chosen
        tells

/-- Without any defined entry, every process fails for missing data. -/
theorem extremum_missing {kind : GroupKind} (connects : kind.Connects datasets.length)
    (searched : HoldsSearchedReals extreme name datasets)
    (noneDefined : ∀ rank place index number,
      entryAt? name datasets rank place index = some number → Scalar.isUndefined number = true) :
    ∃ cause, cause.category = .missingData ∧
      together kind (extremumProgram extreme (.text name)) datasets =
        datasets.map fun _ => .error cause := by
  let own : ProcessGroup × Dataset → Option (OwnExtremum Float) := fun seat =>
    seat.2.ownBest extreme name
  cases chosen : select extreme ((seats kind datasets).map fun seat => submission (own seat)) with
  | none =>
      exact ⟨_, rfl, extremum_none (Dataset.fieldShare (.text name)) extreme connects (fun _ => rfl)
        own (fun seat seatIn => ownExtremum_eq searched (share_mem_of_mem_seats seatIn)) chosen⟩
  | some winner =>
      obtain ⟨value, rank⟩ := winner
      obtain ⟨teller, isSeat, rfl, best, holds, sameValue⟩ := exists_winner extreme chosen
      obtain ⟨_, _, atRank⟩ := of_mem_seats isSeat
      obtain ⟨place, isBest⟩ := ownBest_isFirstBest holds
      have isFirst := isFirstExtreme_of_winner (submissions_of_seats kind ▸ chosen) atRank holds
        sameValue isBest
      have isUndefined := noneDefined _ _ _ _ isFirst.stands
      rw [isFirst.isDefined] at isUndefined
      cases isUndefined

/-- On plain reals an extremum query is exact. If some entry is defined, there is a first extreme
one, and once its place can be looked up and told, every process returns it. Without any defined
entry, every process fails for missing data. -/
theorem extremum_is_first (extreme : Extreme) (name : String) (kind : GroupKind)
    (datasets : List Dataset) (connects : kind.Connects datasets.length)
    (plain : HoldsPlainReals name datasets) :
    ((∃ rank place index number, entryAt? name datasets rank place index = some number ∧
        Scalar.isUndefined number = false) →
      ∃ value rank place index,
        IsFirstExtreme extreme (entryAt? name datasets) value rank place index ∧
        ∃ dataset domain field, datasets[rank]? = some dataset ∧
          (dataset.holders name)[place]? = some (domain, field) ∧
          ∀ position number, domain.locate name (.ok index) = .ok position →
            domain.id = .ok number → -(2 ^ 63) ≤ number → number < 2 ^ 64 →
            together kind (extremumProgram extreme (.text name)) datasets =
              datasets.map fun _ => .ok ⟨value, rank, number, position⟩) ∧
    ((∀ rank place index number, entryAt? name datasets rank place index = some number →
        Scalar.isUndefined number = true) →
      ∃ cause, cause.category = .missingData ∧
        together kind (extremumProgram extreme (.text name)) datasets =
          datasets.map fun _ => .error cause) :=
  ⟨extremum_reported connects (plain.searched extreme),
    extremum_missing connects (plain.searched extreme)⟩

def warmDomain (association : String) : Domain :=
  ⟨[("coords", .explicit ⟨.float .double [0], .float .double [0], none⟩)],
    [("mesh", ⟨"coords", .points⟩)],
    [("warmth", ⟨"warmth", association, "mesh", .scalar (.float .double [0x3ff0000000000000])⟩)], []⟩

/-- Vertices on the first axis, at coordinates given by their words, and with an entry of a field at
each of them, given by its word as well. -/
def warmRow (domainId : Int) (coordinates entries : List (BitVec 64)) : Domain :=
  ⟨[("coords", .explicit ⟨.float .double coordinates, .float .double (coordinates.map fun _ => 0),
      none⟩)],
    [("mesh", ⟨"coords", .points⟩)],
    [("warmth", ⟨"warmth", "vertex", "mesh", .scalar (.float .double entries)⟩)],
    [(.text "domain_id", .whole domainId)]⟩

/-- The greatest entry is 2. It stands in the second domain of rank 1, after an undefined entry, and
once more on rank 2. -/
def warmRows : List Dataset :=
  [[warmRow 3 [0, 0x3ff0000000000000] [0x7ff8000000000000, 0x3ff0000000000000]],
    [warmRow 5 [0x4000000000000000] [0x3ff8000000000000],
      warmRow 7 [0x4008000000000000, 0x4010000000000000] [0x7ff8000000000000, 0x4000000000000000]],
    [warmRow 8 [0x4014000000000000] [0x4000000000000000]]]

theorem extremum_is_first_of_warm_rows :
    GroupKind.lockstep.Connects 3 ∧ HoldsPlainReals "warmth" warmRows ∧
    IsFirstExtreme .greatest (entryAt? "warmth" warmRows) 2.0 1 1 1 ∧
    together .lockstep (extremumProgram .greatest (.text "warmth")) warmRows =
      List.replicate 3 (.ok ⟨2.0, 1, 7, ⟨4.0, 0.0, 0.0⟩⟩) := by
  have connects : GroupKind.lockstep.Connects 3 := by decide
  have plain : HoldsPlainReals "warmth" warmRows := by decide +kernel
  have isFirst : IsFirstExtreme .greatest (entryAt? "warmth" warmRows) 2.0 1 1 1 := by
    decide +kernel
  obtain ⟨whereDefined, _⟩ :=
    extremum_is_first .greatest "warmth" .lockstep warmRows connects plain
  obtain ⟨value, rank, place, index, isFound, dataset, domain, field, atRank, atPlace, reports⟩ :=
    whereDefined ⟨1, 1, 1, 2.0, isFirst.stands, isFirst.isDefined⟩
  cases isFound.unique isFirst
  cases atRank
  cases atPlace
  have located : (warmRow 7 [0x4008000000000000, 0x4010000000000000]
      [0x7ff8000000000000, 0x4000000000000000]).locate "warmth" (.ok 1) =
        .ok ⟨4.0, 0.0, 0.0⟩ := by
    rfl
  exact ⟨connects, plain, isFirst, reports _ 7 located rfl (by decide) (by decide)⟩

end Exact

section Ends

/-- If no process fails in what it does by itself, all processes return the same extreme entry or all
fail for missing data. Otherwise a process that fails by itself ends with that failure, and every
other one waits for ever. So a group ends alike exactly if these steps do. -/
theorem extremum_ends_as_steps_do (extreme : Extreme) (field : Value) (kind : GroupKind)
    (datasets : List Dataset) (connects : kind.Connects datasets.length) :
    ((∀ seat ∈ seats kind datasets,
        extremumStep (Dataset.fieldShare field) extreme datasets seat.1 seat.2 = .ok ()) →
      ∃ result, together kind (extremumProgram extreme field) datasets =
          datasets.map (fun _ => result) ∧
        ∀ cause, result = .error cause → cause.category = .missingData) ∧
    ((∃ seat ∈ seats kind datasets, ∃ cause,
        extremumStep (Dataset.fieldShare field) extreme datasets seat.1 seat.2 = .error cause) →
      together kind (extremumProgram extreme field) datasets =
        (seats kind datasets).map fun seat => Collective.leftWaiting
          (extremumStep (Dataset.fieldShare field) extreme datasets seat.1 seat.2)) ∧
    (EndAlike (together kind (extremumProgram extreme field) datasets) ↔
      EndAlike ((seats kind datasets).map fun seat =>
        extremumStep (Dataset.fieldShare field) extreme datasets seat.1 seat.2)) := by
  have isDecided : DecidedByOwnSteps kind (extremumProgram extreme field)
      (extremumStep (Dataset.fieldShare field) extreme datasets) datasets :=
    extremum_decided (Dataset.fieldShare field) extreme connects field.putInto fun _ => rfl
  refine ⟨?_, isDecided.strand, isDecided.endAlike_iff⟩
  intro succeeded
  exact isDecided.agree fun seat isSeat => ⟨(), succeeded seat isSeat⟩

theorem extremum_ends_as_steps_do_for_two :
    GroupKind.lockstep.Connects 2 ∧
    together .lockstep (extremumProgram .least (.text "warmth")) [[warmDomain "face"], []] =
      [.error (.unlocatable "face" "warmth"), .error .deadlock] ∧
    ∃ result, together .messagePassing (extremumProgram .least (.text "warmth")) [[], []] =
      [result, result] := by
  refine ⟨by decide, ?_, ?_⟩
  · obtain ⟨_, strand, _⟩ := extremum_ends_as_steps_do .least (.text "warmth")
      .lockstep [[warmDomain "face"], []] (by decide)
    exact strand ⟨_, List.mem_cons_self, .unlocatable "face" "warmth", rfl⟩
  · obtain ⟨agree, _, _⟩ := extremum_ends_as_steps_do .least (.text "warmth")
      .messagePassing [[], []] (by decide)
    have succeeded : ∀ seat ∈ seats .messagePassing [([] : Dataset), []],
        extremumStep (Dataset.fieldShare (.text "warmth")) .least [[], []] seat.1 seat.2 =
          .ok () := by
      intro seat isSeat
      rcases List.mem_pair.mp isSeat with rfl | rfl <;> rfl
    obtain ⟨result, same, _⟩ := agree succeeded
    exact ⟨result, same⟩

/-- Where the least entry of two processes is given at faces, the process that holds it cannot look
up its place, and the other one waits for ever to be told. -/
theorem extremum_at_face_strands_other :
    ¬ EndAlike (together .lockstep (extremumProgram .least (.text "warmth"))
      [[warmDomain "face"], []]) := by
  have ends : together .lockstep (extremumProgram .least (.text "warmth"))
      [[warmDomain "face"], []] =
      [.error (.unlocatable "face" "warmth"), .error .deadlock] := rfl
  rw [ends]
  rintro (⟨result, allReturn⟩ | ⟨category, notDeadlock, allFail⟩)
  · cases allReturn _ List.mem_cons_self
  · obtain ⟨cause, fails, sameCategory⟩ := allFail (.error .deadlock) (by simp)
    cases fails
    exact notDeadlock sameCategory.symm

end Ends

end FieldSurvey
