import FieldSurvey.Proofs.Snapshot.Dealing
import FieldSurvey.Proofs.Statistics.Extremum

/-!
Extreme entries of a dataset that is dealt to groups of different sizes. Among the domains that attain
the extreme value, the one that is dealt first is reported. So all groups report the same value, and
two groups report the same domain and position whenever the same domain is dealt first in both.
-/

namespace FieldSurvey

open ProcessGroup

section Shares

/-- An entry of a field, at an index in the domain that has a place in the dataset. -/
def Dataset.entry? (name : String) (dataset : Dataset) (place index : Nat) : Option Float := do
  let domain ← dataset[place]?
  let field ← domain.fields.find? name
  let entries ← field.reals?
  entries[index]?

/-- The domains that define a field and fall to one process, with their places in the dataset. -/
def Dataset.dealtHolders (name : String) (size rank : Nat) (dataset : Dataset) :
    List (Nat × Domain × Field) :=
  (dataset.zipIdx.filter fun item => item.2 % size == rank).filterMap fun item =>
    (item.1.fields.find? name).map fun field => (item.2, item.1, field)

variable {name : String} {size rank : Nat} {dataset : Dataset}

theorem Dataset.holders_dealt (name : String) (size rank : Nat) (dataset : Dataset) :
    Dataset.holders name (dealt size rank dataset) =
      (dataset.dealtHolders name size rank).map Prod.snd := by
  unfold holders dealtHolders
  rw [dealt_eq, List.filterMap_map, List.map_filterMap]
  congr 1
  funext item
  rw [Function.comp_apply, Option.map_map]
  rfl

theorem Dataset.mem_dealtHolders {place : Nat} {domain : Domain} {field : Field} :
    (place, domain, field) ∈ dataset.dealtHolders name size rank ↔
      dataset[place]? = some domain ∧ place % size = rank ∧
        domain.fields.find? name = some field := by
  unfold dealtHolders
  rw [List.mem_filterMap]
  constructor
  · rintro ⟨item, isDealt, isHolder⟩
    obtain ⟨isItem, falls⟩ := List.mem_filter.mp isDealt
    obtain ⟨found, hasField, same⟩ := Option.map_eq_some_iff.mp isHolder
    cases same
    exact ⟨List.mem_zipIdx_iff_getElem?.mp isItem, beq_iff_eq.mp falls, hasField⟩
  · rintro ⟨stands, falls, hasField⟩
    refine ⟨(domain, place), List.mem_filter.mpr ⟨?_, beq_iff_eq.mpr falls⟩, ?_⟩
    · exact List.mem_zipIdx_iff_getElem?.mpr stands
    · rw [hasField]
      rfl

/-- Dealing keeps the order of the dataset. -/
theorem Dataset.dealtHolders_increasing (name : String) (size rank : Nat) (dataset : Dataset) :
    (dataset.dealtHolders name size rank).Pairwise fun earlier later => earlier.1 < later.1 := by
  have placed : dataset.zipIdx.Pairwise fun earlier later => earlier.2 < later.2 := by
    apply List.pairwise_map.mp
    rw [List.zipIdx_map_snd]
    exact List.pairwise_lt_range'
  refine (placed.filter _).filterMap _ ?_
  intro earlier later isBefore first isFirst second isSecond
  obtain ⟨_, _, rfl⟩ := Option.map_eq_some_iff.mp isFirst
  obtain ⟨_, _, rfl⟩ := Option.map_eq_some_iff.mp isSecond
  exact isBefore

theorem Dataset.lt_of_dealt_before {place otherPlace : Nat} {holder other : Nat × Domain × Field}
    (stands : (dataset.dealtHolders name size rank)[place]? = some holder)
    (otherStands : (dataset.dealtHolders name size rank)[otherPlace]? = some other)
    (isBefore : other.1 < holder.1) : otherPlace < place := by
  have increasing := List.pairwise_iff_getElem.mp (dataset.dealtHolders_increasing name size rank)
  obtain ⟨inHolders, rfl⟩ := List.getElem?_eq_some_iff.mp stands
  obtain ⟨otherInHolders, rfl⟩ := List.getElem?_eq_some_iff.mp otherStands
  rcases Nat.lt_trichotomy otherPlace place with isEarlier | rfl | isLater
  · exact isEarlier
  · omega
  · have isAfter := increasing place otherPlace inHolders otherInHolders isLater
    omega

/-- The entries of a share are those of the dataset in the domains that fall to the process. -/
theorem Dataset.entryAt?_shares (inGroup : rank < size) {sharePlace : Nat}
    {holder : Nat × Domain × Field}
    (isDealt : (dataset.dealtHolders name size rank)[sharePlace]? = some holder) (index : Nat) :
    entryAt? name (dataset.shares size) rank sharePlace index =
      dataset.entry? name holder.1 index := by
  obtain ⟨stands, _, hasField⟩ := mem_dealtHolders.mp (List.mem_of_getElem? isDealt)
  unfold entryAt? entry?
  rw [getElem?_shares.mpr ⟨inGroup, rfl⟩, stands]
  simp only [Option.bind_eq_bind, Option.bind_some, holders_dealt, List.getElem?_map, isDealt,
    Option.map_some, hasField]

theorem Dataset.exists_dealt_of_share {sharePlace index : Nat} {number : Float}
    (found : entryAt? name (dataset.shares size) rank sharePlace index = some number) :
    rank < size ∧
      ∃ holder, (dataset.dealtHolders name size rank)[sharePlace]? = some holder := by
  obtain ⟨share, part, _, atRank, atPlace, _⟩ := entryAt?_eq_some.mp found
  obtain ⟨inGroup, rfl⟩ := getElem?_shares.mp atRank
  rw [holders_dealt, List.getElem?_map, Option.map_eq_some_iff] at atPlace
  obtain ⟨holder, isDealt, _⟩ := atPlace
  exact ⟨inGroup, holder, isDealt⟩

theorem Dataset.exists_share_of_entry? (isGroup : 0 < size) {place index : Nat} {number : Float}
    (found : dataset.entry? name place index = some number) :
    ∃ (sharePlace : Nat) (holder : Nat × Domain × Field),
      (dataset.dealtHolders name size (place % size))[sharePlace]? = some holder ∧
      holder.1 = place ∧
      entryAt? name (dataset.shares size) (place % size) sharePlace index = some number := by
  have opened := found
  unfold entry? at opened
  obtain ⟨domain, stands, opened⟩ := Option.bind_eq_some_iff.mp opened
  obtain ⟨field, hasField, _⟩ := Option.bind_eq_some_iff.mp opened
  obtain ⟨sharePlace, isDealt⟩ :=
    List.getElem?_of_mem (mem_dealtHolders.mpr ⟨stands, rfl, hasField⟩)
  exact ⟨sharePlace, _, isDealt, rfl,
    (entryAt?_shares (Nat.mod_lt _ isGroup) isDealt index).trans found⟩

theorem HoldsSearchedReals.shares {extreme : Extreme}
    (searched : HoldsSearchedReals extreme name [dataset]) (size : Nat) :
    HoldsSearchedReals extreme name (dataset.shares size) := by
  intro share isShare holder isHolder
  obtain ⟨rank, atRank⟩ := List.getElem?_of_mem isShare
  obtain ⟨_, rfl⟩ := Dataset.getElem?_shares.mp atRank
  refine searched dataset List.mem_cons_self holder ?_
  have isSublist := dealt_sublist size rank dataset
  exact (isSublist.filterMap _).mem isHolder

end Shares

section Reports

/-- An entry is the extreme one that is dealt first: it is defined, no entry beats it, of the domains
with an entry equal to it its own falls to the lowest rank and is the first to do so, and no earlier
entry of its domain is equal to it. -/
structure IsFirstDealt (extreme : Extreme) (size : Nat) (entry : Nat → Nat → Option Float)
    (value : Float) (place index : Nat) : Prop where
  stands : entry place index = some value
  isDefined : Scalar.isUndefined value = false
  unbeaten : ∀ otherPlace otherIndex other, entry otherPlace otherIndex = some other →
    extreme.beats other value = false
  dealtFirst : ∀ otherPlace otherIndex other, entry otherPlace otherIndex = some other →
    Scalar.eq other value = true → place % size < otherPlace % size ∨
      (place % size = otherPlace % size ∧ place ≤ otherPlace)
  firstIndex : ∀ otherIndex other, otherIndex < index → entry place otherIndex = some other →
    Scalar.eq other value = false

/-- A record names the extreme entry of a dataset that is dealt first to a group of a size. -/
structure Dataset.IsReported (extreme : Extreme) (name : String) (size : Nat) (dataset : Dataset)
    (found : FieldExtremum Float) (place index : Nat) : Prop where
  isFirst : IsFirstDealt extreme size (dataset.entry? name) found.value place index
  rank : found.rank = place % size
  holder : ∃ domain, dataset[place]? = some domain ∧
    domain.locate name (.ok index) = .ok found.position ∧ domain.id = .ok found.domainId

/-- The place of every entry can be looked up and told to other processes. -/
def Dataset.Resolves (name : String) (dataset : Dataset) : Prop :=
  ∀ place domain index number, dataset[place]? = some domain →
    dataset.entry? name place index = some number →
    (∃ position, domain.locate name (.ok index) = .ok position) ∧
    ∃ domainId, domain.id = .ok domainId ∧ -(2 ^ 63) ≤ domainId ∧ domainId < 2 ^ 64

variable {extreme : Extreme} {name : String} {size otherSize : Nat} {dataset : Dataset}

/-- The first extreme entry of the shares is the one that is dealt first. -/
theorem IsFirstExtreme.isFirstDealt {value : Float} {rank sharePlace index : Nat}
    {holder : Nat × Domain × Field}
    (isFirst : IsFirstExtreme extreme (entryAt? name (dataset.shares size)) value rank sharePlace
      index)
    (inGroup : rank < size)
    (isDealt : (dataset.dealtHolders name size rank)[sharePlace]? = some holder) :
    IsFirstDealt extreme size (dataset.entry? name) value holder.1 index := by
  have falls : holder.1 % size = rank :=
    (Dataset.mem_dealtHolders.mp (List.mem_of_getElem? isDealt)).2.1
  have isGroup : 0 < size := Nat.zero_lt_of_lt inGroup
  have ownEntries := Dataset.entryAt?_shares inGroup isDealt
  constructor
  · rw [← ownEntries]
    exact isFirst.stands
  · exact isFirst.isDefined
  · intro otherPlace otherIndex other found
    obtain ⟨_, _, _, _, shared⟩ := Dataset.exists_share_of_entry? isGroup found
    exact isFirst.unbeaten _ _ _ _ shared
  · intro otherPlace otherIndex other found equal
    obtain ⟨otherSharePlace, otherHolder, otherDealt, rfl, shared⟩ :=
      Dataset.exists_share_of_entry? isGroup found
    -- The vote leaves no equal entry to a lower rank, and on the same rank dealing kept the order.
    rw [falls]
    rcases Nat.lt_trichotomy rank (otherHolder.1 % size) with isHigher | sameRank | isLower
    · exact .inl isHigher
    · refine .inr ⟨sameRank, ?_⟩
      rw [← sameRank] at otherDealt shared
      by_contra isBefore
      have earlier := Dataset.lt_of_dealt_before isDealt otherDealt (Nat.lt_of_not_le isBefore)
      rw [isFirst.firstDomain _ _ _ earlier shared] at equal
      cases equal
    · rw [isFirst.lowestRank _ _ _ _ isLower shared] at equal
      cases equal
  · intro otherIndex other isEarlier found
    rw [← ownEntries] at found
    exact isFirst.firstIndex _ _ isEarlier found

section Groups

variable {kind : GroupKind}

theorem Dataset.map_shares {β : Type} (size : Nat) (dataset : Dataset) (result : β) :
    (dataset.shares size).map (fun _ => result) = List.replicate size result := by
  rw [List.map_const', length_shares]

/-- A group that a dataset is dealt to reports the extreme entry that is dealt first. -/
theorem Dataset.exists_report (connects : kind.Connects size)
    (searched : HoldsSearchedReals extreme name [dataset]) (resolves : dataset.Resolves name)
    (someDefined : ∃ place index number, dataset.entry? name place index = some number ∧
      Scalar.isUndefined number = false) :
    ∃ found place index, dataset.IsReported extreme name size found place index ∧
      together kind (extremumProgram extreme (.text name)) (dataset.shares size) =
        List.replicate size (.ok found) := by
  have allConnected : kind.Connects (dataset.shares size).length := by
    rwa [length_shares]
  have definedInShare : ∃ rank place index number,
      entryAt? name (dataset.shares size) rank place index = some number ∧
        Scalar.isUndefined number = false := by
    obtain ⟨place, index, number, isEntry, isDefined⟩ := someDefined
    obtain ⟨_, _, _, _, shared⟩ := exists_share_of_entry? connects.pos isEntry
    exact ⟨_, _, _, _, shared, isDefined⟩
  obtain ⟨value, rank, sharePlace, index, isFirst, _, domain, field, atRank, atPlace, reports⟩ :=
    extremum_reported allConnected (searched.shares size) definedInShare
  obtain ⟨inGroup, holder, isDealt⟩ := exists_dealt_of_share isFirst.stands
  obtain ⟨_, rfl⟩ := getElem?_shares.mp atRank
  rw [holders_dealt, List.getElem?_map, isDealt, Option.map_some, Option.some.injEq] at atPlace
  obtain ⟨place, _, _⟩ := holder
  cases atPlace
  have firstDealt := isFirst.isFirstDealt inGroup isDealt
  obtain ⟨stands, falls, _⟩ := mem_dealtHolders.mp (List.mem_of_getElem? isDealt)
  obtain ⟨⟨position, located⟩, domainId, numbered, aboveLeast, belowGreatest⟩ :=
    resolves place domain index value stands firstDealt.stands
  refine ⟨⟨value, rank, domainId, position⟩, place, index,
    ⟨firstDealt, falls.symm, domain, stands, located, numbered⟩, ?_⟩
  rw [reports position domainId located numbered aboveLeast belowGreatest, map_shares]

theorem Dataset.report_missing (connects : kind.Connects size)
    (searched : HoldsSearchedReals extreme name [dataset])
    (noneDefined : ∀ place index number, dataset.entry? name place index = some number →
      Scalar.isUndefined number = true) :
    ∃ cause, cause.category = .missingData ∧
      together kind (extremumProgram extreme (.text name)) (dataset.shares size) =
        List.replicate size (.error cause) := by
  have allConnected : kind.Connects (dataset.shares size).length := by
    rwa [length_shares]
  obtain ⟨cause, isMissing, allFail⟩ := extremum_missing allConnected (searched.shares size) (by
    intro rank sharePlace index number shared
    obtain ⟨inGroup, holder, isDealt⟩ := exists_dealt_of_share shared
    rw [entryAt?_shares inGroup isDealt] at shared
    exact noneDefined _ _ _ shared)
  exact ⟨cause, isMissing, by rw [allFail, map_shares]⟩

end Groups

section Agreement

variable {found otherFound : FieldExtremum Float} {place index otherPlace otherIndex : Nat}

theorem Dataset.IsReported.same_value (report : dataset.IsReported extreme name size found place index)
    (other : dataset.IsReported extreme name otherSize otherFound otherPlace otherIndex) :
    Scalar.eq found.value otherFound.value = true := by
  have notWorse := report.isFirst.unbeaten _ _ _ other.isFirst.stands
  have notBetter := other.isFirst.unbeaten _ _ _ report.isFirst.stands
  exact extreme.eq_of_unbeaten report.isFirst.isDefined other.isFirst.isDefined notBetter notWorse

/-- Two reports of the same domain agree in all but the rank. -/
theorem Dataset.IsReported.same_place
    (report : dataset.IsReported extreme name size found place index)
    (other : dataset.IsReported extreme name otherSize otherFound place otherIndex) :
    found.value = otherFound.value ∧ found.position = otherFound.position ∧
      found.domainId = otherFound.domainId := by
  have sameIndex : index = otherIndex := by
    rcases Nat.lt_trichotomy index otherIndex with isBefore | same | isAfter
    · have different := other.isFirst.firstIndex _ _ isBefore report.isFirst.stands
      rw [report.same_value other] at different
      cases different
    · exact same
    · have different := report.isFirst.firstIndex _ _ isAfter other.isFirst.stands
      rw [other.same_value report] at different
      cases different
  subst sameIndex
  obtain ⟨domain, stands, located, numbered⟩ := report.holder
  obtain ⟨otherDomain, otherStands, otherLocated, otherNumbered⟩ := other.holder
  cases Option.some.inj (stands.symm.trans otherStands)
  exact ⟨Option.some.inj (report.isFirst.stands.symm.trans other.isFirst.stands),
    Except.ok.inj (located.symm.trans otherLocated),
    Except.ok.inj (numbered.symm.trans otherNumbered)⟩

end Agreement

/-- Two groups of any sizes that a dataset is dealt to report the same extreme value on all processes,
each at the domain that is dealt first to it among those that attain this value, and there at the
first index. So they report the same position and domain whenever the same domain is dealt first in
both, as it is if no other attains the value. Without any defined entry all processes of both groups
fail for missing data. -/
theorem extremum_of_two_deals (extreme : Extreme) (name : String) (dataset : Dataset)
    (kind otherKind : GroupKind) (size otherSize : Nat) (connects : kind.Connects size)
    (otherConnects : otherKind.Connects otherSize)
    (searched : HoldsSearchedReals extreme name [dataset]) (resolves : dataset.Resolves name) :
    ((∃ place index number, dataset.entry? name place index = some number ∧
        Scalar.isUndefined number = false) →
      ∃ found otherFound place index otherPlace otherIndex,
        together kind (extremumProgram extreme (.text name)) (dataset.shares size) =
          List.replicate size (.ok found) ∧
        together otherKind (extremumProgram extreme (.text name)) (dataset.shares otherSize) =
          List.replicate otherSize (.ok otherFound) ∧
        dataset.IsReported extreme name size found place index ∧
        dataset.IsReported extreme name otherSize otherFound otherPlace otherIndex ∧
        Scalar.eq found.value otherFound.value = true ∧
        (place = otherPlace → found.value = otherFound.value ∧
          found.position = otherFound.position ∧ found.domainId = otherFound.domainId) ∧
        ((∀ attaining atIndex number, dataset.entry? name attaining atIndex = some number →
          Scalar.eq number found.value = true → attaining = place) → place = otherPlace)) ∧
    ((∀ place index number, dataset.entry? name place index = some number →
        Scalar.isUndefined number = true) →
      ∃ cause otherCause, cause.category = .missingData ∧ otherCause.category = .missingData ∧
        together kind (extremumProgram extreme (.text name)) (dataset.shares size) =
          List.replicate size (.error cause) ∧
        together otherKind (extremumProgram extreme (.text name)) (dataset.shares otherSize) =
          List.replicate otherSize (.error otherCause)) := by
  constructor
  · intro someDefined
    obtain ⟨found, place, index, report, returns⟩ :=
      Dataset.exists_report connects searched resolves someDefined
    obtain ⟨otherFound, otherPlace, otherIndex, other, otherReturns⟩ :=
      Dataset.exists_report otherConnects searched resolves someDefined
    refine ⟨found, otherFound, place, index, otherPlace, otherIndex, returns, otherReturns, report,
      other, report.same_value other, ?_, ?_⟩
    · rintro rfl
      exact report.same_place other
    · intro onlyThere
      exact (onlyThere _ _ _ other.isFirst.stands (other.same_value report)).symm
  · intro noneDefined
    obtain ⟨cause, isMissing, allFail⟩ := Dataset.report_missing connects searched noneDefined
    obtain ⟨otherCause, otherMissing, otherFail⟩ :=
      Dataset.report_missing otherConnects searched noneDefined
    exact ⟨cause, otherCause, isMissing, otherMissing, allFail, otherFail⟩

/-- A domain of one vertex with a coordinate and an entry of a field, both given by their words. -/
def warmVertex (domainId : Int) (coordinate warmth : BitVec 64) : Domain :=
  ⟨[("coords", .explicit ⟨.float .double [coordinate], .float .double [0], none⟩)],
    [("mesh", ⟨"coords", .points⟩)],
    [("warmth", ⟨"warmth", "vertex", "mesh", .scalar (.float .double [warmth])⟩)],
    [(.text "domain_id", .whole domainId)]⟩

/-- Three vertices, of which the first has entry 2 and the two others entry 1. -/
def tiedVertices : Dataset :=
  [warmVertex 0 0 0x4000000000000000, warmVertex 1 0x3ff0000000000000 0x3ff0000000000000,
    warmVertex 2 0x4000000000000000 0x3ff0000000000000]

theorem mem_tiedVertices {domain : Domain} (isVertex : domain ∈ tiedVertices) :
    ∃ domainId coordinate warmth, domain = warmVertex domainId coordinate warmth ∧
      -(2 ^ 63) ≤ domainId ∧ domainId < 2 ^ 64 := by
  simp only [tiedVertices, List.mem_cons, List.not_mem_nil, or_false] at isVertex
  rcases isVertex with rfl | rfl | rfl
  · exact ⟨0, _, _, rfl, by decide⟩
  · exact ⟨1, _, _, rfl, by decide⟩
  · exact ⟨2, _, _, rfl, by decide⟩

theorem tiedVertices_searched (extreme : Extreme) :
    HoldsSearchedReals extreme "warmth" [tiedVertices] := by
  intro dataset isShare holder isHolder
  rw [List.mem_singleton.mp isShare] at isHolder
  obtain ⟨domain, isVertex, isHolder⟩ := List.mem_filterMap.mp isHolder
  obtain ⟨domainId, coordinate, warmth, rfl, _⟩ := mem_tiedVertices isVertex
  cases isHolder
  refine ⟨[FloatWidth.double.toFloat warmth], rfl, ?_⟩
  rintro ⟨isUndefined, number, isEntry, isDefined⟩
  have firstUndefined : Scalar.isUndefined (FloatWidth.double.toFloat warmth) = true := isUndefined
  rw [List.mem_singleton.mp isEntry, firstUndefined] at isDefined
  cases isDefined

theorem warmVertices_resolve (areVertices : ∀ domain ∈ dataset, ∃ domainId coordinate warmth,
      domain = warmVertex domainId coordinate warmth ∧ -(2 ^ 63) ≤ domainId ∧ domainId < 2 ^ 64) :
    dataset.Resolves "warmth" := by
  intro place domain index number stands isEntry
  obtain ⟨domainId, coordinate, warmth, rfl, inRange⟩ :=
    areVertices domain (List.mem_of_getElem? stands)
  unfold Dataset.entry? at isEntry
  rw [stands] at isEntry
  have atIndex : [FloatWidth.double.toFloat warmth][index]? = some number := isEntry
  obtain ⟨inColumn, _⟩ := List.getElem?_eq_some_iff.mp atIndex
  have isOnly : index = 0 := Nat.lt_one_iff.mp inColumn
  subst isOnly
  exact ⟨⟨_, rfl⟩, domainId, rfl, inRange⟩

theorem tiedVertices_resolve : tiedVertices.Resolves "warmth" :=
  warmVertices_resolve fun _ => mem_tiedVertices

theorem extremum_of_two_deals_of_ties :
    GroupKind.alone.Connects 1 ∧ GroupKind.lockstep.Connects 2 ∧
    HoldsSearchedReals .least "warmth" [tiedVertices] ∧ tiedVertices.Resolves "warmth" ∧
    ∃ found otherFound,
      together .alone (extremumProgram .least (.text "warmth")) (tiedVertices.shares 1) =
        [.ok found] ∧
      together .lockstep (extremumProgram .least (.text "warmth")) (tiedVertices.shares 2) =
        [.ok otherFound, .ok otherFound] ∧
      Scalar.eq found.value otherFound.value = true := by
  have searched := tiedVertices_searched .least
  have resolves := tiedVertices_resolve
  refine ⟨rfl, by decide, searched, resolves, ?_⟩
  obtain ⟨reports, _⟩ := extremum_of_two_deals .least "warmth" tiedVertices .alone .lockstep 1 2 rfl
    (by decide) searched resolves
  obtain ⟨found, otherFound, _, _, _, _, returns, otherReturns, _, _, same, _⟩ :=
    reports ⟨0, 0, _, rfl, by decide +kernel⟩
  exact ⟨found, otherFound, returns, otherReturns, same⟩

/-- Where two domains attain the least entry, a process alone reports the first of them. Of two
processes, the one of rank 0 holds the second of them and not the first, and so this is reported. -/
theorem tied_extremum_moves :
    tiedVertices.Resolves "warmth" ∧ HoldsSearchedReals .least "warmth" [tiedVertices] ∧
    ∃ found otherFound,
      together .lockstep (extremumProgram .least (.text "warmth")) (tiedVertices.shares 1) =
        [.ok found] ∧
      together .lockstep (extremumProgram .least (.text "warmth")) (tiedVertices.shares 2) =
        [.ok otherFound, .ok otherFound] ∧
      found.domainId ≠ otherFound.domainId ∧ found.position ≠ otherFound.position := by
  let reported (outcome : Except Error (FieldExtremum Float)) : Option (Int × Nat) :=
    outcome.toOption.map fun found => (found.domainId, found.position.x.toBits.toNat)
  have searched := tiedVertices_searched .least
  have someDefined : ∃ place index number, tiedVertices.entry? "warmth" place index = some number ∧
      Scalar.isUndefined number = false := ⟨0, 0, _, rfl, by decide +kernel⟩
  obtain ⟨found, _, _, _, returns⟩ := Dataset.exists_report
    (show GroupKind.lockstep.Connects 1 by decide) searched tiedVertices_resolve someDefined
  obtain ⟨otherFound, _, _, _, otherReturns⟩ := Dataset.exists_report
    (show GroupKind.lockstep.Connects 2 by decide) searched tiedVertices_resolve someDefined
  have ofFirst : (together .lockstep (extremumProgram .least (.text "warmth"))
      (tiedVertices.shares 1)).map reported = [some (1, 0x3ff0000000000000)] := by decide +kernel
  have ofSecond : (together .lockstep (extremumProgram .least (.text "warmth"))
      (tiedVertices.shares 2)).map reported =
      [some (2, 0x4000000000000000), some (2, 0x4000000000000000)] := by decide +kernel
  rw [returns] at ofFirst
  rw [otherReturns] at ofSecond
  obtain ⟨firstDomain, firstWord⟩ : found.domainId = 1 ∧
      found.position.x.toBits.toNat = 0x3ff0000000000000 :=
    Prod.ext_iff.mp (Option.some.inj (List.cons.inj ofFirst).1)
  obtain ⟨secondDomain, secondWord⟩ : otherFound.domainId = 2 ∧
      otherFound.position.x.toBits.toNat = 0x4000000000000000 :=
    Prod.ext_iff.mp (Option.some.inj (List.cons.inj ofSecond).1)
  refine ⟨tiedVertices_resolve, searched, found, otherFound, returns, otherReturns, ?_, ?_⟩
  · rw [firstDomain, secondDomain]
    decide
  · intro same
    rw [same, secondWord] at firstWord
    cases firstWord

end Reports

end FieldSurvey
