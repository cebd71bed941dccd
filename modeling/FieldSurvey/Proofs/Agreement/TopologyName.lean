import FieldSurvey.Proofs.Agreement.Ends
import FieldSurvey.Proofs.Group.LongestText

/-!
Which name a group tells for the topology of a field. Each process puts forward the name that the
first of its domains with the field stores, and the longest of these is told to all. A process says
nothing about its later domains, so a name that only they store is not found.
-/

namespace FieldSurvey

open ProcessGroup

/-- The names of topologies that domains store for a field. -/
def Dataset.topologyNames (field : String) (dataset : Dataset) : List String :=
  dataset.filterMap fun domain => (domain.fields.find? field).map Field.topology

/-- The name that a process puts forward: the one that its first domain with the field stores. -/
def Dataset.ownTopologyName (field : String) (dataset : Dataset) : String :=
  ((dataset.topologyNames field).head?).getD ""

theorem Dataset.look_fieldTopology (field : String) (dataset : Dataset) :
    (MetadataQuery.fieldTopology (.text field)).look dataset =
      .ok { text := dataset.ownTopologyName field } := by
  have sameNames : ((dataset.filterMap fun domain =>
        (domain.fields.find? field).map (domain, ·)).map fun holder => holder.2.topology) =
      dataset.topologyNames field := by
    unfold topologyNames
    rw [List.map_filterMap]
    congr 1
    funext domain
    cases domain.fields.find? field <;> rfl
  simp only [MetadataQuery.look, Dataset.havingField, Dataset.having_text, ok_bind]
  rw [← List.head?_map, sameNames]
  rfl

/-- What a process puts forward is stored in one of its domains, unless it is empty. -/
theorem Dataset.ownTopologyName_mem {field : String} {dataset : Dataset}
    (isKnown : dataset.ownTopologyName field ≠ "") :
    dataset.ownTopologyName field ∈ dataset.topologyNames field := by
  unfold ownTopologyName at isKnown ⊢
  cases names : dataset.topologyNames field with
  | nil =>
      rw [names] at isKnown
      exact absurd rfl isKnown
  | cons first rest => exact List.mem_cons_self

namespace MetadataQuery

variable {kind : GroupKind} {field : String} {datasets : List Dataset}

/-- The name that a group tells, whoever can tell it. -/
def toldTopologyName (field : String) (datasets : List Dataset) : String :=
  Bid.longest (datasets.map (Dataset.ownTopologyName field))

theorem mapM_look_fieldTopology (field : String) (datasets : List Dataset) :
    datasets.mapM (fieldTopology (.text field)).look =
      .ok (datasets.map fun dataset => { text := dataset.ownTopologyName field }) :=
  mapM_of_forall_ok fun dataset _ => dataset.look_fieldTopology field

theorem bids_fieldTopology (field : String) (datasets : List Dataset) :
    (datasets.map fun dataset => ({ text := dataset.ownTopologyName field } : Finding)).map
        (fieldTopology (.text field)).bid =
      (datasets.map (Dataset.ownTopologyName field)).map .ofText := by
  rw [List.map_map, List.map_map]
  rfl

theorem ownStep_fieldTopology (group : ProcessGroup) (dataset : Dataset) :
    (fieldTopology (.text field)).ownStep datasets group dataset =
      group.tellStep (Bid.winner? ((datasets.map (Dataset.ownTopologyName field)).map .ofText))
        (.ofText (dataset.ownTopologyName field)) := by
  unfold ownStep winner?
  rw [Dataset.look_fieldTopology, mapM_look_fieldTopology, ok_bind]
  simp only [tells, if_true, bids_fieldTopology]
  rfl

/-- If the name can be told, it is what all processes end with. -/
theorem topologyName_told (connects : kind.Connects datasets.length)
    (canTell : kind.CanTell (toldTopologyName field datasets)) :
    together kind (fieldTopology (.text field)).program datasets =
      datasets.map fun _ => .ok (.value (.text (toldTopologyName field datasets))) := by
  have succeeded : ∀ seat ∈ seats kind datasets,
      (fieldTopology (.text field)).ownStep datasets seat.1 seat.2 = .ok () := by
    intro seat isSeat
    rw [ownStep_fieldTopology]
    exact tellStep_of_canTell canTell isSeat
  have same : together kind (fieldTopology (.text field)).program datasets = _ :=
    ((fieldTopology (.text field)).ends connects).agree succeeded
  have isResult : (fieldTopology (.text field)).result kind datasets =
      .ok (.value (.text (toldTopologyName field datasets))) := by
    have someName : datasets.map (Dataset.ownTopologyName field) ≠ [] :=
      List.map_eq_nil_iff.not.mpr (List.ne_nil_of_length_pos connects.pos)
    unfold result
    rw [mapM_look_fieldTopology, ok_bind]
    unfold conclusion
    simp only [tells, if_true]
    rw [bids_fieldTopology, toldResult_longest someName]
    rfl
  rw [same, isResult]

theorem topologyName_untold (connects : kind.Connects datasets.length)
    (cannotTell : ¬ kind.CanTell (toldTopologyName field datasets)) :
    ∃ cause, .error cause ∈ together kind (fieldTopology (.text field)).program datasets := by
  obtain ⟨seat, isSeat, cause, fails⟩ :=
    exists_tellStep_of_cannotTell (List.ne_nil_of_length_pos connects.pos) cannotTell
  rw [← ownStep_fieldTopology] at fails
  have stranded : together kind (fieldTopology (.text field)).program datasets = _ :=
    ((fieldTopology (.text field)).ends connects).strand ⟨seat, isSeat, cause, fails⟩
  refine ⟨cause, ?_⟩
  rw [stranded]
  exact List.mem_map.mpr ⟨seat, isSeat, by rw [fails]; rfl⟩

theorem toldTopologyName_eq_empty : toldTopologyName field datasets = "" ↔
    ∀ dataset ∈ datasets, dataset.ownTopologyName field = "" := by
  unfold toldTopologyName
  rw [Bid.longest_eq_empty, List.forall_mem_map]

theorem mem_topologyNames_flatten {stored : String} :
    stored ∈ Dataset.topologyNames field datasets.flatten ↔
      ∃ dataset ∈ datasets, stored ∈ dataset.topologyNames field := by
  unfold Dataset.topologyNames
  rw [List.filterMap_flatten, List.mem_flatten]
  simp only [List.mem_map, exists_exists_and_eq_and]

/-- A name that is told is stored by some domain, unless it is empty. -/
theorem toldTopologyName_mem (isKnown : toldTopologyName field datasets ≠ "") :
    toldTopologyName field datasets ∈ Dataset.topologyNames field datasets.flatten := by
  have someName : datasets.map (Dataset.ownTopologyName field) ≠ [] := by
    intro noName
    refine isKnown (toldTopologyName_eq_empty.mpr ?_)
    rw [List.map_eq_nil_iff.mp noName]
    simp
  obtain ⟨dataset, isShare, isOwn⟩ := List.mem_map.mp (Bid.longest_mem someName)
  refine mem_topologyNames_flatten.mpr ⟨dataset, isShare, ?_⟩
  have ownIsTold : dataset.ownTopologyName field = toldTopologyName field datasets := isOwn
  rw [← ownIsTold] at isKnown ⊢
  exact Dataset.ownTopologyName_mem isKnown

/-- Names that are short enough to be packed can all be told. -/
theorem canTell_of_brief (brief : ∀ stored ∈ Dataset.topologyNames field datasets.flatten,
    stored.toUTF8.size < 2 ^ 32) : kind.CanTell (toldTopologyName field datasets) := by
  right
  by_cases isUnknown : toldTopologyName field datasets = ""
  · rw [isUnknown]
    decide
  · exact brief _ (toldTopologyName_mem isUnknown)

/-- Every known name is found: all processes end with one text, which some domain stores for the
field, or which is empty if no domain stores any other. -/
def FindsKnownTopology (kind : GroupKind) (field : String) (datasets : List Dataset) : Prop :=
  ∃ text, together kind (fieldTopology (.text field)).program datasets =
      datasets.map (fun _ => .ok (.value (.text text))) ∧
    (text ≠ "" → text ∈ Dataset.topologyNames field datasets.flatten) ∧
    (text = "" → ∀ stored ∈ Dataset.topologyNames field datasets.flatten, stored = "")

/-- As long as the chosen name can be told, all processes of a group end with it, and unless it is
empty some domain stores it for the field. Every known name is found exactly if it can be told and
either no domain stores one or some process has one in the first of its domains with the field: names
that only later domains store are lost. -/
theorem fieldTopology_found_iff (kind : GroupKind) (field : String) (datasets : List Dataset)
    (connects : kind.Connects datasets.length) :
    (kind.CanTell (toldTopologyName field datasets) →
      ∃ text, together kind (fieldTopology (.text field)).program datasets =
          datasets.map (fun _ => .ok (.value (.text text))) ∧
        (text ≠ "" → text ∈ Dataset.topologyNames field datasets.flatten)) ∧
    (FindsKnownTopology kind field datasets ↔
      kind.CanTell (toldTopologyName field datasets) ∧
        ((∀ stored ∈ Dataset.topologyNames field datasets.flatten, stored = "") ∨
          ∃ dataset ∈ datasets, dataset.ownTopologyName field ≠ "")) := by
  have told (canTell : kind.CanTell (toldTopologyName field datasets)) :=
    topologyName_told connects canTell
  have someTold : (∃ dataset ∈ datasets, dataset.ownTopologyName field ≠ "") ↔
      toldTopologyName field datasets ≠ "" := by
    rw [ne_eq, toldTopologyName_eq_empty]
    push Not
    rfl
  rw [someTold]
  refine ⟨fun canTell => ⟨_, told canTell, toldTopologyName_mem⟩, ?_⟩
  constructor
  · rintro ⟨text, same, _, onlyUnknown⟩
    have canTell : kind.CanTell (toldTopologyName field datasets) := by
      by_contra cannotTell
      obtain ⟨cause, fails⟩ := topologyName_untold connects cannotTell
      rw [same] at fails
      obtain ⟨_, _, isText⟩ := List.mem_map.mp fails
      cases isText
    refine ⟨canTell, ?_⟩
    by_cases isUnknown : toldTopologyName field datasets = ""
    · left
      apply onlyUnknown
      rw [told canTell] at same
      obtain ⟨first, rest, isShare⟩ :=
        List.exists_cons_of_ne_nil (List.ne_nil_of_length_pos connects.pos)
      rw [isShare, List.map_cons, List.map_cons, ← isShare, isUnknown] at same
      exact (Value.text.inj (Answer.value.inj (Except.ok.inj (List.cons.inj same).1))).symm
    · exact .inr isUnknown
  · rintro ⟨canTell, known⟩
    refine ⟨_, told canTell, toldTopologyName_mem, ?_⟩
    intro isUnknown
    exact known.resolve_right fun isKnown => isKnown isUnknown

def warmthOver (topology : String) : Domain :=
  ⟨[], [], [("warmth", ⟨"warmth", "vertex", topology, .scalar (.truth [true])⟩)], []⟩

theorem fieldTopology_found_iff_for_two :
    GroupKind.lockstep.Connects 2 ∧
      FindsKnownTopology .lockstep "warmth" [[warmthOver "", warmthOver "grid"], [warmthOver "mesh"]] := by
  refine ⟨by decide, ?_⟩
  obtain ⟨_, finds⟩ := fieldTopology_found_iff .lockstep "warmth"
    [[warmthOver "", warmthOver "grid"], [warmthOver "mesh"]] (by decide)
  refine finds.mpr ⟨canTell_of_brief (by decide), .inr ⟨[warmthOver "mesh"], by simp, by decide⟩⟩

/-- The first domain with a field stores no name for its topology, and the name in the second is
lost. -/
theorem fieldTopology_lost_behind_unnamed :
    ¬ FindsKnownTopology .alone "warmth" [[warmthOver "", warmthOver "mesh"]] := by
  rintro ⟨text, same, _, onlyUnknown⟩
  have isUnknown : toldTopologyName "warmth" [[warmthOver "", warmthOver "mesh"]] = "" :=
    toldTopologyName_eq_empty.mpr (by decide)
  rw [topologyName_told (by decide) (.inl rfl), isUnknown] at same
  have isEmpty : "" = text :=
    Value.text.inj (Answer.value.inj (Except.ok.inj (List.cons.inj same).1))
  have noMesh := onlyUnknown isEmpty.symm "mesh" (by decide)
  exact absurd noMesh (by decide)

end MetadataQuery

end FieldSurvey
