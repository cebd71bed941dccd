import FieldSurvey.Proofs.Mesh.WrittenForm
import FieldSurvey.Proofs.Snapshot.RoundTrip

/-!
Datasets that are distributed over a group, either as they stand or by way of a snapshot. Both ways a
process gets the domains that are dealt to it, and those that come from a snapshot have the written
form of those that were dealt.
-/

namespace FieldSurvey

variable {dataset : Dataset} {size : Nat}

/-- A domain as it is read from a description whose arrays are stored as their types say, with state
variables that hold neither arrays nor numbers with a type. -/
structure Domain.IsSound (domain : Domain) : Prop where
  loaded : domain.IsLoaded
  stored : domain.IsStored
  plain : (Value.map domain.state).IsPlain

theorem isSound_of_dataset {description : Value} (held : description.HasStoredArrays)
    (read : Dataset.ofValue description = .ok dataset)
    (plain : ∀ domain ∈ dataset, (Value.map domain.state).IsPlain) :
    ∀ domain ∈ dataset, domain.IsSound := fun domain isDomain =>
  ⟨isLoaded_of_dataset read domain isDomain, isStored_of_dataset held read domain isDomain,
    plain domain isDomain⟩

/-- A snapshot has been written from which every process of a group reads its share. -/
def Dataset.IsServed (size : Nat) (dataset : Dataset) : Prop :=
  ∃ bytes, Snapshot.write dataset = .ok bytes ∧
    ∀ rank : Nat, rank < size → ∃ share, Snapshot.read bytes rank size = .ok share ∧
      share.map Domain.toValue = (dealt size rank dataset).map Domain.toValue

theorem map_toValue_flattened (share : Dataset) :
    (share.map Domain.flattened).map Domain.toValue = share.map Domain.toValue := by
  rw [List.map_map]
  exact List.map_congr_left fun domain _ => domain.toValue_flattened

/-- A snapshot serves all processes of a group if the dataset is portable, and else none. -/
theorem isServed_iff (isGroup : 0 < size) (sound : ∀ domain ∈ dataset, domain.IsSound) :
    dataset.IsServed size ↔ dataset.IsPortable := by
  have loaded := fun domain isDomain => (sound domain isDomain).loaded
  have steady := dataset_steady loaded (fun domain isDomain => (sound domain isDomain).stored)
    fun domain isDomain => (sound domain isDomain).plain
  constructor
  · rintro ⟨bytes, written, serves⟩
    obtain ⟨share, read, _⟩ := serves 0 isGroup
    obtain ⟨arrives, _⟩ := (read_share_eq_ok isGroup loaded steady.1 written).mp read
    exact ⟨(packWithin_eq_ok _ _).mp ⟨bytes, written⟩, steady.2.mp arrives⟩
  · intro portable
    obtain ⟨bytes, written⟩ := (packWithin_eq_ok _ _).mpr portable.fits
    have arrives := steady.2.mpr portable.domains
    refine ⟨bytes, written, ?_⟩
    intro rank inGroup
    exact ⟨_, (read_share_eq_ok inGroup loaded steady.1 written).mpr ⟨arrives, rfl⟩,
      map_toValue_flattened _⟩

/-- Every domain falls to one process, in the order of the dataset and at a distance of whole rounds;
no process gets more than one domain more than another, and taking the domains in turn gives back the
dataset. By way of a snapshot the processes get domains of the same written form, if the dataset is
portable. -/
theorem dataset_is_distributed (dataset : Dataset) (isGroup : 0 < size) :
    (∀ rank < size, ∀ round,
      (dealt size rank dataset)[round]? = dataset[rank + round * size]?) ∧
    (∀ place domain, dataset[place]? = some domain →
      ∃! slot : Nat × Nat, slot.1 < size ∧ slot.1 + slot.2 * size = place ∧
        (dealt size slot.1 dataset)[slot.2]? = some domain) ∧
    (∀ rank < size, ∀ other < size,
      (dealt size rank dataset).length ≤ (dealt size other dataset).length + 1) ∧
    takenInTurn (dataset.shares size) = dataset ∧
    ((∀ domain ∈ dataset, domain.IsSound) → (dataset.IsServed size ↔ dataset.IsPortable)) := by
  refine ⟨?_, ?_, ?_, takenInTurn_dealt isGroup dataset, isServed_iff isGroup⟩
  · exact fun rank inGroup round => getElem?_dealt inGroup dataset round
  · exact fun place domain stands => existsUnique_slot isGroup stands
  · exact fun rank inGroup other otherInGroup => length_dealt_le inGroup otherInGroup dataset

section Grids

theorem isPlain_no_state : (Value.map []).IsPlain :=
  .map (List.forall_mem_nil _) (List.forall_mem_nil _) (List.forall_mem_nil _) List.Pairwise.nil
    fun _ isMark => by cases isMark

theorem isSound_rowDomain : rowDomain.IsSound := by
  have held : rowDescription.HasStoredArrays := by simp [rowDescription]
  exact isSound_of_dataset held rfl (List.forall_mem_singleton.mpr isPlain_no_state) rowDomain
    List.mem_cons_self

theorem isSound_plateau : plateau.IsSound := by
  have held : plateauDescription.HasStoredArrays := by simp [plateauDescription]
  exact isSound_of_dataset held rfl (List.forall_mem_singleton.mpr isPlain_plateau_state) plateau
    List.mem_cons_self

theorem isPortable_plateau : plateau.IsPortable where
  coordsets := List.forall_mem_singleton.mpr (List.forall_mem_nil _)
  fields := List.forall_mem_nil _
  coordsetNames := by decide
  topologyNames := by decide
  fieldNames := by decide

/-- Two processes get the first and the third domain, and the second. -/
theorem three_grids_are_distributed :
    dealt 2 0 [plateau, rowDomain, plateau] = [plateau, plateau] ∧
      dealt 2 1 [plateau, rowDomain, plateau] = [rowDomain] ∧
      Dataset.IsServed 2 [plateau, rowDomain, plateau] := by
  have sound : ∀ domain ∈ [plateau, rowDomain, plateau], domain.IsSound := by
    simp only [List.forall_mem_cons]
    exact ⟨isSound_plateau, isSound_rowDomain, isSound_plateau, List.forall_mem_nil _⟩
  have portable : Dataset.IsPortable [plateau, rowDomain, plateau] := by
    refine ⟨(packWithin_eq_ok _ _).mp ⟨_, rfl⟩, ?_⟩
    simp only [List.forall_mem_cons]
    exact ⟨isPortable_plateau, isPortable_rowDomain, isPortable_plateau, List.forall_mem_nil _⟩
  have distributed := dataset_is_distributed [plateau, rowDomain, plateau] Nat.two_pos
  exact ⟨rfl, rfl, (distributed.2.2.2.2 sound).mpr portable⟩

def vastDescription : Value :=
  .record [("coordsets", .record [("grid", .record [("type", .text "uniform"),
    ("dims", .record [("i", .whole (2 ^ 64)), ("j", .whole 1)])])])]

def vastDomain : Domain where
  coordsets := [("grid", .uniform ⟨2 ^ 64, 1, none⟩ ⟨.ofFloat 0.0, .ofFloat 0.0, .ofFloat 0.0⟩
    ⟨.ofFloat 1.0, .ofFloat 1.0, .ofFloat 1.0⟩)]
  topologies := []
  fields := []
  state := []

/-- The extent of a grid may be too large for a snapshot, though the domain can be read and dealt. -/
theorem vast_grid_is_not_served :
    Dataset.ofValue vastDescription = .ok [vastDomain] ∧ vastDomain.IsSound ∧
      vastDomain.IsPortable ∧ dealt 1 0 [vastDomain] = [vastDomain] ∧
      Snapshot.write [vastDomain] = .error (.unpackable "int") ∧
      ¬Dataset.IsServed 1 [vastDomain] := by
  have read : Dataset.ofValue vastDescription = .ok [vastDomain] := rfl
  have refused : Snapshot.write [vastDomain] = .error (.unpackable "int") := rfl
  have held : vastDescription.HasStoredArrays := by simp [vastDescription]
  have sound : vastDomain.IsSound :=
    isSound_of_dataset held read (List.forall_mem_singleton.mpr isPlain_no_state) vastDomain
      List.mem_cons_self
  have portable : vastDomain.IsPortable :=
    ⟨List.forall_mem_singleton.mpr (List.forall_mem_nil _), List.forall_mem_nil _, by decide,
      by decide, by decide⟩
  refine ⟨read, sound, portable, rfl, refused, ?_⟩
  rintro ⟨bytes, written, _⟩
  rw [refused] at written
  cases written

end Grids

end FieldSurvey
