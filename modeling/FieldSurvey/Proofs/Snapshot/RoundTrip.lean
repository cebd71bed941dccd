import FieldSurvey.Proofs.Mesh.Answers
import FieldSurvey.Proofs.Packed.Limits
import FieldSurvey.Proofs.Snapshot.Dealing
import FieldSurvey.Proofs.Snapshot.Portable

/-!
Writing a dataset and reading it back. A domain that is read back from its description, or from a
snapshot, answers every query as before unless it has a mesh over a uniform grid in the plane that
lies at a height; and a snapshot can be written and read back exactly if what it holds fits and every
domain is portable.
-/

namespace FieldSurvey

/-- A dataset fits into a snapshot, and each of its domains can travel in one. -/
structure Dataset.IsPortable (dataset : Dataset) : Prop where
  fits : (Snapshot.toValue dataset).Fits writingDepth
  domains : ∀ domain ∈ dataset, domain.IsPortable

section Loading

variable {description : Value} {dataset : Dataset}

theorem isLoaded_of_dataset (read : Dataset.ofValue description = .ok dataset) :
    ∀ domain ∈ dataset, domain.IsLoaded := by
  intro domain isDomain
  obtain ⟨parts, _, reads⟩ := bind_eq_ok.mp read
  obtain ⟨part, _, readsPart⟩ := exists_of_mem_mapM reads isDomain
  exact isLoaded_of_ofValue readsPart

end Loading

section Snapshots

variable {dataset : Dataset}

theorem dataset_steady (loaded : ∀ domain ∈ dataset, domain.IsLoaded)
    (stored : ∀ domain ∈ dataset, domain.IsStored)
    (plain : ∀ domain ∈ dataset, (Value.map domain.state).IsPlain) :
    (Snapshot.toValue dataset).IsSteady ∧
      ((Snapshot.toValue dataset).Arrives ↔ ∀ domain ∈ dataset, domain.IsPortable) := by
  have domains (domain : Domain) (isDomain : domain ∈ dataset) :=
    domain_steady (loaded domain isDomain) (stored domain isDomain) (plain domain isDomain)
  have listed := Value.list_steady (dataset.map Domain.toValue)
    (List.forall_mem_map.mpr fun domain isDomain => (domains domain isDomain).1)
  have whole := Value.record_steady [("format", .text Snapshot.formatName),
    ("version", .whole Snapshot.version), ("domains", .list (dataset.map Domain.toValue))]
    (by decide : ["format", "version", "domains"].Nodup)
    (by decide : arrayMark ∉ ["format", "version", "domains"]) (by
      rw [List.forall_mem_cons, List.forall_mem_cons, List.forall_mem_singleton]
      exact ⟨(Value.text_arrives _).isSteady, (Value.whole_arrives _).isSteady, listed.1⟩)
  rw [List.forall_mem_cons, List.forall_mem_cons, List.forall_mem_singleton] at whole
  refine ⟨whole.1, whole.2.trans ?_⟩
  rw [and_iff_right (Value.text_arrives _), and_iff_right (Value.whole_arrives _), listed.2,
    List.forall_mem_map]
  exact forall₂_congr fun domain isDomain => (domains domain isDomain).2

theorem descriptions_toValue :
    Snapshot.descriptions (Snapshot.toValue dataset) = .ok (dataset.map Domain.toValue) := rfl

/-- A process reads its share of what has been written, flattened, if the snapshot arrives. -/
theorem read_share_eq_ok {bytes : Bytes} {copies : Dataset} {rank size : Nat}
    (inGroup : rank < size) (loaded : ∀ domain ∈ dataset, domain.IsLoaded)
    (steady : (Snapshot.toValue dataset).IsSteady)
    (written : Snapshot.write dataset = .ok bytes) :
    Snapshot.read bytes rank size = .ok copies ↔
      (Snapshot.toValue dataset).Arrives ∧
        copies = (dealt size rank dataset).map Domain.flattened := by
  have arrived : unpack bytes = (Snapshot.toValue dataset).transit := unpack_pack written
  have isMember : ¬((size : Int) ≤ 0 ∨ (rank : Int) < 0 ∨ (size : Int) ≤ rank) := by omega
  have reads : (dealt size rank (dataset.map Domain.toValue)).mapM Domain.ofValue =
      .ok ((dealt size rank dataset).map Domain.flattened) := by
    rw [dealt_map]
    exact mapM_map_of_forall_ok Domain.flattened fun domain isDomain =>
      domain_ofValue_toValue (loaded domain ((dealt_sublist size rank dataset).mem isDomain))
  unfold Snapshot.read
  rw [if_neg isMember, arrived]
  constructor
  · intro read
    obtain ⟨content, passes, read⟩ := bind_eq_ok.mp read
    obtain ⟨parts, described, read⟩ := bind_eq_ok.mp read
    -- What arrives is the snapshot itself, so the descriptions are those that were written.
    have isSame := steady content passes
    rw [isSame] at passes described
    rw [descriptions_toValue] at described
    cases described
    rw [reads] at read
    cases read
    exact ⟨passes, rfl⟩
  · rintro ⟨arrives, rfl⟩
    rw [arrives, ok_bind, descriptions_toValue, ok_bind, reads]

theorem read_eq_ok {bytes : Bytes} {copies : Dataset}
    (loaded : ∀ domain ∈ dataset, domain.IsLoaded)
    (steady : (Snapshot.toValue dataset).IsSteady)
    (written : Snapshot.write dataset = .ok bytes) :
    Snapshot.read bytes 0 1 = .ok copies ↔
      (Snapshot.toValue dataset).Arrives ∧ copies = dataset.map Domain.flattened := by
  have share : Snapshot.read bytes (0 : Nat) (1 : Nat) = .ok copies ↔ _ :=
    read_share_eq_ok Nat.one_pos loaded steady written
  rw [show dealt (1 : Nat) (0 : Nat) dataset = dataset from dealt_one dataset] at share
  exact share

end Snapshots

/-- A domain that was read from a description comes back from its own description, and it answers as
before exactly if none of its meshes lies at a height. A dataset comes back from a snapshot with
domains that answer as before exactly if it is portable and the same holds of every domain. -/
theorem reload_answers_alike_iff {description : Value} {dataset : Dataset}
    (held : description.HasStoredArrays) (loaded : Dataset.ofValue description = .ok dataset)
    (plain : ∀ domain ∈ dataset, (Value.map domain.state).IsPlain) :
    (∀ domain ∈ dataset, ∃ copy, Domain.ofValue domain.toValue = .ok copy ∧
      (domain.AnswersAlike copy ↔ ¬domain.LiesAtHeight)) ∧
    ((∃ bytes copies, Snapshot.write dataset = .ok bytes ∧ Snapshot.read bytes 0 1 = .ok copies ∧
        List.Forall₂ Domain.AnswersAlike dataset copies) ↔
      dataset.IsPortable ∧ ∀ domain ∈ dataset, ¬domain.LiesAtHeight) := by
  have allLoaded := isLoaded_of_dataset loaded
  have steady := dataset_steady allLoaded (isStored_of_dataset held loaded) plain
  constructor
  · intro domain isDomain
    exact ⟨domain.flattened, domain_ofValue_toValue (allLoaded domain isDomain),
      answersAlike_flattened_iff⟩
  · have alike : List.Forall₂ Domain.AnswersAlike dataset (dataset.map Domain.flattened) ↔
        ∀ domain ∈ dataset, ¬domain.LiesAtHeight := by
      rw [List.forall₂_map_right_iff, List.forall₂_same]
      exact forall₂_congr fun domain _ => answersAlike_flattened_iff
    rw [← alike]
    constructor
    · rintro ⟨bytes, copies, written, read, answersAlike⟩
      obtain ⟨arrives, rfl⟩ := (read_eq_ok allLoaded steady.1 written).mp read
      exact ⟨⟨(packWithin_eq_ok _ _).mp ⟨bytes, written⟩, steady.2.mp arrives⟩, answersAlike⟩
    · rintro ⟨portable, answersAlike⟩
      obtain ⟨bytes, written⟩ := (packWithin_eq_ok _ _).mpr portable.fits
      have arrives := steady.2.mpr portable.domains
      exact ⟨bytes, _, written, (read_eq_ok allLoaded steady.1 written).mpr ⟨arrives, rfl⟩,
        answersAlike⟩

section Grids

def rowDescription : Value :=
  .record [
    ("coordsets", .record [("plane", .record [("type", .text "uniform"),
      ("dims", .record [("i", .whole 2), ("j", .whole 1)])])]),
    ("topologies", .record [("mesh", .record [("type", .text "uniform"),
      ("coordset", .text "plane")])]),
    ("fields", .record [("count", .record [("association", .text "vertex"),
      ("topology", .text "mesh"), ("values", .array [2] (.int .int64 [3, 4]))])])]

def rowDomain : Domain where
  coordsets := [("plane", .uniform ⟨2, 1, none⟩ ⟨.ofFloat 0.0, .ofFloat 0.0, .ofFloat 0.0⟩
    ⟨.ofFloat 1.0, .ofFloat 1.0, .ofFloat 1.0⟩)]
  topologies := [("mesh", ⟨"plane", .uniform⟩)]
  fields := [("count", ⟨"count", "vertex", "mesh", .scalar (.int .int64 [3, 4])⟩)]
  state := []

theorem not_liesAtHeight_rowDomain : ¬rowDomain.LiesAtHeight := by
  apply not_liesAtHeight_of_origins
  intro entry isEntry extents origin spacing isUniform _
  rw [List.mem_singleton.mp isEntry] at isUniform
  cases isUniform
  rfl

theorem isPortable_rowDomain : rowDomain.IsPortable where
  coordsets := List.forall_mem_singleton.mpr (List.forall_mem_nil _)
  fields := by
    refine List.forall_mem_singleton.mpr ⟨List.forall_mem_singleton.mpr trivial, ?_⟩
    intro columns isComponents
    cases isComponents
  coordsetNames := by decide
  topologyNames := by decide
  fieldNames := by decide

theorem reload_answers_alike_for_row :
    rowDescription.HasStoredArrays ∧ Dataset.ofValue rowDescription = .ok [rowDomain] ∧
      (∀ domain ∈ [rowDomain], (Value.map domain.state).IsPlain) ∧
      (∃ copy, Domain.ofValue rowDomain.toValue = .ok copy ∧ rowDomain.AnswersAlike copy) ∧
      ∃ bytes copies, Snapshot.write [rowDomain] = .ok bytes ∧
        Snapshot.read bytes 0 1 = .ok copies ∧
        List.Forall₂ Domain.AnswersAlike [rowDomain] copies := by
  have held : rowDescription.HasStoredArrays := by simp [rowDescription]
  have loaded : Dataset.ofValue rowDescription = .ok [rowDomain] := rfl
  have plain : ∀ domain ∈ [rowDomain], (Value.map domain.state).IsPlain :=
    List.forall_mem_singleton.mpr (.map (List.forall_mem_nil _) (List.forall_mem_nil _)
      (List.forall_mem_nil _) List.Pairwise.nil fun _ isMark => by cases isMark)
  have portable : Dataset.IsPortable [rowDomain] :=
    ⟨(packWithin_eq_ok _ _).mp ⟨_, rfl⟩, List.forall_mem_singleton.mpr isPortable_rowDomain⟩
  obtain ⟨fromDescription, fromSnapshot⟩ := reload_answers_alike_iff held loaded plain
  obtain ⟨copy, read, alike⟩ := fromDescription rowDomain List.mem_cons_self
  exact ⟨held, loaded, plain, ⟨copy, read, alike.mpr not_liesAtHeight_rowDomain⟩,
    fromSnapshot.mpr ⟨portable, List.forall_mem_singleton.mpr not_liesAtHeight_rowDomain⟩⟩

def plateauDescription : Value :=
  .record [
    ("coordsets", .record [("plane", .record [("type", .text "uniform"),
      ("dims", .record [("i", .whole 2), ("j", .whole 2)]),
      ("origin", .record [("x", .ofFloat 0.0), ("y", .ofFloat 0.0), ("z", .ofFloat 5.0)])])]),
    ("topologies", .record [("mesh", .record [("type", .text "uniform"),
      ("coordset", .text "plane")])]),
    ("state", .record [("domain_id", .whole 7)])]

def plateau : Domain where
  coordsets := [("plane", .uniform ⟨2, 2, none⟩ ⟨.ofFloat 0.0, .ofFloat 0.0, .ofFloat 5.0⟩
    ⟨.ofFloat 1.0, .ofFloat 1.0, .ofFloat 1.0⟩)]
  topologies := [("mesh", ⟨"plane", .uniform⟩)]
  fields := []
  state := [(.text "domain_id", .whole 7)]

theorem isPlain_plateau_state : (Value.map plateau.state).IsPlain :=
  .map (List.forall_mem_singleton.mpr rfl) (List.forall_mem_singleton.mpr (.text _))
    (List.forall_mem_singleton.mpr (.whole _)) (List.pairwise_singleton _ _)
    fun _ isMark => by cases isMark

/-- The grid at height 5 comes back at height 0. -/
theorem plateau_comes_back_lower :
    Dataset.ofValue plateauDescription = .ok [plateau] ∧ (Value.map plateau.state).IsPlain ∧
      ∃ copy, Domain.ofValue plateau.toValue = .ok copy ∧
        plateau.vertexLocation "mesh" (.ok 0) = .ok ⟨0.0, 0.0, 5.0⟩ ∧
        copy.vertexLocation "mesh" (.ok 0) = .ok ⟨0.0, 0.0, 0.0⟩ ∧
        ¬plateau.AnswersAlike copy := by
  have loaded : Dataset.ofValue plateauDescription = .ok [plateau] := rfl
  have before : plateau.vertexLocation "mesh" (.ok 0) = .ok ⟨0.0, 0.0, 5.0⟩ := rfl
  have after : plateau.flattened.vertexLocation "mesh" (.ok 0) = .ok ⟨0.0, 0.0, 0.0⟩ := rfl
  refine ⟨loaded, isPlain_plateau_state, plateau.flattened, ?_, before, after, ?_⟩
  · exact domain_ofValue_toValue (isLoaded_of_dataset loaded plateau List.mem_cons_self)
  · intro alike
    have same := alike.vertexLocation "mesh" (.ok 0)
    rw [before, after] at same
    have sameHeight := congrArg Position.z (Except.ok.inj same)
    exact absurd sameHeight (by decide)

end Grids

end FieldSurvey
