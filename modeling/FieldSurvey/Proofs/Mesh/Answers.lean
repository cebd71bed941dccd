import FieldSurvey.Mesh.Location
import FieldSurvey.Proofs.Mesh.Reload

/-!
What a domain tells about itself, before and after it has been read back from its description. The
two tell the same unless a mesh over a uniform grid in the plane lies at a height: reading back puts
it at height 0.
-/

namespace FieldSurvey

/-- Two domains answer every query about themselves alike. -/
structure Domain.AnswersAlike (left right : Domain) : Prop where
  fields : left.fields = right.fields
  state : left.state = right.state
  chooseTopology : ∀ requested, left.chooseTopology requested = right.chooseTopology requested
  isThreeDimensional : ∀ topology,
    left.isThreeDimensional topology = right.isThreeDimensional topology
  pointCount : ∀ topology, left.pointCount topology = right.pointCount topology
  elementCount : ∀ topology, left.elementCount topology = right.elementCount topology
  elementPoints : ∀ topology index,
    left.elementPoints topology index = right.elementPoints topology index
  vertexLocation : ∀ topology index,
    left.vertexLocation topology index = right.vertexLocation topology index
  elementLocation : ∀ topology index,
    left.elementLocation topology index = right.elementLocation topology index

/-- A mesh over a uniform grid in the plane has a vertex or an element, and its points have a third
coordinate other than 0. -/
def Domain.LiesAtHeight (domain : Domain) : Prop :=
  ∃ topology index position extents origin spacing,
    domain.coordset topology = .ok (.uniform extents origin spacing) ∧ extents.z = none ∧
    origin.z.toFloat ≠ (Double.ofFloat 0.0).toFloat ∧
    (domain.vertexLocation topology index = .ok position ∨
      domain.elementLocation topology index = .ok position)

section Flattening

/-- A position as a coordinate set gives it after having been read back. -/
def Coordset.lowered (coordset : Coordset) (position : Position Float) : Position Float :=
  match coordset with
  | .uniform ⟨_, _, none⟩ _ _ => { position with z := (Double.ofFloat 0.0).toFloat }
  | _ => position

theorem flattened_cases (coordset : Coordset) :
    (coordset.flattened = coordset ∧ ∀ position, coordset.lowered position = position) ∨
      ∃ i j origin spacing, coordset = .uniform ⟨i, j, none⟩ origin spacing := by
  match coordset with
  | .uniform ⟨i, j, none⟩ origin spacing => exact .inr ⟨i, j, origin, spacing, rfl⟩
  | .uniform ⟨_, _, some _⟩ _ _ => exact .inl ⟨rfl, fun _ => rfl⟩
  | .rectilinear _ => exact .inl ⟨rfl, fun _ => rfl⟩
  | .explicit _ => exact .inl ⟨rfl, fun _ => rfl⟩

theorem tells_flattened {β : Type} (tell : Coordset → β)
    (blind : ∀ i j origin spacing, tell (Coordset.flattened (.uniform ⟨i, j, none⟩ origin spacing)) =
      tell (.uniform ⟨i, j, none⟩ origin spacing))
    (coordset : Coordset) : tell coordset.flattened = tell coordset := by
  rcases flattened_cases coordset with ⟨same, _⟩ | ⟨i, j, origin, spacing, rfl⟩
  · rw [same]
  · exact blind i j origin spacing

theorem kind_flattened (coordset : Coordset) : coordset.flattened.kind = coordset.kind :=
  tells_flattened Coordset.kind (fun _ _ _ _ => rfl) coordset

theorem isThreeDimensional_flattened (coordset : Coordset) :
    coordset.flattened.isThreeDimensional = coordset.isThreeDimensional :=
  tells_flattened Coordset.isThreeDimensional (fun _ _ _ _ => rfl) coordset

theorem pointCount_flattened (coordset : Coordset) :
    coordset.flattened.pointCount = coordset.pointCount :=
  tells_flattened Coordset.pointCount (fun _ _ _ _ => rfl) coordset

theorem elementExtents_flattened (coordset : Coordset) :
    coordset.flattened.elementExtents = coordset.elementExtents :=
  tells_flattened Coordset.elementExtents (fun _ _ _ _ => rfl) coordset

theorem elementCount_flattened (topology : Topology) (coordset : Coordset) :
    topology.elementCount coordset.flattened = topology.elementCount coordset := by
  unfold Topology.elementCount
  rw [pointCount_flattened, elementExtents_flattened]

theorem elementPoints_flattened (topology : Topology) (coordset : Coordset)
    (index : Except Error Int) :
    topology.elementPoints coordset.flattened index = topology.elementPoints coordset index := by
  unfold Topology.elementPoints
  rw [elementCount_flattened, elementExtents_flattened]

/-- In the plane the heights of the origin and of the steps are not computed with. -/
theorem uniformPoint_plane (i j : Int) (origin spacing : Position Double) (height step : Double)
    (find : Float → Float → Int → Except Error Float) (placed : Except Error GridIndex) :
    (do
      let place ← placed
      Coordinates.uniformPoint ⟨i, j, none⟩
        (Position.map Double.toFloat { origin with z := height })
        (Position.map Double.toFloat { spacing with z := step }) find place) =
      (do
        let position ← (do
          let place ← placed
          Coordinates.uniformPoint ⟨i, j, none⟩ (origin.map Double.toFloat)
            (spacing.map Double.toFloat) find place)
        return { position with z := height.toFloat }) := by
  cases placed with
  | error cause => rfl
  | ok place =>
      unfold Coordinates.uniformPoint
      simp only [Position.map, ok_bind]
      cases find origin.x.toFloat spacing.x.toFloat place.i with
      | error cause => rfl
      | ok x =>
          cases find origin.y.toFloat spacing.y.toFloat place.j with
          | error cause => rfl
          | ok y => rfl

theorem vertex_flattened (coordset : Coordset) (index : Int) :
    coordset.flattened.coordinates.vertex index = (do
      let position ← coordset.coordinates.vertex index
      return coordset.lowered position) := by
  rcases flattened_cases coordset with ⟨same, unchanged⟩ | ⟨i, j, origin, spacing, rfl⟩
  · rw [same]
    simp only [unchanged, bind_pure]
  · exact uniformPoint_plane i j origin spacing (.ofFloat 0.0) (.ofFloat 1.0) Coordinates.along
      (GridIndex.ofFlat index [i, j])

theorem elementCentre_flattened (coordset : Coordset) (points : Except Error (List Int))
    (index : Int) :
    coordset.flattened.coordinates.elementCentre points index = (do
      let position ← coordset.coordinates.elementCentre points index
      return coordset.lowered position) := by
  rcases flattened_cases coordset with ⟨same, unchanged⟩ | ⟨i, j, origin, spacing, rfl⟩
  · rw [same]
    simp only [unchanged, bind_pure]
  · exact uniformPoint_plane i j origin spacing (.ofFloat 0.0) (.ofFloat 1.0) _
      (GridIndex.ofFlat index [i - 1, j - 1])

theorem vertexLocation_flattened (coordset : Coordset) (index : Except Error Int) :
    coordset.flattened.vertexLocation index = (do
      let position ← coordset.vertexLocation index
      return coordset.lowered position) := by
  unfold Coordset.vertexLocation
  rw [pointCount_flattened, bind_assoc]
  simp only [vertex_flattened]

theorem elementLocation_flattened (topology : Topology) (coordset : Coordset)
    (index : Except Error Int) :
    topology.elementLocation coordset.flattened index = (do
      let position ← topology.elementLocation coordset index
      return coordset.lowered position) := by
  unfold Topology.elementLocation
  rw [elementCount_flattened]
  cases topology.elementCount coordset with
  | error cause => rfl
  | ok count =>
      simp only [ok_bind]
      cases checkedIndex .element count index with
      | error cause => rfl
      | ok index =>
          simp only [ok_bind]
          split
          · exact vertex_flattened coordset index
          · rw [elementPoints_flattened]
            exact elementCentre_flattened coordset _ index

end Flattening

section Heights

variable {i j : Int} {origin spacing : Position Double} {index : Except Error Int}
  {position : Position Float}

theorem uniformPoint_height {origin spacing position : Position Float}
    {find : Float → Float → Int → Except Error Float} {place : GridIndex}
    (found : Coordinates.uniformPoint ⟨i, j, none⟩ origin spacing find place = .ok position) :
    position.z = origin.z := by
  unfold Coordinates.uniformPoint at found
  obtain ⟨x, _, found⟩ := bind_eq_ok.mp found
  obtain ⟨y, _, found⟩ := bind_eq_ok.mp found
  cases found
  rfl

theorem vertexLocation_height
    (found : Coordset.vertexLocation (.uniform ⟨i, j, none⟩ origin spacing) index = .ok position) :
    position.z = origin.z.toFloat := by
  obtain ⟨place, _, found⟩ := bind_eq_ok.mp found
  obtain ⟨place, _, found⟩ := bind_eq_ok.mp found
  exact uniformPoint_height found

theorem elementLocation_height {topology : Topology}
    (found : topology.elementLocation (.uniform ⟨i, j, none⟩ origin spacing) index =
      .ok position) :
    position.z = origin.z.toFloat := by
  obtain ⟨count, _, found⟩ := bind_eq_ok.mp found
  obtain ⟨own, _, found⟩ := bind_eq_ok.mp found
  split at found
  · obtain ⟨place, _, found⟩ := bind_eq_ok.mp found
    exact uniformPoint_height found
  · obtain ⟨place, _, found⟩ := bind_eq_ok.mp found
    exact uniformPoint_height found

/-- A way to find a position over a coordinate set that needs the height of a grid in the plane only
for the height of what it finds. -/
structure KeepsHeight (locate : Coordset → Except Error (Position Float)) : Prop where
  flattened : ∀ coordset, locate coordset.flattened = (do
    let position ← locate coordset
    return coordset.lowered position)
  height : ∀ {i j origin spacing position},
    locate (.uniform ⟨i, j, none⟩ origin spacing) = .ok position → position.z = origin.z.toFloat

theorem vertexLocation_keepsHeight (index : Except Error Int) :
    KeepsHeight fun coordset => coordset.vertexLocation index where
  flattened coordset := vertexLocation_flattened coordset index
  height found := vertexLocation_height found

theorem elementLocation_keepsHeight (elements : Except Error Topology)
    (index : Except Error Int) :
    KeepsHeight fun coordset => do
      let elements ← elements
      elements.elementLocation coordset index where
  flattened coordset := by
    cases elements with
    | error cause => rfl
    | ok topology => exact elementLocation_flattened topology coordset index
  height found := by
    obtain ⟨topology, _, found⟩ := bind_eq_ok.mp found
    exact elementLocation_height found

theorem KeepsHeight.unchanged_iff {locate : Coordset → Except Error (Position Float)}
    (keeps : KeepsHeight locate) (coordset : Coordset) :
    locate coordset = locate coordset.flattened ↔
      ∀ i j origin spacing position, coordset = .uniform ⟨i, j, none⟩ origin spacing →
        locate coordset = .ok position → origin.z.toFloat = (Double.ofFloat 0.0).toFloat := by
  rw [keeps.flattened]
  constructor
  · rintro unchanged i j origin spacing position rfl found
    rw [found] at unchanged
    have low := congrArg Position.z (Except.ok.inj unchanged)
    exact (keeps.height found).symm.trans low
  · intro low
    cases found : locate coordset with
    | error cause => rfl
    | ok position =>
        -- A grid in the plane gives its own height, which is the one that is read back.
        rcases flattened_cases coordset with ⟨_, unchanged⟩ | ⟨i, j, origin, spacing, rfl⟩
        · rw [ok_bind, unchanged]
          rfl
        · have height := keeps.height found
          rw [low i j origin spacing position rfl found] at height
          rw [ok_bind]
          unfold Coordset.lowered
          rw [← height]
          rfl

end Heights

section Queries

variable (domain : Domain) (topology : String)

theorem coordset_flattened :
    domain.flattened.coordset topology = (do
      let coordset ← domain.coordset topology
      return coordset.flattened) := by
  have sameTopology : domain.flattened.topology topology = domain.topology topology := rfl
  unfold Domain.coordset
  rw [sameTopology]
  cases domain.topology topology with
  | error cause => rfl
  | ok found =>
      simp only [ok_bind]
      unfold Domain.flattened
      dsimp only
      rw [Registry.find?_map]
      cases domain.coordsets.find? found.coordset with
      | none => rfl
      | some coordset =>
          dsimp only [Option.map]
          rw [kind_flattened]
          cases found.kind.mayUse coordset.kind with
          | false => rfl
          | true => rfl

theorem onMesh_flattened {β : Type} (answer : Topology → Coordset → Except Error β) :
    (do
      let elements ← domain.flattened.topology topology
      let coordset ← domain.flattened.coordset topology
      answer elements coordset) =
    (do
      let elements ← domain.topology topology
      let coordset ← domain.coordset topology
      answer elements coordset.flattened) := by
  have sameTopology : domain.flattened.topology topology = domain.topology topology := rfl
  rw [coordset_flattened, sameTopology]
  simp only [bind_assoc, pure_bind]

variable {domain topology}

theorem not_liesAtHeight_of_origins
    (low : ∀ entry ∈ domain.coordsets, ∀ extents origin spacing,
      entry.2 = .uniform extents origin spacing → extents.z = none →
        origin.z.toFloat = (Double.ofFloat 0.0).toFloat) :
    ¬domain.LiesAtHeight := by
  rintro ⟨topology, _, _, extents, origin, spacing, under, plane, aloft, _⟩
  obtain ⟨elements, _, under⟩ := bind_eq_ok.mp under
  split at under
  · cases under
  · rename_i isFound
    split at under
    · cases under
      exact aloft (low _ (Registry.mem_of_find? isFound) extents origin spacing rfl plane)
    · cases under

theorem overCoordset_alike_iff {β : Type} (answer : Coordset → Except Error β) :
    (do
      let coordset ← domain.coordset topology
      answer coordset) =
    (do
      let coordset ← domain.flattened.coordset topology
      answer coordset) ↔
      ∀ coordset, domain.coordset topology = .ok coordset →
        answer coordset = answer coordset.flattened := by
  rw [coordset_flattened]
  cases domain.coordset topology with
  | error cause => exact iff_of_true rfl fun _ other => by cases other
  | ok coordset =>
      constructor
      · intro alike other isSame
        cases isSame
        exact alike
      · exact fun alike => alike coordset rfl

/-- A domain without the topology has no coordinate set under it either, so it does not matter which
of the two is looked up first. -/
theorem elementLocation_eq (index : Except Error Int) :
    domain.elementLocation topology index = (do
      let coordset ← domain.coordset topology
      let elements ← domain.topology topology
      elements.elementLocation coordset index) := by
  unfold Domain.elementLocation Domain.coordset
  cases domain.topology topology with
  | error cause => rfl
  | ok elements => rfl

/-- A domain and what is read back from its description answer alike exactly if no mesh of the
domain lies at a height. -/
theorem answersAlike_flattened_iff : domain.AnswersAlike domain.flattened ↔ ¬domain.LiesAtHeight := by
  have elements (topology : String) := elementLocation_keepsHeight (domain.topology topology)
  constructor
  · rintro alike ⟨topology, index, position, ⟨i, j, k⟩, origin, spacing, under, plane, aloft, found⟩
    cases plane
    rcases found with found | found
    · have unmoved := (overCoordset_alike_iff _).mp (alike.vertexLocation topology index) _ under
      unfold Domain.vertexLocation at found
      rw [under] at found
      exact aloft (((vertexLocation_keepsHeight index).unchanged_iff _).mp unmoved
        i j origin spacing position rfl found)
    · have same := alike.elementLocation topology index
      rw [elementLocation_eq, elementLocation_eq] at same
      have unmoved := (overCoordset_alike_iff _).mp same _ under
      rw [elementLocation_eq, under] at found
      exact aloft (((elements topology index).unchanged_iff _).mp unmoved
        i j origin spacing position rfl found)
  · intro flat
    refine ⟨rfl, rfl, fun _ => rfl, ?_, ?_, ?_, ?_, ?_, ?_⟩
    · intro topology
      refine (overCoordset_alike_iff _).mpr fun coordset _ => ?_
      rw [isThreeDimensional_flattened]
    · intro topology
      refine (overCoordset_alike_iff _).mpr fun coordset _ => ?_
      rw [pointCount_flattened]
    · intro topology
      unfold Domain.elementCount
      rw [onMesh_flattened]
      simp only [elementCount_flattened]
    · intro topology index
      unfold Domain.elementPoints
      rw [onMesh_flattened]
      simp only [elementPoints_flattened]
    · intro topology index
      refine (overCoordset_alike_iff _).mpr fun coordset under =>
        ((vertexLocation_keepsHeight index).unchanged_iff coordset).mpr ?_
      rintro i j origin spacing position rfl found
      by_contra aloft
      exact flat ⟨topology, index, position, _, origin, spacing, under, rfl, aloft,
        .inl (by unfold Domain.vertexLocation; rw [under]; exact found)⟩
    · intro topology index
      rw [elementLocation_eq, elementLocation_eq]
      refine (overCoordset_alike_iff _).mpr fun coordset under =>
        ((elements topology index).unchanged_iff coordset).mpr ?_
      rintro i j origin spacing position rfl found
      by_contra aloft
      exact flat ⟨topology, index, position, _, origin, spacing, under, rfl, aloft,
        .inr (by rw [elementLocation_eq, under]; exact found)⟩

end Queries

end FieldSurvey
