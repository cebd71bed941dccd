import FieldSurvey.Proofs.Grid.Lattice
import FieldSurvey.Proofs.Mesh.ElementVertices

/-!
When all elements of a mesh are what they should be. The cells of a grid name their corners. Their
centres are found along each axis for itself, so in doubles they are rounded otherwise than the mean
of the corners; the two are compared on the mesh over the exact numbers that its doubles stand for.
-/

namespace FieldSurvey

namespace Mesh

/-- A grid whose points words can count has the cells between its points. -/
theorem exists_hasCells {α : Type} {mesh : Mesh α}
    (areCells : mesh.elements = .uniform ∨ mesh.elements = .rectilinear)
    (notListed : ∀ axes, mesh.coordinates ≠ .explicit axes)
    (fits : mesh.coordinates.extents.FitsWord) :
    ∃ counts, mesh.coordinates.extents = counts.wholes ∧
      mesh.coordinates.elementExtents = counts.cells.wholes ∧
      mesh.pointCount = counts.total ∧ mesh.HasCells counts := by
  obtain ⟨counts, areCounts, cellExtents, points, cells, inWord⟩ := fits.exists_counts
  refine ⟨counts, areCounts, cellExtents, ?_, hasCells_of_pointsAt ?_ ?_ inWord⟩
  · rw [← points]
    obtain ⟨elements, coordinates⟩ := mesh
    cases coordinates with
    | uniform extents origin spacing => rfl
    | rectilinear axes => rfl
    | explicit axes => exact absurd rfl (notListed axes)
  · rw [elementCount_of_cells areCells, ← cells]
    rfl
  · intro index
    rw [pointsAt_of_cells areCells, ← cellExtents]
    rfl

/-- Without rounding, the cells of a lattice lie in the middle of their corners. -/
theorem namesVertices_of_lattice {mesh : Mesh ExactNumber} {lattice : Lattice}
    (given : lattice.IsGivenBy mesh.coordinates) (notPoints : mesh.elements ≠ .points)
    (hasCells : mesh.HasCells lattice.extents)
    (counted : mesh.pointCount = lattice.extents.total) {index : Int}
    (has : mesh.HasElement index) : mesh.NamesVertices index := by
  refine ⟨hasCells.namesPoints counted.ge has, ?_⟩
  obtain ⟨place, isCell, rfl⟩ := hasCells.exists_cell has
  intro position located
  rw [has.elementLocation_eq notPoints] at located
  obtain ⟨isCentre, areCorners⟩ := given _ place position isCell located
  refine ⟨_, (lattice.extents.corners place).map lattice.point, hasCells.corners place isCell, ?_,
    .inr ?_⟩
  · apply mapM_map_of_forall_ok
    intro corner isCorner
    have inGrid := (isCell.corners isCorner).number_inRange
    rw [← counted] at inGrid
    rw [vertexLocation_of_inMesh inGrid]
    exact areCorners corner isCorner
  · rw [Lattice.average_corners, isCentre]

end Mesh

section Exact

/-- The number that a double stands for. -/
def BinaryNumber.exact : BinaryNumber → ExactNumber
  | .undefined => .undefined
  | .infinite negative => .infinite negative
  | .finite negative significand exponent =>
      .finite ((if negative then -1 else 1) * significand * 2 ^ exponent)

def ExactNumber.ofReal (number : Float) : ExactNumber := (binaryParts number).exact

def LooseEntry.exact : LooseEntry Float → LooseEntry ExactNumber
  | .nothing => .nothing
  | .readable number => .readable (.ofReal number)
  | .unreadable cause => .unreadable cause

def Coordinates.exact : Coordinates Float → Coordinates ExactNumber
  | .uniform extents origin spacing =>
      .uniform extents (origin.map ExactNumber.ofReal) (spacing.map ExactNumber.ofReal)
  | .rectilinear axes => .rectilinear (axes.map fun axis => axis.map LooseEntry.exact)
  | .explicit axes => .explicit (axes.map fun axis => axis.map LooseEntry.exact)

/-- The same elements over the exact points, where nothing is rounded. -/
def Mesh.exact (mesh : Mesh Float) : Mesh ExactNumber := ⟨mesh.elements, mesh.coordinates.exact⟩

theorem Coordinates.extents_exact (coordinates : Coordinates Float) :
    coordinates.exact.extents = coordinates.extents := by
  have sameLengths (axes : Axes (List (LooseEntry Float))) :
      ((axes.map fun axis => axis.map LooseEntry.exact).map fun axis => (axis.length : Int)) =
        axes.map fun axis => (axis.length : Int) := by
    rw [Axes.map_map]
    simp only [List.length_map]
  cases coordinates with
  | uniform extents origin spacing => rfl
  | rectilinear axes => exact sameLengths axes
  | explicit axes => exact sameLengths axes

theorem Mesh.pointCount_exact (mesh : Mesh Float) : mesh.exact.pointCount = mesh.pointCount := by
  obtain ⟨elements, coordinates⟩ := mesh
  cases coordinates with
  | uniform extents origin spacing => rfl
  | rectilinear axes => exact congrArg extentProduct (Coordinates.extents_exact (.rectilinear axes))
  | explicit axes => exact congrArg Nat.cast (List.length_map _)

theorem Mesh.elementCount_exact (mesh : Mesh Float) :
    mesh.exact.elementCount = mesh.elementCount := by
  have sameExtents : mesh.exact.coordinates.elementExtents = mesh.coordinates.elementExtents :=
    congrArg (Axes.map (· - 1)) mesh.coordinates.extents_exact
  unfold elementCount
  rw [sameExtents, mesh.pointCount_exact]
  rfl

theorem Mesh.elementPoints_exact (mesh : Mesh Float) (index : Except Error Int) :
    mesh.exact.elementPoints index = mesh.elementPoints index := by
  have sameExtents : mesh.exact.coordinates.elementExtents = mesh.coordinates.elementExtents :=
    congrArg (Axes.map (· - 1)) mesh.coordinates.extents_exact
  unfold elementPoints pointsAt
  rw [sameExtents, mesh.elementCount_exact]
  rfl

end Exact

namespace Mesh

theorem namesVertices_of_cells {mesh : Mesh ExactNumber}
    (areCells : mesh.elements = .uniform ∨ mesh.elements = .rectilinear)
    (notListed : ∀ axes, mesh.coordinates ≠ .explicit axes)
    (fits : mesh.coordinates.extents.FitsWord) {index : Int} (has : mesh.HasElement index) :
    mesh.NamesVertices index := by
  obtain ⟨counts, areCounts, cellExtents, counted, hasCells⟩ :=
    exists_hasCells areCells notListed fits
  have notPoints : mesh.elements ≠ .points := by
    rcases areCells with isUniform | isRectilinear
    · rw [isUniform]
      nofun
    · rw [isRectilinear]
      nofun
  obtain ⟨elements, coordinates⟩ := mesh
  cases coordinates with
  | uniform extents origin spacing =>
      obtain rfl : extents = counts.wholes := areCounts
      exact namesVertices_of_lattice (Lattice.isGivenBy_uniform counts origin spacing cellExtents)
        notPoints hasCells counted has
  | rectilinear axes =>
      obtain rfl : counts = (Lattice.ofAxes axes).extents :=
        Axes.wholes_injective (areCounts.symm.trans (Lattice.wholes_ofAxes axes))
      rw [Coordinates.elementExtents, Coordinates.extents, Axes.map_map] at cellExtents
      exact namesVertices_of_lattice (Lattice.isGivenBy_rectilinear cellExtents) notPoints hasCells
        counted has
  | explicit axes => exact absurd rfl (notListed axes)

variable {mesh : Mesh Float} {index : Int}

theorem hasElement_exact : mesh.exact.HasElement index ↔ mesh.HasElement index := by
  rw [HasElement, mesh.elementCount_exact]
  rfl

theorem namesPoints_exact : mesh.exact.NamesPoints index ↔ mesh.NamesPoints index := by
  have sameSize : mesh.exact.verticesPerElement = mesh.verticesPerElement := by
    unfold verticesPerElement
    rw [show mesh.exact.coordinates.extents = _ from mesh.coordinates.extents_exact]
    rfl
  rw [NamesPoints, mesh.elementPoints_exact, mesh.pointCount_exact, sameSize]
  rfl

end Mesh

section Loaded

variable {topology : Topology} {coordset : Coordset}

theorem Coordset.extents_eq (coordset : Coordset) :
    coordset.extents = coordset.coordinates.extents := by
  cases coordset with
  | uniform extents origin spacing => rfl
  | rectilinear axes => exact axes.map_sizes.symm
  | explicit axes => exact axes.map_sizes.symm

/-- Where a grid has a point along every axis, and words hold the number of all points. -/
def Topology.CountsInWords (topology : Topology) (coordset : Coordset) : Prop :=
  match topology.elements with
  | .points => coordset.pointCount ≤ 2 ^ 63
  | .uniform => coordset.extents.FitsWord
  | .rectilinear => coordset.extents.FitsWord
  | .structured extents =>
      (∀ extent ∈ extents.toList, 1 ≤ extent) ∧ (extents.map (· + 1)).toList.prod < 2 ^ 63
  | .unstructured _ _ => True

/-- Elements that are stored need no other points than so many: those of a structured topology have
at most so many corners, and all numbers that belong to a whole element of an unstructured one are
below. -/
def Topology.FitsPoints (topology : Topology) (count : Int) : Prop :=
  match topology.elements with
  | .structured extents => (extents.map (· + 1)).toList.prod ≤ count
  | .unstructured shape connectivity =>
      ∀ perElement, verticesOfShape shape = .ok perElement →
        ∀ word ∈ connectivity.take (connectivity.length / perElement * perElement),
          0 ≤ word.toInt ∧ word.toInt < count
  | _ => True

theorem Topology.IsGrid.namesVertices_exact (isGrid : topology.IsGrid)
    (notListed : coordset.kind ≠ .explicit) (fits : coordset.extents.FitsWord) {index : Int}
    (has : (topology.mesh coordset).HasElement index) :
    (topology.mesh coordset).exact.NamesVertices index := by
  have isExactGrid : (topology.mesh coordset).exact.elements = .uniform ∨
      (topology.mesh coordset).exact.elements = .rectilinear := isGrid
  apply Mesh.namesVertices_of_cells isExactGrid _ _ (Mesh.hasElement_exact.mpr has)
  · cases coordset with
    | explicit axes => exact absurd rfl notListed
    | _ => nofun
  · rw [coordset.extents_eq, ← coordset.coordinates.extents_exact] at fits
    exact fits

/-- All elements name points of the mesh exactly if the stored ones fit the points. -/
theorem Topology.namesPoints_iff (fits : topology.kind.mayUse coordset.kind = true)
    (counts : topology.CountsInWords coordset) :
    (∀ index, (topology.mesh coordset).HasElement index →
        (topology.mesh coordset).NamesPoints index) ↔
      topology.FitsPoints coordset.pointCount := by
  have ofGrid (isGrid : topology.IsGrid) (inWord : coordset.extents.FitsWord) :
      ∀ index, (topology.mesh coordset).HasElement index →
        (topology.mesh coordset).NamesPoints index := fun index has =>
    Mesh.namesPoints_exact.mp (isGrid.namesVertices_exact (isGrid.notListed fits) inWord has).1
  unfold CountsInWords at counts
  unfold FitsPoints
  cases isKind : topology.elements with
  | points =>
      simp only [isKind] at counts
      rw [coordset.pointCount_eq topology] at counts
      exact iff_of_true (fun index => Mesh.namesPoints_of_points isKind counts) trivial
  | uniform =>
      simp only [isKind] at counts
      exact iff_of_true (ofGrid (.inl isKind) counts) trivial
  | rectilinear =>
      simp only [isKind] at counts
      exact iff_of_true (ofGrid (.inr isKind) counts) trivial
  | structured extents =>
      simp only [isKind] at counts
      rw [coordset.pointCount_eq topology]
      exact Mesh.namesPoints_structured_iff isKind counts.1 counts.2
  | unstructured shape connectivity =>
      rw [coordset.pointCount_eq topology]
      cases known : verticesOfShape shape with
      | ok perElement =>
          rw [Mesh.namesPoints_unstructured_iff isKind known]
          refine ⟨fun inMesh other same => ?_, fun fit => fit perElement known⟩
          rw [known] at same
          exact Except.ok.inj same ▸ inMesh
      | error cause =>
          constructor
          · intro _ perElement isKnown
            rw [known] at isKnown
            cases isKnown
          · rintro _ index ⟨count, counted, _⟩
            simp only [Mesh.elementCount, Topology.mesh, isKind, known, error_bind] at counted
            cases counted

/-- A listed element has a location exactly if all its vertices are subscripts of the points, from
the front or from the end. -/
theorem Topology.located_iff {axes : Axes (Column Value)} (even : (Coordset.explicit axes).IsEven)
    (numbers : ∀ axis ∈ axes.toList, axis.IsNumeric) (notPoints : topology.elements ≠ .points)
    {index : Int} {vertices : List Int}
    (has : (topology.mesh (.explicit axes)).HasElement index)
    (found : (topology.mesh (.explicit axes)).elementPoints (.ok index) = .ok vertices) :
    (∃ position, (topology.mesh (.explicit axes)).elementLocation (.ok index) = .ok position) ↔
      ∀ vertex ∈ vertices, -(Coordset.explicit axes).pointCount ≤ vertex ∧
        vertex < (Coordset.explicit axes).pointCount := by
  have looseAxis : ∀ loose ∈ (axes.map fun axis => axis.entries.toLoose).toList,
      (∀ entry ∈ loose, entry.IsReadable) ∧ loose.length = axes.x.size := by
    rw [Axes.toList_map, List.forall_mem_map]
    intro axis isAxis
    have sameSize : axis.size = axes.x.size :=
      beq_iff_eq.mp (List.all_eq_true.mp even axis isAxis)
    exact ⟨(numbers axis isAxis).readable,
      by rw [Entries.length_toLoose, Column.count_entries, sameSize]⟩
  exact Mesh.located_iff (fun loose isLoose => (looseAxis loose isLoose).1)
    (fun loose isLoose => (looseAxis loose isLoose).2) has notPoints rfl found

/-- The domain answers every question about its mesh of this name as the mesh does. -/
structure Domain.AnswersAs (domain : Domain) (name : String) (mesh : Mesh Float) : Prop where
  pointCount : domain.pointCount name = .ok mesh.pointCount
  elementCount : domain.elementCount name = mesh.elementCount
  elementPoints : ∀ index, domain.elementPoints name index = mesh.elementPoints index
  vertexLocation : ∀ index, domain.vertexLocation name index = mesh.vertexLocation index
  elementLocation : ∀ index, domain.elementLocation name index = mesh.elementLocation index

theorem Domain.Resolves.answersAs {domain : Domain} {name : String}
    (resolves : domain.Resolves name topology coordset) :
    domain.AnswersAs name (topology.mesh coordset) where
  pointCount := by rw [resolves.pointCount_eq, coordset.pointCount_eq topology]
  elementCount := by rw [resolves.elementCount_eq, topology.elementCount_eq]
  elementPoints index := by rw [resolves.elementPoints_eq, topology.elementPoints_eq]
  vertexLocation index := by rw [resolves.vertexLocation_eq, topology.vertexLocation_eq]
  elementLocation index := by rw [resolves.elementLocation_eq, topology.elementLocation_eq]

/-- Elements that are not the cells of a grid need points or listed coordinates. -/
theorem Topology.namesVertices_iff (fits : topology.kind.mayUse coordset.kind = true)
    (notGrid : ¬ topology.IsGrid) {index : Int}
    (has : (topology.mesh coordset).HasElement index) :
    (topology.mesh coordset).NamesVertices index ↔ (topology.mesh coordset).NamesPoints index := by
  apply Mesh.namesVertices_iff has
  obtain ⟨name, elements⟩ := topology
  cases elements with
  | points => exact .inl rfl
  | uniform => exact absurd (.inl rfl) notGrid
  | rectilinear => exact absurd (.inr rfl) notGrid
  | _ =>
      cases coordset with
      | explicit axes => exact .inr ⟨_, rfl⟩
      | _ => cases fits

end Loaded

/-- What the elements of a mesh name. All of them name points of the mesh exactly if the stored ones
fit the points, as long as the points are counted in words. Single points and listed elements that
do lie in the middle of their points, and so do the cells of a grid if nothing is rounded. A listed
element that names other points has a location if they can be counted from the end. -/
theorem Domain.elements_name_vertices_iff {value : Value} {domain : Domain}
    (loads : Domain.ofValue value = .ok domain) {name : String} {topology : Topology}
    {coordset : Coordset} (resolves : domain.Resolves name topology coordset) {mesh : Mesh Float}
    (isMesh : mesh = topology.mesh coordset) :
    domain.AnswersAs name mesh ∧
    (topology.CountsInWords coordset →
      ((∀ index, mesh.HasElement index → mesh.NamesPoints index) ↔
        topology.FitsPoints mesh.pointCount)) ∧
    ∀ index, mesh.HasElement index →
      (¬ topology.IsGrid → (mesh.NamesVertices index ↔ mesh.NamesPoints index)) ∧
      (topology.IsGrid → coordset.extents.FitsWord → mesh.exact.NamesVertices index) ∧
      ∀ axes vertices, coordset = .explicit axes → (∀ axis ∈ axes.toList, axis.IsNumeric) →
        topology.elements ≠ .points → mesh.elementPoints (.ok index) = .ok vertices →
        ((∃ position, mesh.elementLocation (.ok index) = .ok position) ↔
          ∀ vertex ∈ vertices, -mesh.pointCount ≤ vertex ∧ vertex < mesh.pointCount) := by
  subst isMesh
  have fits := resolves.finds.2
  rw [← coordset.pointCount_eq topology]
  refine ⟨resolves.answersAs, Topology.namesPoints_iff fits, ?_⟩
  intro index has
  refine ⟨fun notGrid => Topology.namesVertices_iff fits notGrid has,
    fun isGrid inWord => isGrid.namesVertices_exact (isGrid.notListed fits) inWord has, ?_⟩
  rintro axes vertices rfl numbers notPoints found
  exact Topology.located_iff (resolves.isEven (isLoaded_of_ofValue loads)) numbers notPoints has
    found

section Pair

/-- Two points in the plane. -/
def pairOfPoints : Coordset := .explicit ⟨.int .int64 [1, 3], .int .int64 [0, 5], none⟩

/-- Elements of one vertex each. -/
def singleVertices (vertices : List (BitVec 64)) : Topology :=
  ⟨"coords", .unstructured "point" vertices⟩

def pairDomain (vertices : List (BitVec 64)) : Domain :=
  ⟨[("coords", pairOfPoints)], [("mesh", singleVertices vertices)], [], []⟩

theorem elements_name_vertices_of_pair :
    Domain.ofValue (pairDomain [1, 0]).toValue = .ok (pairDomain [1, 0]) ∧
      (pairDomain [1, 0]).Resolves "mesh" (singleVertices [1, 0]) pairOfPoints ∧
      (pairDomain [1, 0]).AnswersAs "mesh" ((singleVertices [1, 0]).mesh pairOfPoints) ∧
      ((singleVertices [1, 0]).mesh pairOfPoints).HasElement 0 ∧
      ((singleVertices [1, 0]).mesh pairOfPoints).NamesVertices 0 := by
  have loads : Domain.ofValue (pairDomain [1, 0]).toValue = .ok (pairDomain [1, 0]) := rfl
  have resolves : (pairDomain [1, 0]).Resolves "mesh" (singleVertices [1, 0]) pairOfPoints :=
    ⟨rfl, rfl⟩
  obtain ⟨answers, namesAll, ofElement⟩ := Domain.elements_name_vertices_iff loads resolves rfl
  have has : ((singleVertices [1, 0]).mesh pairOfPoints).HasElement 0 :=
    ⟨2, rfl, by decide, by decide⟩
  have fitPoints : (singleVertices [1, 0]).FitsPoints 2 := by
    intro perElement known word isWord
    cases known
    rcases List.mem_pair.mp isWord with rfl | rfl <;> decide
  have notGrid : ¬ (singleVertices [1, 0]).IsGrid := by
    rintro (isUniform | isRectilinear)
    · cases isUniform
    · cases isRectilinear
  have namesPoints := (namesAll trivial).mpr fitPoints 0 has
  exact ⟨loads, resolves, answers, has, ((ofElement 0 has).1 notGrid).mpr namesPoints⟩

/-- An element may name a vertex by a negative number. It has a location, though there is no such
vertex. -/
theorem negative_vertex_has_location :
    Domain.ofValue (pairDomain [-1]).toValue = .ok (pairDomain [-1]) ∧
      (pairDomain [-1]).elementCount "mesh" = .ok 1 ∧
      (pairDomain [-1]).elementPoints "mesh" (.ok 0) = .ok [-1] ∧
      (∃ position, (pairDomain [-1]).elementLocation "mesh" (.ok 0) = .ok position) ∧
      (pairDomain [-1]).vertexLocation "mesh" (.ok (-1)) = .error (.partOutside .vertex (-1) 2) :=
  ⟨rfl, rfl, rfl, ⟨_, rfl⟩, rfl⟩

end Pair

end FieldSurvey
