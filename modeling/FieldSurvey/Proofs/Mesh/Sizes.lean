import Mathlib.Algebra.BigOperators.Ring.List
import Mathlib.Algebra.Order.Ring.Int
import Mathlib.Tactic.Linarith
import FieldSurvey.Mesh.Document
import FieldSurvey.Proofs.Grid.Places
import FieldSurvey.Proofs.Mesh.AnyNumbers

/-!
How many points and cells a mesh is said to have. The extents of a grid are multiplied as numbers of
the type that holds them all, so words wrap around and negative extents cancel. The product is the
number of places of the grid only under conditions on the extents, which are told here in full.
-/

namespace FieldSurvey

namespace Axes

/-- The number of places of a grid, where an extent below 0 counts as 0. -/
def placeCount (extents : Axes Int) : Nat := (extents.map Int.toNat).total

/-- The product of the extents as doubles give it, each factor and each step rounded. -/
def roundedProduct (extents : Axes Int) : Int :=
  wholePart (extents.toList.foldl (fun product extent => product * Float.ofInt extent) 1.0)

/-- Whether the product of the extents is the number of places. Words with a sign have to hold it,
and if an extent is negative it has to vanish in them. Words without a sign are used only for
extents of which no two have a product that fits. -/
def CountsExactly (extents : Axes Int) : Prop :=
  match extentType extents.toList with
  | .int .int64 =>
      ((∀ extent ∈ extents.toList, 0 ≤ extent) ∧ extents.toList.prod < 2 ^ 63) ∨
        ((∃ extent ∈ extents.toList, extent < 0) ∧ 2 ^ 64 ∣ extents.toList.prod)
  | .int _ => False
  | .float _ => extents.roundedProduct = extents.placeCount
  | _ => (∀ extent ∈ extents.toList, 0 ≤ extent) ∨ 0 ∈ extents.toList

variable {extents : Axes Int}

theorem placeCount_eq_prod (natural : ∀ extent ∈ extents.toList, 0 ≤ extent) :
    (extents.placeCount : Int) = extents.toList.prod := by
  obtain ⟨width, height, layers⟩ := extents
  have someWidth : 0 ≤ width := natural width (by simp [toList])
  have someHeight : 0 ≤ height := natural height (by simp [toList])
  cases layers with
  | none => simp [placeCount, total, depth, map, toList, someWidth, someHeight]
  | some count =>
      have someLayers : 0 ≤ count := natural count (by simp [toList])
      simp [placeCount, total, depth, map, toList, someWidth, someHeight, someLayers, mul_assoc]

/-- A grid without points along some axis has no places. -/
theorem placeCount_eq_zero {extent : Int} (isExtent : extent ∈ extents.toList)
    (noPoints : extent ≤ 0) : extents.placeCount = 0 := by
  obtain ⟨width, height, layers⟩ := extents
  have noNumber : extent.toNat = 0 := Int.toNat_eq_zero.mpr noPoints
  cases layers with
  | none =>
      simp only [toList, Option.toList, List.mem_cons, List.not_mem_nil, or_false] at isExtent
      rcases isExtent with rfl | rfl <;> simp [placeCount, total, map, noNumber]
  | some count =>
      simp only [toList, Option.toList, List.mem_cons, List.not_mem_nil, or_false] at isExtent
      rcases isExtent with rfl | rfl | rfl <;> simp [placeCount, total, depth, map, noNumber]

theorem placeCount_eq_zero_iff :
    extents.placeCount = 0 ↔ ∃ extent ∈ extents.toList, extent ≤ 0 := by
  constructor
  · intro noPlaces
    by_contra allPositive
    have positive : ∀ extent ∈ extents.toList, 0 < extent := by
      intro extent isExtent
      by_contra notPositive
      exact allPositive ⟨extent, isExtent, Int.not_lt.mp notPositive⟩
    have isProduct := placeCount_eq_prod fun extent isExtent => (positive extent isExtent).le
    rw [noPlaces, eq_comm, Nat.cast_zero, List.prod_eq_zero_iff] at isProduct
    exact (positive 0 isProduct).false
  · rintro ⟨extent, isExtent, noPoints⟩
    exact placeCount_eq_zero isExtent noPoints

section Types

theorem scalarType_whole_eq (number : Int) :
    (Value.whole number).scalarType =
      if IntType.int64.holds number then .int .int64
      else if IntType.uint64.holds number then .int .uint64
      else .mixed := by
  rw [Value.scalarType]

/-- A whole number is held by words with a sign, else by words without, or by no words. -/
theorem scalarType_whole (number : Int) :
    (Value.whole number).scalarType = .int .int64 ∨
      ((Value.whole number).scalarType = .int .uint64 ∧ 2 ^ 63 ≤ number) ∨
      (Value.whole number).scalarType = .mixed := by
  rw [scalarType_whole_eq]
  split
  · exact .inl rfl
  rename_i notSigned
  split
  · rename_i isUnsigned
    have kept : ((BitVec.ofInt 64 number).toNat : Int) = number := beq_iff_eq.mp isUnsigned
    refine .inr (.inl ⟨rfl, ?_⟩)
    by_contra small
    rw [← kept] at notSigned small
    exact notSigned (int64_holds (by omega))
  · exact .inr (.inr rfl)

/-- Words without a sign are used only for extents that are all too large for those with one. -/
theorem extentType_eq_int {type : IntType} (isInt : extentType extents.toList = .int type)
    (notSigned : type ≠ .int64) :
    type = .uint64 ∧ ∀ extent ∈ extents.toList, 2 ^ 63 ≤ extent := by
  obtain ⟨width, height, layers⟩ := extents
  cases layers with
  | none =>
      simp only [extentType, toList, Option.toList, List.map_cons, List.map_nil, List.foldl_cons,
        List.foldl_nil] at isInt
      rcases scalarType_whole width with isWidth | ⟨isWidth, inWidth⟩ | isWidth <;>
      rcases scalarType_whole height with isHeight | ⟨isHeight, inHeight⟩ | isHeight <;>
      rw [isWidth, isHeight] at isInt <;> cases isInt
      · exact absurd rfl notSigned
      · refine ⟨rfl, ?_⟩
        simp only [toList, Option.toList, List.forall_mem_cons]
        exact ⟨inWidth, inHeight, List.forall_mem_nil _⟩
  | some count =>
      simp only [extentType, toList, Option.toList, List.map_cons, List.map_nil, List.foldl_cons,
        List.foldl_nil] at isInt
      rcases scalarType_whole width with isWidth | ⟨isWidth, inWidth⟩ | isWidth <;>
      rcases scalarType_whole height with isHeight | ⟨isHeight, inHeight⟩ | isHeight <;>
      rcases scalarType_whole count with isCount | ⟨isCount, inCount⟩ | isCount <;>
      rw [isWidth, isHeight, isCount] at isInt <;> cases isInt
      · exact absurd rfl notSigned
      · refine ⟨rfl, ?_⟩
        simp only [toList, Option.toList, List.forall_mem_cons]
        exact ⟨inWidth, inHeight, inCount, List.forall_mem_nil _⟩

end Types

section Products

theorem extentProduct_of_signed (isSigned : extentType extents.toList = .int .int64) :
    extentProduct extents = extents.toList.prod.bmod (2 ^ 64) := by
  simp only [extentProduct, isSigned, ← List.prod_eq_foldl]
  exact BitVec.toInt_ofInt _

theorem extentProduct_of_unsigned (isUnsigned : extentType extents.toList = .int .uint64) :
    extentProduct extents < 2 ^ 64 := by
  simp only [extentProduct, isUnsigned]
  have below := (BitVec.ofInt 64 (extents.toList.foldl (· * ·) 1)).isLt
  exact Int.ofNat_lt.mpr below

/-- Two extents that each need all bits of a word have a product that does not fit one. -/
theorem placeCount_of_unsigned (large : ∀ extent ∈ extents.toList, (2 : Int) ^ 63 ≤ extent) :
    (2 : Int) ^ 64 ≤ extents.placeCount := by
  have natural : ∀ extent ∈ extents.toList, 0 ≤ extent := fun extent isExtent =>
    le_trans (by decide) (large extent isExtent)
  rw [placeCount_eq_prod natural]
  obtain ⟨width, height, layers⟩ := extents
  have largeWidth : (2 : Int) ^ 63 ≤ width := large width (by simp [toList])
  have largeHeight : (2 : Int) ^ 63 ≤ height := large height (by simp [toList])
  have layer : (2 : Int) ^ 63 * 2 ^ 63 ≤ width * height :=
    mul_le_mul largeWidth largeHeight (by decide) (by omega)
  cases layers with
  | none =>
      simp only [toList, Option.toList, List.prod_cons, List.prod_nil, mul_one]
      omega
  | some count =>
      have largeCount : (2 : Int) ^ 63 ≤ count := large count (by simp [toList])
      simp only [toList, Option.toList, List.prod_cons, List.prod_nil, mul_one, ← mul_assoc]
      nlinarith

theorem bmod_word_eq_iff {product : Int} (natural : 0 ≤ product) :
    product.bmod (2 ^ 64) = product ↔ product < 2 ^ 63 := by
  rw [Int.bmod_eq_iff (by decide)]
  simp only [sub_self, dvd_zero, and_true]
  omega

/-- Without a negative extent the product is the number of places, and with one only if there are
none. -/
theorem prod_eq_placeCount_iff :
    extents.toList.prod = extents.placeCount ↔
      (∀ extent ∈ extents.toList, 0 ≤ extent) ∨ 0 ∈ extents.toList := by
  constructor
  · intro isCount
    by_cases natural : ∀ extent ∈ extents.toList, 0 ≤ extent
    · exact .inl natural
    · obtain ⟨extent, isExtent, negative⟩ : ∃ extent ∈ extents.toList, extent < 0 := by
        simpa only [not_forall, Int.not_le, exists_prop] using natural
      rw [placeCount_eq_zero isExtent negative.le] at isCount
      exact .inr (List.prod_eq_zero_iff.mp isCount)
  · rintro (natural | isZero)
    · exact (placeCount_eq_prod natural).symm
    · rw [List.prod_eq_zero_iff.mpr isZero, placeCount_eq_zero isZero le_rfl]
      rfl

theorem bmod_prod_eq_placeCount_iff :
    extents.toList.prod.bmod (2 ^ 64) = extents.placeCount ↔
      ((∀ extent ∈ extents.toList, 0 ≤ extent) ∧ extents.toList.prod < 2 ^ 63) ∨
        ((∃ extent ∈ extents.toList, extent < 0) ∧ 2 ^ 64 ∣ extents.toList.prod) := by
  by_cases natural : ∀ extent ∈ extents.toList, 0 ≤ extent
  · have noneNegative : ¬ ∃ extent ∈ extents.toList, extent < 0 := by
      rintro ⟨extent, isExtent, negative⟩
      exact negative.not_ge (natural extent isExtent)
    have isProduct := placeCount_eq_prod natural
    have isNatural : 0 ≤ extents.toList.prod := isProduct ▸ Int.natCast_nonneg _
    rw [isProduct, bmod_word_eq_iff isNatural]
    exact ⟨fun fits => .inl ⟨natural, fits⟩, fun counts =>
      (counts.resolve_right fun vanishes => noneNegative vanishes.1).2⟩
  · have someNegative : ∃ extent ∈ extents.toList, extent < 0 := by
      simpa only [not_forall, Int.not_le, exists_prop] using natural
    have noPlaces : extents.placeCount = 0 := by
      obtain ⟨extent, isExtent, negative⟩ := someNegative
      exact placeCount_eq_zero isExtent negative.le
    rw [noPlaces, Nat.cast_zero, ← Int.dvd_iff_bmod_eq_zero]
    exact ⟨fun divides => .inr ⟨someNegative, divides⟩, fun counts =>
      (counts.resolve_left fun fits => natural fits.1).2⟩

/-- The product of the extents is the number of places exactly if the extents count exactly. -/
theorem extentProduct_eq_placeCount_iff :
    extentProduct extents = extents.placeCount ↔ extents.CountsExactly := by
  cases isType : extentType extents.toList with
  | int type =>
      by_cases isSigned : type = .int64
      · rw [isSigned] at isType
        rw [extentProduct_of_signed isType, bmod_prod_eq_placeCount_iff]
        simp only [CountsExactly, isType]
      · obtain ⟨rfl, large⟩ := extentType_eq_int isType isSigned
        have isWord := extentProduct_of_unsigned isType
        have notWord := placeCount_of_unsigned large
        simp only [CountsExactly, isType, iff_false]
        omega
  | float width =>
      simp only [CountsExactly, extentProduct, isType]
      rfl
  | _ =>
      simp only [CountsExactly, extentProduct, isType, ← List.prod_eq_foldl]
      exact prod_eq_placeCount_iff

end Products

end Axes

section Resolution

/-- The name stands for this topology of the domain, which lies on this coordinate set. -/
structure Domain.Resolves (domain : Domain) (name : String) (topology : Topology)
    (coordset : Coordset) : Prop where
  defines : domain.topology name = .ok topology
  lies : domain.coordset name = .ok coordset

namespace Domain.Resolves

variable {domain : Domain} {name : String} {topology : Topology} {coordset : Coordset}
  (resolves : domain.Resolves name topology coordset)

include resolves

/-- The domain has the coordinate set under the name that the topology gives, and it fits. -/
theorem finds : domain.coordsets.find? topology.coordset = some coordset ∧
    topology.kind.mayUse coordset.kind = true := by
  have lies := resolves.lies
  rw [Domain.coordset, resolves.defines, ok_bind] at lies
  cases found : domain.coordsets.find? topology.coordset with
  | none =>
      rw [found] at lies
      cases lies
  | some other =>
      simp only [found] at lies
      split at lies
      · rename_i fits
        cases lies
        exact ⟨rfl, fits⟩
      · cases lies

theorem pointCount_eq : domain.pointCount name = .ok coordset.pointCount := by
  rw [Domain.pointCount, resolves.lies]
  rfl

theorem elementCount_eq : domain.elementCount name = topology.elementCount coordset := by
  rw [Domain.elementCount, resolves.defines, resolves.lies]
  rfl

theorem elementPoints_eq (index : Except Error Int) :
    domain.elementPoints name index = topology.elementPoints coordset index := by
  rw [Domain.elementPoints, resolves.defines, resolves.lies]
  rfl

theorem vertexLocation_eq (index : Except Error Int) :
    domain.vertexLocation name index = coordset.vertexLocation index := by
  rw [Domain.vertexLocation, resolves.lies]
  rfl

theorem elementLocation_eq (index : Except Error Int) :
    domain.elementLocation name index = topology.elementLocation coordset index := by
  rw [Domain.elementLocation, resolves.defines, resolves.lies]
  rfl

end Domain.Resolves

end Resolution

/-- Topologies that derive their cells from the grid of points. -/
def Topology.IsGrid (topology : Topology) : Prop :=
  topology.elements = .uniform ∨ topology.elements = .rectilinear

theorem Topology.IsGrid.areCells {topology : Topology} (isGrid : topology.IsGrid)
    (coordset : Coordset) : (topology.mesh coordset).elements = .uniform ∨
      (topology.mesh coordset).elements = .rectilinear := isGrid

/-- How many points there are along each axis; where points are listed, each axis has them all. -/
def Coordset.extents : Coordset → Axes Int
  | .uniform extents _ _ => extents
  | .rectilinear axes => axes.map fun axis => (axis.size : Int)
  | .explicit axes => axes.map fun axis => (axis.size : Int)

theorem Coordset.elementExtents_eq_map (coordset : Coordset) :
    coordset.elementExtents = coordset.extents.map (· - 1) := by
  cases coordset with
  | uniform extents origin spacing => rfl
  | rectilinear axes =>
      rw [extents, Axes.map_map]
      rfl
  | explicit axes =>
      rw [extents, Axes.map_map]
      rfl

/-- A grid without points has no cells. -/
theorem Axes.placeCount_cells {extents : Axes Int} (noPoints : extents.placeCount = 0) :
    (extents.map (· - 1)).placeCount = 0 := by
  obtain ⟨extent, isExtent, notPositive⟩ := placeCount_eq_zero_iff.mp noPoints
  have isCellExtent : extent - 1 ∈ (extents.map (· - 1)).toList := by
    rw [toList_map]
    exact List.mem_map_of_mem isExtent
  exact placeCount_eq_zero isCellExtent (by omega)

theorem checkedIndex_of_no_parts (part : MeshPart) (index : Int) :
    checkedIndex part 0 (.ok index) = .error (.partOutside part index 0) := by
  have outside : ¬ (0 ≤ index ∧ index < 0) := fun inRange => inRange.2.not_ge inRange.1
  simp only [checkedIndex, ok_bind, if_neg outside]
  rfl

section Sizes

variable {topology : Topology} {coordset : Coordset}

theorem Topology.IsGrid.notListed (isGrid : topology.IsGrid)
    (fits : topology.kind.mayUse coordset.kind = true) : coordset.kind ≠ .explicit := by
  intro isListed
  rw [isListed, kind] at fits
  rcases isGrid with isUniform | isRectilinear
  · rw [isUniform] at fits
    cases fits
  · rw [isRectilinear] at fits
    cases fits

theorem Coordset.pointCount_of_notListed (notListed : coordset.kind ≠ .explicit) :
    coordset.pointCount = extentProduct coordset.extents := by
  cases coordset with
  | uniform extents origin spacing => rfl
  | rectilinear axes => rfl
  | explicit axes => exact absurd rfl notListed

theorem Topology.elementCount_of_isGrid (isGrid : topology.IsGrid) :
    topology.elementCount coordset = .ok (extentProduct coordset.elementExtents) := by
  rw [elementCount_eq, Mesh.elementCount_of_cells (isGrid.areCells coordset),
    coordset.elementExtents_eq]
  rfl

/-- A mesh without elements refuses every index of one. -/
theorem Topology.refuses_of_no_elements (noElements : topology.elementCount coordset = .ok 0)
    (index : Int) :
    topology.elementPoints coordset (.ok index) = .error (.partOutside .element index 0) ∧
      topology.elementLocation coordset (.ok index) = .error (.partOutside .element index 0) := by
  have refused := checkedIndex_of_no_parts .element index
  constructor
  · rw [elementPoints, noElements, ok_bind, refused]
    rfl
  · rw [elementLocation, noElements, ok_bind, refused]
    rfl

theorem ok_placeCount_iff {extents : Axes Int} :
    (Except.ok (extentProduct extents) : Except Error Int) = .ok (extents.placeCount : Int) ↔
      extents.CountsExactly := by
  rw [Except.ok.injEq, Axes.extentProduct_eq_placeCount_iff]

end Sizes

/-- A grid is said to have as many points and cells as there are, and a structured topology as many
elements, exactly if the extents in question count exactly. A grid without points has no cells, and
where no elements are counted every index of one is refused. -/
theorem Domain.sizes_are_counts_iff (domain : Domain) (name : String) (topology : Topology)
    (coordset : Coordset) (resolves : domain.Resolves name topology coordset) :
    (topology.IsGrid →
      (domain.pointCount name = .ok (coordset.extents.placeCount : Int) ↔
        coordset.extents.CountsExactly) ∧
      (domain.elementCount name = .ok ((coordset.extents.map (· - 1)).placeCount : Int) ↔
        (coordset.extents.map (· - 1)).CountsExactly) ∧
      (coordset.extents.placeCount = 0 → (coordset.extents.map (· - 1)).placeCount = 0)) ∧
    (∀ extents, topology.elements = .structured extents →
      (domain.elementCount name = .ok (extents.placeCount : Int) ↔ extents.CountsExactly)) ∧
    (domain.elementCount name = .ok 0 → ∀ index,
      domain.elementPoints name (.ok index) = .error (.partOutside .element index 0) ∧
      domain.elementLocation name (.ok index) = .error (.partOutside .element index 0)) := by
  simp only [resolves.pointCount_eq, resolves.elementCount_eq, resolves.elementPoints_eq,
    resolves.elementLocation_eq]
  refine ⟨?_, ?_, Topology.refuses_of_no_elements⟩
  · intro isGrid
    rw [Coordset.pointCount_of_notListed (isGrid.notListed resolves.finds.2),
      Topology.elementCount_of_isGrid isGrid, coordset.elementExtents_eq_map]
    exact ⟨ok_placeCount_iff, ok_placeCount_iff, Axes.placeCount_cells⟩
  · intro extents isStructured
    rw [Topology.elementCount, isStructured]
    exact ok_placeCount_iff

/-- A domain that has nothing but a mesh in the plane, with steps of one from the origin. -/
def plainDomain (width height : Int) : Domain :=
  ⟨[("coords", .uniform ⟨width, height, none⟩ ((⟨0, 0, 0⟩ : Position Float).map .ofFloat)
      ((⟨1, 1, 1⟩ : Position Float).map .ofFloat))],
    [("mesh", ⟨"coords", .uniform⟩)], [], []⟩

theorem sizes_are_counts_in_row :
    (∃ topology coordset, (plainDomain 4 1).Resolves "mesh" topology coordset) ∧
      (plainDomain 4 1).pointCount "mesh" = .ok 4 ∧
      (plainDomain 4 1).elementCount "mesh" = .ok 0 ∧
      ∀ index, (plainDomain 4 1).elementPoints "mesh" (.ok index) =
        .error (.partOutside .element index 0) := by
  have resolves : (plainDomain 4 1).Resolves "mesh" _ _ := ⟨rfl, rfl⟩
  obtain ⟨ofGrid, _, refused⟩ := (plainDomain 4 1).sizes_are_counts_iff "mesh" _ _ resolves
  obtain ⟨points, cells, _⟩ := ofGrid (.inl rfl)
  have noCells : (plainDomain 4 1).elementCount "mesh" = .ok 0 := cells.mpr (.inl (by decide))
  exact ⟨⟨_, _, resolves⟩, points.mpr (.inl (by decide)), noCells,
    fun index => (refused noCells index).1⟩

/-- A grid without any points has one cell, which has a centre, and of a vast one no points are
counted. Both can be read. -/
theorem empty_grid_has_cell :
    (Domain.ofValue (plainDomain 0 0).toValue = .ok (plainDomain 0 0) ∧
      (plainDomain 0 0).elementCount "mesh" = .ok 1 ∧
      (Axes.map (· - 1) ⟨0, 0, none⟩).placeCount = 0 ∧
      ∃ centre, (plainDomain 0 0).elementLocation "mesh" (.ok 0) = .ok centre) ∧
    Domain.ofValue (plainDomain (2 ^ 32) (2 ^ 32)).toValue = .ok (plainDomain (2 ^ 32) (2 ^ 32)) ∧
      (plainDomain (2 ^ 32) (2 ^ 32)).pointCount "mesh" = .ok 0 :=
  ⟨⟨rfl, rfl, rfl, _, rfl⟩, rfl, rfl⟩

end FieldSurvey
