import FieldSurvey.Proofs.Binary.Doubles
import FieldSurvey.Proofs.Grid.ExactLocation
import FieldSurvey.Proofs.Mesh.AnyNumbers
import FieldSurvey.Proofs.Mesh.Reload
import FieldSurvey.Proofs.Mesh.Sizes

/-!
Which indices a mesh answers. An index is checked once, against the number of points or elements,
and then split into a place along each axis. On grids that have a point along every axis and on
listed points this one check is enough: no subscript and no division after it can fail.
-/

namespace FieldSurvey

/-- Below the count an index is answered; any other one is refused as outside of it. -/
structure AnswersBelow {β : Type} (part : MeshPart) (count : Int) (ask : Int → Except Error β) :
    Prop where
  answers : ∀ index, 0 ≤ index → index < count → ∃ answer, ask index = .ok answer
  refuses : ∀ index, ¬ (0 ≤ index ∧ index < count) →
    ask index = .error (.partOutside part index count)

theorem AnswersBelow.of_check {β : Type} {part : MeshPart} {count : Int}
    {ask find : Int → Except Error β}
    (checks : ∀ index, ask index = checkedIndex part count (.ok index) >>= find)
    (finds : ∀ index, 0 ≤ index → index < count → ∃ answer, find index = .ok answer) :
    AnswersBelow part count ask where
  answers := by
    intro index notBefore isBelow
    rw [checks, checkedIndex_of_inRange ⟨notBefore, isBelow⟩, ok_bind]
    exact finds index notBefore isBelow
  refuses := by
    intro index outside
    have refused : checkedIndex part count (.ok index) = .error (.partOutside part index count) :=
      if_neg outside
    rw [checks, refused, error_bind]

section Numbers

/-- A truth value, a real number, or a whole number that a double can stand for. -/
def Value.IsRealNumber : Value → Prop
  | .truth _ => True
  | .whole number => Scalar.holds Float number = true
  | .real _ => True
  | .typed (.complex _ _) => False
  | .typed _ => True
  | _ => False

/-- Columns of truth values, whole numbers or real numbers. -/
def Column.IsNumeric : Column Value → Prop
  | .truth _ => True
  | .int _ _ => True
  | .float _ _ => True
  | .mixed entries => ∀ entry ∈ entries, entry.IsRealNumber
  | _ => False

def LooseEntry.IsReadable (entry : LooseEntry Float) : Prop := ∃ number, entry = .readable number

theorem LooseEntry.ofValue_readable {value : Value} (isNumber : value.IsRealNumber) :
    (LooseEntry.ofValue value).IsReadable := by
  cases value with
  | truth value => exact ⟨_, rfl⟩
  | real stored => exact ⟨_, rfl⟩
  | whole number =>
      have isHeld : Scalar.holds Float number = true := isNumber
      have reads : (Value.whole number).toReal =
          .ok (Double.ofFloat (Float.ofInt number)).toFloat := by
        show Double.toFloat <$> Double.ofFloat <$> realOfWhole number = _
        rw [realOfWhole, if_pos isHeld]
        rfl
      refine ⟨(Double.ofFloat (Float.ofInt number)).toFloat, ?_⟩
      simp only [ofValue, reads]
  | typed number =>
      cases number with
      | complex width parts => exact isNumber.elim
      | _ => exact ⟨_, rfl⟩
  | _ => exact isNumber.elim

/-- Every entry of a column that holds numbers can be read as one. -/
theorem Column.IsNumeric.readable {column : Column Value} (isNumeric : column.IsNumeric) :
    ∀ entry ∈ column.entries.toLoose, entry.IsReadable := by
  intro entry isEntry
  cases column with
  | truth entries =>
      obtain ⟨_, _, rfl⟩ := List.mem_map.mp isEntry
      exact ⟨_, rfl⟩
  | int type entries =>
      obtain ⟨_, _, rfl⟩ := List.mem_map.mp isEntry
      exact ⟨_, rfl⟩
  | float width entries =>
      obtain ⟨_, _, rfl⟩ := List.mem_map.mp isEntry
      exact ⟨_, rfl⟩
  | mixed entries =>
      obtain ⟨_, isPair, rfl⟩ := List.mem_map.mp isEntry
      obtain ⟨value, isValue, rfl⟩ := List.mem_map.mp isPair
      exact LooseEntry.ofValue_readable (isNumeric value isValue)
  | _ => exact isNumeric.elim

end Numbers

namespace Coordinates

variable {axis : List (LooseEntry Float)} (readable : ∀ entry ∈ axis, entry.IsReadable)

include readable

theorem getElem?_readable {place : Nat} (onAxis : place < axis.length) :
    ∃ number, axis[place]? = some (.readable number) := by
  obtain ⟨number, isNumber⟩ := readable axis[place] (List.getElem_mem onAxis)
  exact ⟨number, isNumber ▸ List.getElem?_eq_getElem onAxis⟩

theorem stored_ok {place : Nat} (onAxis : place < axis.length) :
    ∃ number, stored axis place = .ok number := by
  obtain ⟨number, stands⟩ := getElem?_readable readable onAxis
  refine ⟨number, ?_⟩
  rw [stored, entryAt_ofNat stands]
  rfl

/-- Halfway between a point and the next one; neither may lie beyond the axis. -/
theorem middle_ok {place : Nat} (onAxis : place + 1 < axis.length) :
    ∃ number, middle axis place = .ok number := by
  obtain ⟨left, atLeft⟩ := getElem?_readable readable (Nat.lt_of_succ_lt onAxis)
  obtain ⟨right, atRight⟩ := getElem?_readable readable onAxis
  have next := entryAt_ofNat atRight
  rw [Int.natCast_succ] at next
  refine ⟨Scalar.half * (left + right), ?_⟩
  rw [middle, entryAt_ofNat atLeft, next]
  rfl

end Coordinates

namespace Coordinates

theorem choose_ok {axes : Axes (List (LooseEntry Float))}
    {entry : List (LooseEntry Float) → Int → Except Error Float} {i j k : Int}
    (alongX : ∃ number, entry axes.x i = .ok number)
    (alongY : ∃ number, entry axes.y j = .ok number)
    (alongZ : ∀ axis ∈ axes.z, ∃ number, entry axis k = .ok number) :
    ∃ position, choose axes entry i j k = .ok position := by
  obtain ⟨x, atX⟩ := alongX
  obtain ⟨y, atY⟩ := alongY
  obtain ⟨first, second, third⟩ := axes
  cases third with
  | none => exact ⟨⟨x, y, Scalar.zero⟩, choose_eq_ok.mpr ⟨atX, atY, nofun, fun _ => rfl⟩⟩
  | some axis =>
      obtain ⟨z, atZ⟩ := alongZ axis rfl
      refine ⟨⟨x, y, z⟩, choose_eq_ok.mpr ⟨atX, atY, ?_, nofun⟩⟩
      rintro _ ⟨rfl⟩
      exact atZ

theorem uniformPoint_ok {extents : Axes Int} {origin spacing : Position Float}
    {find : Float → Float → Int → Except Error Float} {place : GridIndex}
    (alongX : ∃ number, find origin.x spacing.x place.i = .ok number)
    (alongY : ∃ number, find origin.y spacing.y place.j = .ok number)
    (alongZ : extents.isThreeDimensional = true →
      ∃ number, find origin.z spacing.z place.k = .ok number) :
    ∃ position, uniformPoint extents origin spacing find place = .ok position := by
  obtain ⟨x, atX⟩ := alongX
  obtain ⟨y, atY⟩ := alongY
  cases inSpace : extents.isThreeDimensional with
  | false =>
      refine ⟨⟨x, y, origin.z⟩, uniformPoint_eq_ok.mpr ⟨atX, atY, ?_, fun _ => rfl⟩⟩
      rw [inSpace]
      nofun
  | true =>
      obtain ⟨z, atZ⟩ := alongZ inSpace
      refine ⟨⟨x, y, z⟩, uniformPoint_eq_ok.mpr ⟨atX, atY, fun _ => atZ, ?_⟩⟩
      rw [inSpace]
      nofun

theorem along_ok (origin spacing : Float) {step : Nat} (fits : step < 2 ^ 63) :
    along origin spacing (step : Int) = .ok (origin + Scalar.ofInt (step : Int) * spacing) :=
  if_pos (holds_ofNat fits)

section Rectilinear

variable {axes : Axes (List (LooseEntry Float))} {counts : Axes Nat} {place : Position Nat}
  (readable : ∀ axis ∈ axes.toList, ∀ entry ∈ axis, entry.IsReadable)
  (areLengths : (axes.map fun axis => (axis.length : Int)) = counts.wholes)

include areLengths

theorem lengths_of_wholes :
    axes.x.length = counts.x ∧ axes.y.length = counts.y ∧
      ∀ axis ∈ axes.z, axis.length = counts.depth ∧ counts.isThreeDimensional = true := by
  obtain ⟨first, second, third⟩ := axes
  obtain ⟨width, height, layers⟩ := counts
  obtain ⟨alongX, alongY, alongZ⟩ := Axes.mk.inj areLengths
  refine ⟨Int.ofNat.inj alongX, Int.ofNat.inj alongY, ?_⟩
  rintro axis ⟨rfl⟩
  obtain ⟨count, rfl, isLength⟩ := Option.map_eq_some_iff.mp alongZ.symm
  exact ⟨(Int.ofNat.inj isLength).symm, rfl⟩

include readable

theorem vertex_rectilinear_ok (holds : counts.Holds place) :
    ∃ position, (rectilinear axes).vertex (counts.number place) = .ok position := by
  obtain ⟨alongX, alongY, alongZ⟩ := lengths_of_wholes areLengths
  simp only [vertex, areLengths, ofFlat_number holds, ok_bind]
  apply choose_ok
  · exact stored_ok (readable _ axes.x_mem) (alongX ▸ holds.x)
  · exact stored_ok (readable _ axes.y_mem) (alongY ▸ holds.y)
  · intro axis isThird
    exact stored_ok (readable _ (Axes.mem_of_third isThird)) ((alongZ axis isThird).1 ▸ holds.z)

theorem centre_rectilinear_ok
    (areCellLengths : (axes.map fun axis => (axis.length : Int) - 1) = counts.cells.wholes)
    (points : Except Error (List Int)) (isCell : counts.cells.Holds place) :
    ∃ position,
      (rectilinear axes).elementCentre points (counts.cells.number place) = .ok position := by
  obtain ⟨alongX, alongY, alongZ⟩ := lengths_of_wholes areLengths
  simp only [elementCentre, areCellLengths, ofFlat_number isCell, ok_bind]
  apply choose_ok
  · exact middle_ok (readable _ axes.x_mem) (alongX ▸ Nat.add_lt_of_lt_sub isCell.x)
  · exact middle_ok (readable _ axes.y_mem) (alongY ▸ Nat.add_lt_of_lt_sub isCell.y)
  · intro axis isThird
    obtain ⟨isDepth, inSpace⟩ := alongZ axis isThird
    exact middle_ok (readable _ (Axes.mem_of_third isThird))
      (isDepth ▸ Axes.cells_depth_lt inSpace isCell.z)

end Rectilinear

end Coordinates

namespace Axes

/-- There is a point along every axis, and a word holds the number of all points. -/
structure FitsWord (extents : Axes Int) : Prop where
  positive : ∀ extent ∈ extents.toList, 1 ≤ extent
  product : extents.toList.prod < 2 ^ 63

variable {counts : Axes Nat} {place : Position Nat}

theorem Holds.lt_total (holds : counts.Holds place) :
    place.x < counts.total ∧ place.y < counts.total ∧ place.z < counts.total := by
  have someWidth := Nat.zero_lt_of_lt holds.x
  have someHeight := Nat.zero_lt_of_lt holds.y
  have someDepth := Nat.zero_lt_of_lt holds.z
  have layer : counts.x * counts.y ≤ counts.total := Nat.le_mul_of_pos_right _ someDepth
  refine ⟨?_, ?_, ?_⟩
  · exact holds.x.trans_le ((Nat.le_mul_of_pos_right _ someHeight).trans layer)
  · exact holds.y.trans_le ((Nat.le_mul_of_pos_left _ someWidth).trans layer)
  · exact holds.z.trans_le (Nat.le_mul_of_pos_left _ (Nat.mul_pos someWidth someHeight))

theorem le_total (positive : ∀ count ∈ counts.toList, 1 ≤ count) :
    ∀ count ∈ counts.toList, count ≤ counts.total := by
  obtain ⟨width, height, layers⟩ := counts
  have someWidth : 1 ≤ width := positive width (by simp [toList])
  have someHeight : 1 ≤ height := positive height (by simp [toList])
  cases layers with
  | none =>
      simp only [toList, Option.toList, List.forall_mem_cons, total, depth, Option.getD_none,
        Nat.mul_one]
      exact ⟨Nat.le_mul_of_pos_right _ someHeight, Nat.le_mul_of_pos_left _ someWidth,
        List.forall_mem_nil _⟩
  | some depth =>
      have someDepth : 1 ≤ depth := positive depth (by simp [toList])
      have layer : width * height ≤ width * height * depth := Nat.le_mul_of_pos_right _ someDepth
      simp only [toList, Option.toList, List.forall_mem_cons, total, Axes.depth, Option.getD_some]
      exact ⟨(Nat.le_mul_of_pos_right _ someHeight).trans layer,
        (Nat.le_mul_of_pos_left _ someWidth).trans layer,
        Nat.le_mul_of_pos_left _ (Nat.mul_pos someWidth someHeight), List.forall_mem_nil _⟩

theorem wholes_toNat {extents : Axes Int} (natural : ∀ extent ∈ extents.toList, 0 ≤ extent) :
    (extents.map Int.toNat).wholes = extents := by
  rw [wholes, map_map]
  obtain ⟨width, height, layers⟩ := extents
  have someWidth : 0 ≤ width := natural width (by simp [toList])
  have someHeight : 0 ≤ height := natural height (by simp [toList])
  cases layers with
  | none => simp [map, someWidth, someHeight]
  | some depth =>
      have someDepth : 0 ≤ depth := natural depth (by simp [toList])
      simp [map, someWidth, someHeight, someDepth]

/-- Extents that fit are those of a grid, and its points and cells are counted exactly. -/
theorem FitsWord.exists_counts {extents : Axes Int} (fits : extents.FitsWord) :
    ∃ counts : Axes Nat, extents = counts.wholes ∧ extents.map (· - 1) = counts.cells.wholes ∧
      extentProduct extents = counts.total ∧
      extentProduct (extents.map (· - 1)) = counts.cells.total ∧ counts.total < 2 ^ 63 := by
  have natural : ∀ extent ∈ extents.toList, 0 ≤ extent := fun extent isExtent =>
    le_trans (by decide) (fits.positive extent isExtent)
  have areCounts := (wholes_toNat natural).symm
  have isTotal : ((extents.map Int.toNat).total : Int) = extents.toList.prod :=
    placeCount_eq_prod natural
  have positive : ∀ count ∈ (extents.map Int.toNat).toList, 1 ≤ count := by
    rw [toList_map]
    intro count isCount
    obtain ⟨extent, isExtent, rfl⟩ := List.mem_map.mp isCount
    exact Int.le_toNat (natural extent isExtent) |>.mpr (fits.positive extent isExtent)
  have inWord := fits.product
  generalize extents.map Int.toNat = counts at areCounts isTotal positive
  subst areCounts
  have fewPlaces : counts.total < 2 ^ 63 := by omega
  have each : ∀ count ∈ counts.toList, count < 2 ^ 63 := fun count isCount =>
    (le_total positive count isCount).trans_lt fewPlaces
  have areCells := cells_wholes positive
  refine ⟨counts, rfl, areCells, extentProduct_wholes each fewPlaces, ?_, fewPlaces⟩
  rw [areCells]
  exact extentProduct_wholes (cells_bound each) (counts.cells_total_le.trans_lt fewPlaces)

end Axes

/-- Grids that have a point along every axis and not too many in all, and listed points; where
numbers are stored they can be read. -/
def Coordset.IsRegular : Coordset → Prop
  | .uniform extents _ _ => extents.FitsWord
  | .rectilinear axes =>
      (axes.map fun axis => (axis.size : Int)).FitsWord ∧ ∀ axis ∈ axes.toList, axis.IsNumeric
  | .explicit axes => axes.x.size < 2 ^ 63 ∧ ∀ axis ∈ axes.toList, axis.IsNumeric

namespace Coordset

variable {coordset : Coordset} {counts : Axes Nat} {place : Position Nat}

/-- The points and cells of a grid are found at the numbers of their places. -/
structure IsGridOf (coordset : Coordset) (counts : Axes Nat) : Prop where
  extents : coordset.extents = counts.wholes
  pointCount : coordset.pointCount = counts.total
  elementExtents : coordset.elementExtents = counts.cells.wholes
  elementCount : extentProduct coordset.elementExtents = counts.cells.total
  fits : counts.total < 2 ^ 63
  vertex : ∀ place, counts.Holds place →
    ∃ position, coordset.coordinates.vertex (counts.number place) = .ok position
  centre : ∀ points place, counts.cells.Holds place →
    ∃ position, coordset.coordinates.elementCentre points (counts.cells.number place) = .ok position

theorem exists_isGridOf_uniform {extents : Axes Int} {origin spacing : Position Double}
    (fits : extents.FitsWord) : ∃ counts, (uniform extents origin spacing).IsGridOf counts := by
  obtain ⟨counts, rfl, areCells, points, cells, inWord⟩ := fits.exists_counts
  refine ⟨counts, rfl, points, areCells, cells, inWord, ?_, ?_⟩
  · intro place holds
    obtain ⟨x, y, z⟩ := holds.lt_total
    simp only [coordinates, Coordinates.vertex, ofFlat_number holds, ok_bind]
    apply Coordinates.uniformPoint_ok
    · exact ⟨_, Coordinates.along_ok _ _ (x.trans inWord)⟩
    · exact ⟨_, Coordinates.along_ok _ _ (y.trans inWord)⟩
    · exact fun _ => ⟨_, Coordinates.along_ok _ _ (z.trans inWord)⟩
  · intro points place isCell
    obtain ⟨x, y, z⟩ := isCell.lt_total
    have fewCells : counts.cells.total < 2 ^ 63 := counts.cells_total_le.trans_lt inWord
    simp only [coordinates, Coordinates.elementCentre, areCells, ofFlat_number isCell, ok_bind]
    apply Coordinates.uniformPoint_ok
    · rw [Coordinates.along_ok _ _ (x.trans fewCells)]
      exact ⟨_, rfl⟩
    · rw [Coordinates.along_ok _ _ (y.trans fewCells)]
      exact ⟨_, rfl⟩
    · intro _
      rw [Coordinates.along_ok _ _ (z.trans fewCells)]
      exact ⟨_, rfl⟩

theorem exists_isGridOf_rectilinear {axes : Axes (Column Value)}
    (fits : (axes.map fun axis => (axis.size : Int)).FitsWord)
    (numbers : ∀ axis ∈ axes.toList, axis.IsNumeric) :
    ∃ counts, (rectilinear axes).IsGridOf counts := by
  obtain ⟨counts, areSizes, areCells, points, cells, inWord⟩ := fits.exists_counts
  have areLengths := axes.map_sizes.trans areSizes
  have areCellLengths := areCells
  rw [← axes.map_sizes, Axes.map_map] at areCellLengths
  have readable : ∀ axis ∈ (axes.map fun axis => axis.entries.toLoose).toList,
      ∀ entry ∈ axis, entry.IsReadable := by
    rw [Axes.toList_map]
    intro axis isAxis
    obtain ⟨column, isColumn, rfl⟩ := List.mem_map.mp isAxis
    exact (numbers column isColumn).readable
  refine ⟨counts, areSizes, points, ?_, ?_, inWord, ?_, ?_⟩
  · rw [elementExtents_eq_map]
    exact areCells
  · rw [elementExtents_eq_map]
    exact cells
  · intro place holds
    exact Coordinates.vertex_rectilinear_ok readable areLengths holds
  · intro points place isCell
    exact Coordinates.centre_rectilinear_ok readable areLengths areCellLengths points isCell

theorem exists_isGridOf (regular : coordset.IsRegular) (notListed : coordset.kind ≠ .explicit) :
    ∃ counts, coordset.IsGridOf counts := by
  cases coordset with
  | uniform extents origin spacing => exact exists_isGridOf_uniform regular
  | rectilinear axes => exact exists_isGridOf_rectilinear regular.1 regular.2
  | explicit axes => exact absurd rfl notListed

theorem IsGridOf.finds_vertex (isGrid : coordset.IsGridOf counts) {index : Int}
    (notBefore : 0 ≤ index) (isBelow : index < coordset.pointCount) :
    ∃ position, coordset.coordinates.vertex index = .ok position := by
  obtain ⟨number, rfl⟩ := Int.eq_ofNat_of_zero_le notBefore
  rw [isGrid.pointCount] at isBelow
  obtain ⟨place, holds, rfl⟩ := Axes.exists_place (Int.ofNat_lt.mp isBelow)
  exact isGrid.vertex place holds

theorem finds_listed {axes : Axes (Column Value)} (even : (explicit axes).IsEven)
    (numbers : ∀ axis ∈ axes.toList, axis.IsNumeric) {index : Int} (notBefore : 0 ≤ index)
    (isBelow : index < (explicit axes).pointCount) :
    ∃ position, (explicit axes).coordinates.vertex index = .ok position := by
  obtain ⟨place, rfl⟩ := Int.eq_ofNat_of_zero_le notBefore
  have onFirst : place < axes.x.size := Int.ofNat_lt.mp isBelow
  have along : ∀ axis ∈ axes.toList,
      ∃ number, Coordinates.stored axis.entries.toLoose place = .ok number := by
    intro axis isAxis
    have sameSize : axis.size = axes.x.size :=
      beq_iff_eq.mp (List.all_eq_true.mp even axis isAxis)
    apply Coordinates.stored_ok (numbers axis isAxis).readable
    rwa [Entries.length_toLoose, Column.count_entries, sameSize]
  apply Coordinates.choose_ok
  · exact along _ axes.x_mem
  · exact along _ axes.y_mem
  · intro loose isThird
    obtain ⟨axis, isAxis, rfl⟩ := Option.map_eq_some_iff.mp isThird
    exact along axis (Axes.mem_of_third isAxis)

/-- Every index below the number of points is that of a point, which is found. -/
theorem finds_vertex (regular : coordset.IsRegular) (even : coordset.IsEven) {index : Int}
    (notBefore : 0 ≤ index) (isBelow : index < coordset.pointCount) :
    ∃ position, coordset.coordinates.vertex index = .ok position := by
  by_cases isListed : coordset.kind = .explicit
  · cases coordset with
    | explicit axes => exact finds_listed even regular.2 notBefore isBelow
    | _ => cases isListed
  · obtain ⟨counts, isGrid⟩ := exists_isGridOf regular isListed
    exact isGrid.finds_vertex notBefore isBelow

theorem pointCount_lt (regular : coordset.IsRegular) : coordset.pointCount < 2 ^ 63 := by
  by_cases isListed : coordset.kind = .explicit
  · cases coordset with
    | explicit axes => exact Int.ofNat_lt.mpr regular.1
    | _ => cases isListed
  · obtain ⟨counts, isGrid⟩ := exists_isGridOf regular isListed
    have fits := isGrid.fits
    rw [isGrid.pointCount]
    omega

end Coordset

namespace Topology

variable {topology : Topology} {coordset : Coordset} {counts : Axes Nat}

theorem vertices_checked (regular : coordset.IsRegular) (even : coordset.IsEven) :
    AnswersBelow .vertex coordset.pointCount fun index => coordset.vertexLocation (.ok index) :=
  AnswersBelow.of_check (fun _ => rfl) fun _ => Coordset.finds_vertex regular even

theorem points_checked (arePoints : topology.elements = .points) (regular : coordset.IsRegular)
    (even : coordset.IsEven) :
    AnswersBelow .element coordset.pointCount
        (fun index => topology.elementLocation coordset (.ok index)) ∧
      AnswersBelow .element coordset.pointCount
        fun index => topology.elementPoints coordset (.ok index) := by
  constructor
  · refine AnswersBelow.of_check ?_ fun _ => Coordset.finds_vertex regular even
    intro index
    simp only [elementLocation, elementCount, arePoints, ok_bind]
  · have finds (index : Int) : topology.elementPoints coordset (.ok index) =
        checkedIndex .element coordset.pointCount (.ok index) >>= fun index =>
          storedCorners [index] := by
      simp only [elementPoints, elementCount, arePoints, ok_bind]
    refine AnswersBelow.of_check finds ?_
    intro index notBefore isBelow
    have inWord := Coordset.pointCount_lt regular
    exact ⟨[index], storedCorners_singleton notBefore (by omega)⟩

/-- The corners of a cell are places of the grid, so each has its number. -/
theorem cells_checked (isGrid : topology.IsGrid) (hasPlaces : coordset.IsGridOf counts) :
    AnswersBelow .element counts.cells.total
        (fun index => topology.elementLocation coordset (.ok index)) ∧
      AnswersBelow .element counts.cells.total
        fun index => topology.elementPoints coordset (.ok index) := by
  have areCells := isGrid.areCells coordset
  have sameExtents : (topology.mesh coordset).coordinates.elementExtents = counts.cells.wholes :=
    coordset.elementExtents_eq.symm.trans hasPlaces.elementExtents
  have counted := hasPlaces.elementCount
  rw [hasPlaces.elementExtents] at counted
  have findsCorners : ∀ index, topology.elementPoints coordset (.ok index) =
      checkedIndex .element counts.cells.total (.ok index) >>= fun index =>
        cornersOf counts.cells.wholes.toList index >>= storedCorners := by
    intro index
    rw [elementPoints_eq, Mesh.elementPoints_of_cells areCells, sameExtents, counted]
  have findsCentre : ∀ index, topology.elementLocation coordset (.ok index) =
      checkedIndex .element counts.cells.total (.ok index) >>= fun index =>
        coordset.coordinates.elementCentre (topology.elementPoints coordset (.ok index)) index := by
    intro index
    simp only [elementLocation_eq, elementPoints_eq, Mesh.elementLocation_of_cells areCells,
      sameExtents, counted]
    rfl
  constructor
  · refine AnswersBelow.of_check findsCentre ?_
    intro index notBefore isBelow
    obtain ⟨number, rfl⟩ := Int.eq_ofNat_of_zero_le notBefore
    obtain ⟨place, isCell, rfl⟩ := Axes.exists_place (Int.ofNat_lt.mp isBelow)
    exact hasPlaces.centre _ place isCell
  · refine AnswersBelow.of_check findsCorners ?_
    intro index notBefore isBelow
    obtain ⟨number, rfl⟩ := Int.eq_ofNat_of_zero_le notBefore
    obtain ⟨place, isCell, rfl⟩ := Axes.exists_place (Int.ofNat_lt.mp isBelow)
    refine ⟨(counts.corners place).map fun corner => (counts.number corner : Int), ?_⟩
    rw [cornersOf_number isCell, ok_bind]
    exact storedCorners_numbers (fun corner => isCell.corners) hasPlaces.fits

end Topology

theorem Domain.Resolves.isEven {domain : Domain} {name : String} {topology : Topology}
    {coordset : Coordset} (resolves : domain.Resolves name topology coordset)
    (loaded : domain.IsLoaded) : coordset.IsEven :=
  loaded.evenCoordsets _ (Registry.mem_of_find? resolves.finds.1)

/-- On grids with a point along every axis and on listed points, every index of a vertex below the
number of points has a position and every other one is refused as outside. The same holds of the
elements of points and grids: their positions and their corner points. -/
theorem Domain.indices_are_checked {value : Value} {domain : Domain}
    (loads : Domain.ofValue value = .ok domain) {name : String} {topology : Topology}
    {coordset : Coordset} (resolves : domain.Resolves name topology coordset)
    (regular : coordset.IsRegular) :
    (∃ points, domain.pointCount name = .ok points ∧
      AnswersBelow .vertex points fun index => domain.vertexLocation name (.ok index)) ∧
    (topology.elements = .points ∨ topology.IsGrid →
      ∃ elements, domain.elementCount name = .ok elements ∧
        (AnswersBelow .element elements fun index => domain.elementLocation name (.ok index)) ∧
        AnswersBelow .element elements fun index => domain.elementPoints name (.ok index)) := by
  have even := resolves.isEven (isLoaded_of_ofValue loads)
  simp only [resolves.pointCount_eq, resolves.elementCount_eq, resolves.elementPoints_eq,
    resolves.vertexLocation_eq, resolves.elementLocation_eq]
  refine ⟨⟨_, rfl, Topology.vertices_checked regular even⟩, ?_⟩
  rintro (arePoints | isGrid)
  · refine ⟨coordset.pointCount, ?_, Topology.points_checked arePoints regular even⟩
    rw [Topology.elementCount, arePoints]
  · have notListed := isGrid.notListed resolves.finds.2
    obtain ⟨counts, hasPlaces⟩ := Coordset.exists_isGridOf regular notListed
    refine ⟨counts.cells.total, ?_, Topology.cells_checked isGrid hasPlaces⟩
    rw [Topology.elementCount_of_isGrid isGrid, hasPlaces.elementCount]

/-- A domain with two points in a row, at whole numbers and at a truth value. -/
def rungDomain : Domain :=
  ⟨[("rungs", .rectilinear ⟨.int .int64 [4, 7], .truth [true], none⟩)],
    [("mesh", ⟨"rungs", .rectilinear⟩)], [], []⟩

theorem indices_of_rung_are_checked :
    Domain.ofValue rungDomain.toValue = .ok rungDomain ∧
      (∃ topology coordset,
        rungDomain.Resolves "mesh" topology coordset ∧ coordset.IsRegular) ∧
      (∃ position, rungDomain.vertexLocation "mesh" (.ok 1) = .ok position) ∧
      rungDomain.vertexLocation "mesh" (.ok (-1)) = .error (.partOutside .vertex (-1) 2) ∧
      rungDomain.elementLocation "mesh" (.ok 0) = .error (.partOutside .element 0 0) := by
  have loads : Domain.ofValue rungDomain.toValue = .ok rungDomain := rfl
  have resolves : rungDomain.Resolves "mesh" ⟨"rungs", .rectilinear⟩
      (.rectilinear ⟨.int .int64 [4, 7], .truth [true], none⟩) := ⟨rfl, rfl⟩
  have regular : (Coordset.rectilinear ⟨.int .int64 [4, 7], .truth [true], none⟩).IsRegular := by
    refine ⟨⟨by decide, by decide⟩, ?_⟩
    intro axis isAxis
    rcases List.mem_pair.mp isAxis with rfl | rfl <;> trivial
  obtain ⟨⟨points, counted, vertices⟩, ofElements⟩ :=
    Domain.indices_are_checked loads resolves regular
  obtain ⟨elements, elementsCounted, locations, _⟩ := ofElements (.inr (.inr rfl))
  cases counted
  cases elementsCounted
  exact ⟨loads, ⟨_, _, resolves, regular⟩, vertices.answers 1 (by decide) (by decide),
    vertices.refuses (-1) (by decide), locations.refuses 0 (by decide)⟩

end FieldSurvey
