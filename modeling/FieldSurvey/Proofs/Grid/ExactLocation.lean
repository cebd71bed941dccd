import FieldSurvey.Grid.Location
import FieldSurvey.Proofs.Outcome
import FieldSurvey.Proofs.Scalar.Exact

/-!
Where points lie if all numbers are finite and exact: a step from an origin, a choice of entries
along each axis, and the mean of listed points give rational positions.
-/

namespace FieldSurvey

namespace Position

def exact (position : Position ℚ) : Position ExactNumber := position.map .finite

/-- The middle of several points. -/
def mean (points : List (Position ℚ)) : Position ℚ where
  x := (points.map Position.x).sum / points.length
  y := (points.map Position.y).sum / points.length
  z := (points.map Position.z).sum / points.length

def plus (sum position : Position ExactNumber) : Position ExactNumber :=
  ⟨sum.x + position.x, sum.y + position.y, sum.z + position.z⟩

theorem foldl_plus (points : List (Position ℚ)) (start : Position ℚ) :
    (points.map exact).foldl plus start.exact =
      exact ⟨start.x + (points.map Position.x).sum, start.y + (points.map Position.y).sum,
        start.z + (points.map Position.z).sum⟩ := by
  induction points generalizing start with
  | nil => simp
  | cons first rest inductionHypothesis =>
      have step : plus start.exact first.exact =
          exact ⟨start.x + first.x, start.y + first.y, start.z + first.z⟩ := rfl
      rw [List.map_cons, List.foldl_cons, step, inductionHypothesis]
      simp only [List.map_cons, List.sum_cons, add_assoc]

/-- The mean of positions over any numbers: added up from zero, and then divided by how many there
are. -/
def average {α : Type} [Scalar α] (positions : List (Position α)) : Position α :=
  let origin : Position α := ⟨Scalar.zero, Scalar.zero, Scalar.zero⟩
  let total := positions.foldl (fun sum position =>
    ⟨sum.x + position.x, sum.y + position.y, sum.z + position.z⟩) origin
  total.map (· / Scalar.ofInt positions.length)

theorem average_exact {points : List (Position ℚ)} (somePoint : points ≠ []) :
    average (points.map exact) = (mean points).exact := by
  have isNonzero : (points.length : ℚ) ≠ 0 :=
    Nat.cast_ne_zero.mpr (mt List.length_eq_zero_iff.mp somePoint)
  have added : average (points.map exact) =
      ((points.map exact).foldl plus (exact ⟨0, 0, 0⟩)).map
        (· / Scalar.ofInt (points.map exact).length) := rfl
  rw [added, foldl_plus, List.length_map]
  simp [exact, map, mean, ExactNumber.finite_div, isNonzero]

end Position

namespace Coordinates

/-- The mean of listed points is that of their positions. -/
theorem meanOf_eq {α : Type} [Scalar α] (axes : Axes (List (LooseEntry α))) (points : List Int) :
    meanOf axes points =
      points.mapM (listed axes) >>= fun positions => .ok (Position.average positions) := by
  have steps : meanOf axes points = (do
      let total ← points.foldlM (fun (sum : Position α) point => do
        let position ← listed axes point
        return (⟨sum.x + position.x, sum.y + position.y, sum.z + position.z⟩ : Position α))
        ⟨Scalar.zero, Scalar.zero, Scalar.zero⟩
      return total.map (· / Scalar.ofInt points.length)) := rfl
  rw [steps, foldlM_prepared fun (sum position : Position α) =>
    (⟨sum.x + position.x, sum.y + position.y, sum.z + position.z⟩ : Position α)]
  cases found : points.mapM (listed axes) with
  | error cause => rfl
  | ok positions =>
      have sameLength : points.length = positions.length := (mapM_eq_ok.mp found).length_eq
      simp only [ok_bind, pure_eq_ok, sameLength]
      rfl

section Parts

variable {α : Type} {position : Position α}

theorem uniformPoint_eq_ok {extents : Axes Int} {origin spacing : Position α}
    {find : α → α → Int → Except Error α} {place : GridIndex} :
    uniformPoint extents origin spacing find place = .ok position ↔
      find origin.x spacing.x place.i = .ok position.x ∧
      find origin.y spacing.y place.j = .ok position.y ∧
      (extents.isThreeDimensional = true → find origin.z spacing.z place.k = .ok position.z) ∧
      (extents.isThreeDimensional = false → position.z = origin.z) := by
  obtain ⟨x, y, z⟩ := position
  cases inSpace : extents.isThreeDimensional with
  | true =>
      simp only [uniformPoint, inSpace, if_true, bind_eq_ok, pure_eq_ok, Except.ok.injEq,
        Position.mk.injEq]
      constructor
      · rintro ⟨_, alongX, _, alongY, _, alongZ, rfl, rfl, rfl⟩
        exact ⟨alongX, alongY, fun _ => alongZ, nofun⟩
      · rintro ⟨alongX, alongY, alongZ, _⟩
        exact ⟨_, alongX, _, alongY, _, alongZ trivial, rfl, rfl, rfl⟩
  | false =>
      simp only [uniformPoint, inSpace, Bool.false_eq_true, if_false, bind_eq_ok, pure_eq_ok,
        Except.ok.injEq, Position.mk.injEq]
      constructor
      · rintro ⟨_, alongX, _, alongY, rfl, rfl, isHeight⟩
        exact ⟨alongX, alongY, nofun, fun _ => isHeight.symm⟩
      · rintro ⟨alongX, alongY, _, isHeight⟩
        exact ⟨_, alongX, _, alongY, rfl, rfl, (isHeight trivial).symm⟩

theorem choose_eq_ok [Scalar α] {axes : Axes (List (LooseEntry α))}
    {entry : List (LooseEntry α) → Int → Except Error α} {i j k : Int} :
    choose axes entry i j k = .ok position ↔
      entry axes.x i = .ok position.x ∧ entry axes.y j = .ok position.y ∧
      (∀ axis ∈ axes.z, entry axis k = .ok position.z) ∧
      (axes.isThreeDimensional = false → position.z = Scalar.zero) := by
  obtain ⟨x, y, z⟩ := position
  obtain ⟨first, second, third⟩ := axes
  cases third with
  | none =>
      simp only [choose, bind_eq_ok, pure_eq_ok, Except.ok.injEq, Position.mk.injEq]
      constructor
      · rintro ⟨_, alongX, _, alongY, rfl, rfl, isHeight⟩
        exact ⟨alongX, alongY, nofun, fun _ => isHeight.symm⟩
      · rintro ⟨alongX, alongY, _, isHeight⟩
        exact ⟨_, alongX, _, alongY, rfl, rfl, (isHeight rfl).symm⟩
  | some axis =>
      simp only [choose, bind_eq_ok, pure_eq_ok, Except.ok.injEq, Position.mk.injEq]
      constructor
      · rintro ⟨_, alongX, _, alongY, _, alongZ, rfl, rfl, rfl⟩
        exact ⟨alongX, alongY, fun _ isThird => Option.some.inj isThird ▸ alongZ, nofun⟩
      · rintro ⟨alongX, alongY, alongZ, _⟩
        exact ⟨_, alongX, _, alongY, _, alongZ axis rfl, rfl, rfl, rfl⟩

end Parts

variable {found : Position ℚ}

theorem along_exact (origin spacing : ℚ) (step : Nat) :
    along (ExactNumber.finite origin) (ExactNumber.finite spacing) (step : Int) =
      .ok (.finite (origin + step * spacing)) := rfl

theorem uniformPoint_exact {extents : Axes Int} {origin spacing : Position ℚ}
    {find : ExactNumber → ExactNumber → Int → Except Error ExactNumber} {place : GridIndex}
    (alongX : find (.finite origin.x) (.finite spacing.x) place.i = .ok (.finite found.x))
    (alongY : find (.finite origin.y) (.finite spacing.y) place.j = .ok (.finite found.y))
    (alongZ : extents.isThreeDimensional = true →
      find (.finite origin.z) (.finite spacing.z) place.k = .ok (.finite found.z))
    (inPlane : extents.isThreeDimensional = false → found.z = origin.z) :
    uniformPoint extents origin.exact spacing.exact find place = .ok found.exact :=
  uniformPoint_eq_ok.mpr ⟨alongX, alongY, alongZ, fun notInSpace =>
    congrArg ExactNumber.finite (inPlane notInSpace)⟩

section Chosen

variable {axes : Axes (List (LooseEntry ExactNumber))}

theorem choose_exact
    {entry : List (LooseEntry ExactNumber) → Int → Except Error ExactNumber} {i j k : Int}
    (alongX : entry axes.x i = .ok (.finite found.x))
    (alongY : entry axes.y j = .ok (.finite found.y))
    (alongZ : ∀ axis ∈ axes.z, entry axis k = .ok (.finite found.z))
    (inPlane : axes.isThreeDimensional = false → found.z = 0) :
    choose axes entry i j k = .ok found.exact :=
  choose_eq_ok.mpr ⟨alongX, alongY, alongZ, fun notInSpace =>
    congrArg ExactNumber.finite (inPlane notInSpace)⟩

variable {axis : List (LooseEntry ExactNumber)} {place : Nat}

theorem stored_exact {number : ℚ} (stands : axis[place]? = some (.readable (.finite number))) :
    stored axis place = .ok (.finite number) := by
  rw [stored, entryAt_ofNat stands]
  rfl

theorem middle_exact {left right : ℚ}
    (atLeft : axis[place]? = some (.readable (.finite left)))
    (atRight : axis[place + 1]? = some (.readable (.finite right))) :
    middle axis place = .ok (.finite (1 / 2 * (left + right))) := by
  have next := entryAt_ofNat atRight
  rw [Int.natCast_succ] at next
  rw [middle, entryAt_ofNat atLeft, next]
  simp [LooseEntry.number?]

theorem meanOf_exact {numbers : List Int} {points : List (Position ℚ)}
    (found : numbers.mapM (listed axes) = .ok (points.map Position.exact))
    (somePoint : points ≠ []) : meanOf axes numbers = .ok (Position.mean points).exact := by
  rw [meanOf_eq, found, ok_bind, Position.average_exact somePoint]

end Chosen

end Coordinates

end FieldSurvey
