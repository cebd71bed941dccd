import FieldSurvey.Kernel.Asked
import FieldSurvey.Proofs.Binary.Words
import FieldSurvey.Proofs.Kernel.DoubleBins

/-!
Arithmetic on values where all of them are doubles, and counting between bounds that are. The values
give the same doubles as the arithmetic on these.
-/

namespace FieldSurvey

theorem holds_whole {number : Nat} (fits : number ≤ 2 ^ 53) :
    Scalar.holds Float (number : Int) = true := by
  obtain ⟨rank, hasRank, rounds⟩ := orderRank?_ofNat number
  exact isFinite_iff.mpr ⟨rank, hasRank, (rounds.whole fits).2⟩

theorem realOfWhole_eq {number : Nat} (fits : number ≤ 2 ^ 53) :
    realOfWhole (number : Int) = .ok (Float.ofInt number) := by
  unfold realOfWhole
  rw [holds_whole fits]
  rfl

namespace Value

theorem minus_reals (left right : Float) :
    (ofFloat left).operate .minus (ofFloat right) = .ok (ofFloat (left - right)) := by
  show (Except.ok (ofFloat ((Double.ofFloat left).toFloat - (Double.ofFloat right).toFloat)) :
    Except Error Value) = _
  rw [Double.toFloat_ofFloat, Double.toFloat_ofFloat]

theorem divide_whole {dividend : Nat} (fits : dividend ≤ 2 ^ 53) {divisor : Float}
    (notZero : Scalar.eq divisor 0.0 = false) :
    (whole dividend).operate .divide (ofFloat divisor) =
      .ok (ofFloat (Float.ofInt dividend / divisor)) := by
  have isNonzero : (Number.real (Double.ofFloat divisor)).isNonzero = true := by
    show (!Scalar.eq (Double.ofFloat divisor).toFloat 0.0) = true
    rw [Double.toFloat_ofFloat, notZero]
    rfl
  show ofNumber <$> Operation.divide.onNumbers (.whole dividend) (.real (Double.ofFloat divisor)) = _
  unfold Operation.onNumbers
  rw [isNonzero]
  show ofNumber <$> ((realOfWhole dividend).bind fun left =>
    Except.ok (Number.real (.ofFloat (left / (Double.ofFloat divisor).toFloat)))) = _
  rw [realOfWhole_eq fits, Double.toFloat_ofFloat]
  rfl

theorem toReal_whole {number : Nat} (fits : number ≤ 2 ^ 53) :
    (whole number).toReal = .ok (Float.ofInt number) := by
  show Double.toFloat <$> (Double.ofFloat <$> realOfWhole number) = _
  rw [realOfWhole_eq fits]
  exact congrArg Except.ok (Double.toFloat_ofFloat _)

theorem sourcesOf_row (length : Nat) : sourcesOf [length] [length] = List.range length := by
  have within : sourcesOf [length] [length] =
      (List.range length).map fun place => if length = 1 then 0 else place := by
    simp [sourcesOf, sourcesWithin, sizeOfShape, List.map_eq_flatMap]
  rw [within]
  conv_rhs => rw [← List.map_id (List.range length)]
  refine List.map_congr_left fun place isPlace => ?_
  have inRange := List.mem_range.mp isPlace
  split
  · exact (show place = 0 by omega).symm
  · rfl

theorem sourcesOf_single (length : Nat) : sourcesOf [] [length] = List.replicate length 0 := by
  have within : sourcesOf [] [length] = (List.range length).map fun _ => 0 := by
    simp [sourcesOf, sourcesWithin, List.map_eq_flatMap]
  rw [within, List.map_const', List.length_range]

theorem filterMap_range (words : List (BitVec 64)) :
    (List.range words.length).filterMap (words[·]?) = words := by
  induction words with
  | nil => rfl
  | cons first rest inductionHypothesis =>
      rw [List.length_cons, List.range_succ_eq_map, List.filterMap_cons, List.filterMap_map]
      simpa [Function.comp_def] using inductionHypothesis

theorem toFloat_ofFloats (numbers : List Float) :
    (numbers.map FloatWidth.double.ofFloat).map FloatWidth.double.toFloat = numbers := by
  rw [List.map_map]
  exact (List.map_congr_left fun number _ => FloatWidth.toFloat_ofFloat number).trans
    (List.map_id numbers)

theorem entries_ofFloats (numbers : List Float) :
    (Column.ofFloats numbers : Column Value).entries = .reals numbers :=
  congrArg Entries.reals (toFloat_ofFloats numbers)

/-- Next to a row one double is repeated, and the row stays as it is. -/
theorem aligned_row {words : List (BitVec 64)} {length : Nat} (sameLength : words.length = length)
    (number : Float) :
    (Operand.stored [length] (.float .double words)).aligned (.real (Double.ofFloat number)) =
      .ok ([length], .float .double words,
        .float .double (List.replicate length (FloatWidth.double.ofFloat number))) := by
  subst sameLength
  have picked : (Column.float .double words : Column Value).pick
      (sourcesOf [words.length] [words.length]) = .float .double words := by
    rw [sourcesOf_row]
    refine congrArg (Column.float .double) ?_
    exact (List.filterMap_congr fun _ _ => List.getElem?_toArray).trans (filterMap_range words)
  have repeated : (Column.float .double [FloatWidth.double.ofFloat (Double.ofFloat number).toFloat] :
      Column Value).pick (sourcesOf [] [words.length]) =
        .float .double (List.replicate words.length (FloatWidth.double.ofFloat number)) := by
    rw [sourcesOf_single, Double.toFloat_ofFloat]
    refine congrArg (Column.float .double) ?_
    exact List.filterMap_replicate_of_some rfl
  show Except.ok ([words.length], (Column.float .double words : Column Value).pick
    (sourcesOf [words.length] [words.length]), (Column.float .double
      [FloatWidth.double.ofFloat (Double.ofFloat number).toFloat] : Column Value).pick
        (sourcesOf [] [words.length])) = _
  rw [picked, repeated]

theorem zip_repeated (operation : Operation) (numbers : List Float) (number : Float) :
    Column.zip operation (.float .double (numbers.map FloatWidth.double.ofFloat))
        (.float .double (List.replicate numbers.length (FloatWidth.double.ofFloat number))) =
      .ok (.ofFloats (numbers.map (operation.onReals · number))) := by
  refine congrArg Except.ok (congrArg (Column.float .double) ?_)
  rw [toFloat_ofFloats, List.map_replicate, FloatWidth.toFloat_ofFloat, List.map_map,
    ← List.map_const', List.zipWith_map_right, List.zipWith_self]
  rfl

/-- A row of doubles and one more double: the operation is done on every entry. -/
theorem operate_row (operation : Operation) (numbers : List Float) (number : Float) :
    (row (.ofFloats numbers)).operate operation (ofFloat number) =
      .ok (row (.ofFloats (numbers.map (operation.onReals · number)))) := by
  have sameLength : (numbers.map FloatWidth.double.ofFloat).length = numbers.length :=
    List.length_map _
  have isRow (others : List Float) : row (.ofFloats others) =
      .array [others.length] (.float .double (others.map FloatWidth.double.ofFloat)) := by
    unfold row
    exact congrArg (Value.array [·] _) (List.length_map _)
  rw [isRow]
  show ((Operand.stored [numbers.length] (.float .double (numbers.map
    FloatWidth.double.ofFloat))).aligned (.real (Double.ofFloat number))).bind (fun sides =>
      (Column.zip operation sides.2.1 sides.2.2).bind fun column =>
        Except.ok (ofEntries sides.1 column)) = _
  rw [aligned_row sameLength]
  show (Column.zip operation (.float .double (numbers.map FloatWidth.double.ofFloat))
    (.float .double (List.replicate numbers.length (FloatWidth.double.ofFloat number)))).bind
      (fun column => Except.ok (ofEntries [numbers.length] column)) = _
  rw [zip_repeated, isRow, List.length_map]
  rfl

end Value

namespace Entries

variable {low high : Float} {binCount : Nat}

/-- Between doubles the bins of an array are those that arithmetic on doubles gives. -/
theorem histogramAsked_reals (range : IsRange low high binCount) (entries : List Float) :
    (reals entries).histogramAsked (.ofFloat low) (.ofFloat high) (.whole binCount) =
      (reals entries).histogram (.ok low) (.ok (binsPerUnit low high binCount)) binCount := by
  have notZero : Scalar.eq (high - low) 0.0 = false := by
    obtain ⟨width, hasWidth, isPositive⟩ := exists_width range
    rw [eq_eq hasWidth (show orderRank? (0.0 : Float) = some 0 from orderRank?_zero)]
    exact decide_eq_false isPositive.ne'
  have someCount : ¬(lengthLimit : Int) ≤ binCount := by
    have fits := range.fits
    unfold lengthLimit
    omega
  have lastFits : binCount - 1 ≤ 2 ^ 53 := (Nat.sub_le _ _).trans range.fits
  have isLast : (binCount : Int) - 1 = ((binCount - 1 : Nat) : Int) := by
    have someBins := range.someBins
    omega
  have found : ∀ numbers : List Float, (do
      let width ← (Value.ofFloat high).operate .minus (.ofFloat low)
      let scale ← (Value.whole binCount).operate .divide width
      let distances ← (Value.row (.ofFloats numbers)).operate .minus (.ofFloat low)
      let positions ← (← distances.operate .times scale).toColumn
      let last ← (← (Value.whole binCount).operate .minus (.whole 1)).toReal
      let positions ← positions.entries.toReals
      return positions.mapM (binAt? last (binCount : Int).toNat) : Except Error (Option (List Nat))) =
        .ok (numbers.mapM (binOf? low (binsPerUnit low high binCount) binCount)) := by
    intro numbers
    have distances := Value.operate_row .minus numbers low
    have positions := Value.operate_row .times
      (numbers.map (Operation.minus.onReals · low)) (binsPerUnit low high binCount)
    have last : ((Value.whole binCount).operate .minus (.whole 1)) =
        .ok (.whole ((binCount - 1 : Nat) : Int)) := by
      rw [← isLast]
      rfl
    rw [Value.minus_reals, ok_bind, Value.divide_whole range.fits notZero, ok_bind, distances,
      ok_bind]
    show ((Value.row (.ofFloats (numbers.map (Operation.minus.onReals · low)))).operate .times
      (.ofFloat (binsPerUnit low high binCount)) >>= _) = _
    have asColumn : ∀ column, (Value.row column).toColumn = .ok column := fun _ => rfl
    rw [positions, ok_bind, asColumn, ok_bind, last, ok_bind, Value.toReal_whole lastFits, ok_bind,
      Value.entries_ofFloats, List.map_map]
    show Except.ok
      ((numbers.map fun number => (number - low) * binsPerUnit low high binCount).mapM _) = _
    rw [List.mapM_map, ← isLast]
    rfl
  unfold histogramAsked histogram
  show (if (lengthLimit : Int) ≤ binCount then _ else _) = _
  rw [if_neg someCount]
  refine congrArg (countBins · (binCount : Int) (.reals entries)) (funext fun numbers => ?_)
  exact found numbers

end Entries

end FieldSurvey
