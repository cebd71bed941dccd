import FieldSurvey.Proofs.Binary.Negation
import FieldSurvey.Proofs.Kernel.Search

/-!
The two ends of the order are mirror images. With all signs turned, the search for one end compares
as the search for the other end does, counts undefined entries as the opposite worst number, and so
stops at the same place.
-/

namespace FieldSurvey

namespace Extreme

def opposite : Extreme → Extreme
  | least => greatest
  | greatest => least

theorem beats_opposite (extreme : Extreme) (candidate best : Float) :
    extreme.opposite.beats (-candidate) (-best) = extreme.beats candidate best := by
  cases extreme with
  | least => exact lt_neg best candidate
  | greatest => exact lt_neg candidate best

theorem neg_worst (extreme : Extreme) : -(extreme.worst : Float) = extreme.opposite.worst := by
  cases extreme <;> decide +kernel

theorem ranked_opposite (extreme : Extreme) (number : Float) :
    extreme.opposite.ranked (-number) = -extreme.ranked number := by
  unfold ranked
  rw [isUndefined_neg]
  split
  · exact extreme.neg_worst.symm
  · rfl

/-- What is found, as the entry that stands where the search among the ranked numbers stops. -/
theorem foundIn_eq (extreme : Extreme) (entries : List Float) :
    extreme.foundIn entries =
      if entries.all Scalar.isUndefined = true then none
      else (firstBest? extreme.beats (entries.map extreme.ranked)).bind fun best =>
        entries[best.1]?.map fun number => (number, best.1) := by
  refine Except.ok.inj (extremum_eq_foundIn.symm.trans ?_)
  unfold Entries.extremum
  simp only
  split
  · rfl
  · refine congrArg Except.ok ?_
    show (firstBest? extreme.beats (entries.map extreme.ranked) >>= _) = _
    cases firstBest? extreme.beats (entries.map extreme.ranked) with
    | none => rfl
    | some best =>
        show (entries[best.1]? >>= _) = entries[best.1]?.map _
        cases entries[best.1]? <;> rfl

/-- The search for the opposite end among the numbers with the other signs stops at the same place. -/
theorem foundIn_opposite (extreme : Extreme) (entries : List Float) :
    extreme.opposite.foundIn (entries.map fun number => -number) =
      (extreme.foundIn entries).map fun found => (-found.1, found.2) := by
  have sameUndefined : (entries.map fun number => -number).all Scalar.isUndefined =
      entries.all Scalar.isUndefined := by
    rw [List.all_map]
    exact congrArg entries.all (funext isUndefined_neg)
  have rankedAlike : (entries.map fun number => -number).map extreme.opposite.ranked =
      (entries.map extreme.ranked).map fun number => -number := by
    rw [List.map_map, List.map_map]
    exact List.map_congr_left fun number _ => extreme.ranked_opposite number
  have stopsAlike : firstBest? extreme.opposite.beats
      ((entries.map fun number => -number).map extreme.opposite.ranked) =
        (firstBest? extreme.beats (entries.map extreme.ranked)).map
          (Prod.map id fun number => -number) := by
    rw [rankedAlike]
    exact firstBest?_map _ extreme.beats_opposite _
  rw [foundIn_eq, foundIn_eq, sameUndefined, stopsAlike]
  split
  · rfl
  · cases firstBest? extreme.beats (entries.map extreme.ranked) with
    | none => rfl
    | some best =>
        show ((entries.map fun number => -number)[best.1]?.map _) =
          Option.map _ (entries[best.1]?.map _)
        rw [List.getElem?_map]
        cases entries[best.1]? <;> rfl

end Extreme

end FieldSurvey
