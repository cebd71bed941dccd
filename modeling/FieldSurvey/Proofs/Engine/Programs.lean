import FieldSurvey.Proofs.Statistics.Aggregates

/-!
The histogram of a field as an engine answers it, taken apart: the number of bins that is asked for,
the range, the cutting of the range into bins, and the counting.
-/

namespace FieldSurvey

namespace Engine

open Collective

/-- The number of bins that a caller asks for, or else the one in the settings. -/
def askedBinCount (settings : Settings) (binCount : Value) : Except Error Value :=
  if (Answer.value binCount).isNull then .ok settings.binCount
  else Value.whole <$> binCount.toWhole

/-- The bounds that a caller asks for; those that are left out are those of the finite entries. -/
def askedRange (dataset : Dataset) (field low high : Value) (group : ProcessGroup) :
    Collective Float (Value × Value) :=
  if (Answer.value low).isNull || (Answer.value high).isNull then
    (dataset.fieldShare field).finiteRange group >>= fun range =>
      pure (if (Answer.value low).isNull then .ofFloat range.1 else low,
        if (Answer.value high).isNull then .ofFloat range.2 else high)
  else pure (low, high)

def askedBinning (low high count : Value) : Except Error (Binning Float) := do
  let high ← raisedBound low high
  Aggregate.binningOf low high count

theorem histogramOf_eq (engine : Engine) (dataset : Dataset) (field binCount low high : Value) :
    engine.histogramOf dataset field binCount low high =
      Collective.ofExcept (askedBinCount engine.settings binCount) >>= fun count =>
        askedRange dataset field low high engine.group >>= fun range =>
          Collective.ofExcept (askedBinning range.1 range.2 count) >>= fun binning =>
            (dataset.fieldShare field).histogram engine.group binning := by
  unfold histogramOf askedBinCount askedRange askedBinning Aggregate.binningOf
  cases countLeftOut : (Answer.value binCount).isNull <;>
    cases rangeLeftOut : (Answer.value low).isNull || (Answer.value high).isNull <;>
      simp [countLeftOut, rangeLeftOut, ofExcept_bind]

end Engine

end FieldSurvey
