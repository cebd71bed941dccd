import FieldSurvey.Histogram.Given

/-!
Steps that are taken on a histogram and on what earlier steps gave. There is nothing to do with most
that is no histogram; but a single number counts as values of one entry where nothing but values is
looked at, and the arguments of a quantile are checked before what it is taken of.
-/

namespace FieldSurvey

/-- The values in a row. Those in any other shape cannot be listed. -/
def GivenHistogram.row (given : GivenHistogram) : Except Error (List Float) :=
  if given.shape.length = 1 then .ok given.values else .error .wrongType

inductive HistogramStep where
  | density
  | cumulative
  | entropy
  | quantile (arguments : List Value)
  | binBounds (bin : Value)
  | binWidth
  | edges

/-- What a step is taken on, and what it gives. -/
inductive HistogramSubject where
  | histogram (given : GivenHistogram)
  | number (content : Float)
  | bounds (low high : Value)
  | width (content : Value)
  | edges (bounds : List Float)
  | nothing

namespace HistogramSubject

/-- The histogram that a step needs. -/
def histogram? : HistogramSubject → Except Error GivenHistogram
  | histogram given => .ok given
  | _ => .error .noAttribute

/-- The values of a histogram, or those that a single number counts as. -/
def entropy : HistogramSubject → Except Error Float
  | histogram given => .ok given.entropy
  | number content => .ok (Histogram.entropy ⟨[content], content, content, 1⟩)
  | _ => .error .noAttribute

/-- A quantile of a histogram. A single number has no first value that could reach the target. -/
def quantileAt (target mode : Value) (subject : HistogramSubject) : Except Error Float :=
  match subject with
  | histogram given => given.quantile target mode
  | other => do
      let _ ← Interpolation.ofValue mode
      let _ ← checkedTarget (← target.toReal)
      match other with
      | number _ => throw .badValue
      | _ => throw .noAttribute

/-- A quantile for a target and, if it is given, a mode. -/
def quantile (arguments : List Value) (subject : HistogramSubject) : Except Error Float :=
  match arguments with
  | [target] => subject.quantileAt target (.text Interpolation.linear.name)
  | [target, mode] => subject.quantileAt target mode
  | _ => .error .wrongType

end HistogramSubject

namespace HistogramStep

def apply (step : HistogramStep) (subject : HistogramSubject) : Except Error HistogramSubject := do
  match step with
  | density => return .histogram (← subject.histogram?).density
  | cumulative => return .histogram (← subject.histogram?).cumulative
  | entropy => return .number (← subject.entropy)
  | quantile arguments => return .number (← subject.quantile arguments)
  | binBounds bin =>
      let (low, high) ← (← subject.histogram?).binBounds bin
      return .bounds low high
  | binWidth => return .width (← (← subject.histogram?).binWidth)
  | edges => return .edges (← (← subject.histogram?).edges)

/-- The steps in turn, each on the histogram that they start from or on what an earlier step gave; one
that failed gave nothing. -/
def run (start : GivenHistogram) (steps : List (HistogramStep × Option Nat)) :
    List (Except Error HistogramSubject) :=
  steps.foldl (fun results (step, earlier) =>
    let subject : HistogramSubject :=
      match earlier with
      | none => .histogram start
      | some place => ((results[place]?).bind Except.toOption).getD .nothing
    results ++ [step.apply subject]) []

end HistogramStep

end FieldSurvey
