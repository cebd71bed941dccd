import FieldSurvey.Engine.Answer
import FieldSurvey.Engine.Query
import FieldSurvey.Mesh.Change

/-!
The steps of a session: queries put to all processes, looks at what they hold, and changes to it.
-/

namespace FieldSurvey

/-- An argument in a step: a value, what the same process was answered in an earlier step, or a
value of its own for each process. -/
inductive StepArgument where
  | given (value : Value)
  | answerOf (step : Nat)
  | perProcess (values : List Value)

/-- The statistics and votes that can be asked for without an engine's defaults. -/
inductive Inquiry where
  | finiteRange
  | histogram
  | sum
  | topologyKinds
  | agreement
  deriving DecidableEq, Repr

namespace Inquiry

def signature : Inquiry → Signature
  | finiteRange | sum => ⟨["field"], 1, []⟩
  | histogram => ⟨["field", "min_val", "max_val", "num_bins"], 4, []⟩
  | topologyKinds => ⟨["topology"], 1, []⟩
  | agreement => ⟨["local"], 1, []⟩

end Inquiry

/-- A step of a session. Places of domains count from the end if they are negative. -/
inductive SessionStep where
  | evaluate (name : Value) (arguments : Arguments StepArgument)
  | inquire (inquiry : Inquiry) (arguments : List StepArgument)
  | locate (place : Value) (arguments : List StepArgument)
  | describe
  | reload
  | addDomain (rank : Int) (description : Value)
  | dropDomain (rank : Int) (place : Int)
  | change (rank : Int) (place : Int) (change : DomainChange)

end FieldSurvey
