import FieldSurvey.CommandLine.Words
import FieldSurvey.Engine.Settings

/-!
The command-line options that set up an engine.
-/

namespace FieldSurvey

namespace CommandLine

def engineRules : List OptionRule :=
  [⟨"--topology", some fun _ => true⟩,
    ⟨"--bins", some fun value => (readWhole? value).isSome⟩,
    ⟨"--interpolation", some fun value => (Interpolation.ofName? value).isSome⟩,
    ⟨"--log-level", some fun value => Settings.levelNames.contains value⟩,
    ⟨"--mpi", none⟩]

def textOf (name : String) (line : CommandLine) : Value :=
  match line.valueOf? name with
  | some value => .text value
  | none => .null

/-- The whole number given for an option, nothing if it is not given. -/
def wholeOf (name : String) (line : CommandLine) : Value :=
  match (line.valueOf? name).bind readWhole? with
  | some number => .whole number
  | none => .null

def settings (line : CommandLine) : Except Error Settings :=
  Settings.ofAttributes
    [(.text "topology", line.textOf "--topology"), (.text "bins", line.wholeOf "--bins"),
      (.text "interpolation", line.textOf "--interpolation"),
      (.text "log_level", line.textOf "--log-level"),
      (.text "mpi", .truth (line.gives "--mpi"))]

end CommandLine

end FieldSurvey
