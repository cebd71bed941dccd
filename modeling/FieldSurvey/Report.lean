import FieldSurvey.CommandLine.EngineOptions
import FieldSurvey.Decimal.Render
import FieldSurvey.Engine.Call
import FieldSurvey.Snapshot

/-!
The report on one field of a snapshot: where it is defined, its sum, mean, extremes, range and
quantiles, line by line. Where a field has nothing that a statistic needs, the report ends with the
reason in place of the rest.
-/

namespace FieldSurvey

def Collective.alone {α β : Type} (program : Collective α β) : Except Error β :=
  match Collective.run [program] with
  | report :: _ => report.outcome
  | [] => .error .deadlock

namespace Report

/-- What a program leaves behind: the number it ends with and the lines it printed. -/
structure Printout where
  code : Nat
  lines : List String

def Printout.text (printout : Printout) : String :=
  String.join (printout.lines.map (· ++ "\n"))

/-- How a run of the program ends: early, by an error, or with a printout. -/
inductive Ending where
  | stopped (stop : Stop)
  | failed (cause : Error)
  | finished (printout : Printout)

def rules : List OptionRule :=
  ⟨"--quantile", some fun value => (readReal? value).isSome⟩ :: CommandLine.engineRules

/-- The quantile targets that are asked for, the middle if none is. One that is nothing is no
target, which only matters when its turn comes. -/
def targets (line : CommandLine) : List (Option Float) :=
  match line.valuesOf "--quantile" with
  | [] => [some 0.5]
  | given => given.map (·.bind readReal?)

def positionText (position : Position Float) : String :=
  "(" ++ ", ".intercalate (position.toList.map (scientificText 6)) ++ ")"

def extremumLine (extreme : Extreme) (found : FieldExtremum Float) : String :=
  let ending := extreme.name
  let value := scientificText 6 found.value
  let place := positionText found.position
  let rank := found.rank
  let domain := found.domainId
  s!"  {ending}={value} at {place} (rank {rank}, domain {domain})"

/-- Lines so far, and the reason why there are no more of them, if there is one. -/
structure Progress where
  lines : List String
  reason : Option Error

/-- Adds the lines of another part; missing data ends the report, any other error the program. -/
def Progress.extend (progress : Progress) (part : Except Error (List String)) :
    Except Error Progress :=
  match progress.reason, part with
  | some _, _ => .ok progress
  | none, .ok lines => .ok ⟨progress.lines ++ lines, none⟩
  | none, .error cause =>
      if cause.category = .missingData then .ok ⟨progress.lines, some cause⟩ else .error cause

/-- The printout of a report. -/
def Progress.printout (progress : Progress) : Printout :=
  match progress.reason with
  | none => ⟨0, progress.lines⟩
  | some cause => ⟨1, progress.lines ++ ["  " ++ cause.message.getD ""]⟩

section

variable (engine : Engine) (dataset : Dataset) (field : Value)

def share : FieldShare Float := dataset.fieldShare field

def headline : Except Error String := do
  let association ← (dataset.fieldAssociation engine.group field : Collective Float _).alone
  let type ← (dataset.fieldType engine.group field : Collective Float _).alone
  let topology ← (dataset.fieldTopology engine.group field : Collective Float _).alone
  let name := field.putInto
  return s!"Field '{name}': {association} {type} on topology '{topology}'"

def sumLine : Except Error String := do
  let sum ← ((share dataset field).sum engine.group).alone
  let count := sum.count
  let total := scientificText 6 sum.total
  return s!"  count={count} sum={total}"

def averageLine : Except Error String := do
  let average ← ((share dataset field).average engine.group).alone
  return "  avg=" ++ scientificText 6 average

def extremumLines : Except Error (List String) := do
  let least ← ((share dataset field).loggedExtremum .least engine.group).alone
  let greatest ← ((share dataset field).loggedExtremum .greatest engine.group).alone
  return [extremumLine .least least, extremumLine .greatest greatest]

def countLine : Except Error String := do
  let undefined ← ((share dataset field).undefinedCount engine.group).alone
  let infinite ← ((share dataset field).infiniteCount engine.group).alone
  return s!"  nan={undefined} inf={infinite}"

def histogramLines (targets : List (Option Float)) (histogram : Histogram Float) :
    Except Error (List String) := do
  let entropy := scientificText 6 histogram.entropy
  let count := histogram.binCount
  let quantiles ← targets.mapM fun target => do
    let some target := target | throw .wrongType
    let value ← histogram.cumulative.quantile target engine.settings.interpolation
    return "  q" ++ generalText 6 target ++ "=" ++ scientificText 6 value
  return s!"  entropy={entropy} ({count} bins)" :: quantiles

def lines (targets : List (Option Float)) : Except Error Progress := do
  let headline ← headline engine dataset field
  let sum ← sumLine engine dataset field
  let start : Progress := ⟨[headline, sum], none⟩
  let withAverage ← start.extend (List.singleton <$> averageLine engine dataset field)
  let withExtremes ← withAverage.extend (extremumLines engine dataset field)
  if withExtremes.reason.isSome then return withExtremes
  let counts ← countLine engine dataset field
  let withCounts ← withExtremes.extend (.ok [counts])
  match (engine.histogramOf dataset field .null .null .null).alone with
  | .error cause => withCounts.extend (.error cause)
  | .ok histogram =>
      let last ← histogramLines engine targets histogram
      withCounts.extend (.ok last)

end

/-- The report that a command line asks for, from the snapshot that a path leads to. -/
def ofCommandLine (readSnapshot : String → Option Bytes) (line : CommandLine)
    (path : String) (field : Value) : Except Error Printout := do
  let settings ← line.settings
  match readSnapshot path with
  | none => return ⟨1, ["Snapshot path does not exist: " ++ path]⟩
  | some bytes =>
      let engine ← Engine.start none settings
      let dataset ← Snapshot.read bytes 0 1
      let isDefined ← (dataset.hasField engine.group field : Collective Float Bool).alone
      if isDefined then
        let progress ← lines engine dataset field (targets line)
        return progress.printout
      else
        let name := field.putInto
        return ⟨1, [s!"Field '{name}' is not defined on any domain"]⟩

/-- Runs the program on the words of its command line. -/
def run (readSnapshot : String → Option Bytes) (words : List String) : Ending :=
  match CommandLine.read rules 2 words with
  | .error stop => .stopped stop
  | .ok line =>
      match line.words with
      | [some path, field] =>
          let field := match field with
            | some name => .text name
            | none => .list []
          match ofCommandLine readSnapshot line path field with
          | .ok printout => .finished printout
          | .error cause => .failed cause
      | _ => .stopped .misuse

end Report

end FieldSurvey
