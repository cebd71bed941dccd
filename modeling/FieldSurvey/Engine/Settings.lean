import FieldSurvey.Histogram.Asked
import FieldSurvey.Text.Case
import FieldSurvey.Value.Shape

/-!
The defaults that an engine falls back to. They can be given by keyword, by a mapping, or by the
options of a command line; whichever way, the same checks are made in the same order.
-/

namespace FieldSurvey

/-- Settings of an engine. The topology, bin count and use of message passing are kept as given. -/
structure Settings where
  topology : Value
  binCount : Value
  interpolation : Interpolation
  logLevel : String
  useMessagePassing : Value

namespace Settings

def levelNames : List String := ["DEBUG", "INFO", "WARNING", "ERROR", "CRITICAL"]

def default : Settings := ⟨.null, .whole 128, .linear, "WARNING", .truth false⟩

/-- A level by its name as any value; the name is kept as it is spelled. -/
def logLevelOf : Value → Except Error String
  | .text name =>
      if levelNames.contains (upperText name) then .ok name else .error (.logLevelSetting name)
  | .bytes content => .error (.logLevelSetting (Value.bytes content).putInto)
  | _ => .error .noAttribute

def check (topology binCount interpolation logLevel useMessagePassing : Value) :
    Except Error Settings := do
  let count ← binCount.toWhole
  if count ≤ 0 then throw (.binCountSetting binCount.putInto)
  let mode ← Interpolation.ofValue interpolation
  let level ← logLevelOf logLevel
  return ⟨topology, binCount, mode, level, useMessagePassing⟩

/-- The names of the settings, each with the value it has by default. -/
def defaults : List (String × Value) :=
  [("default_topology", default.topology), ("histogram_bins", default.binCount),
    ("quantile_interpolation", .text default.interpolation.name),
    ("log_level", .text default.logLevel), ("use_mpi", default.useMessagePassing)]

def names : List String := defaults.map Prod.fst

def given (entries : List (Value × Value)) (name : String) : Value :=
  (Value.find? name entries).getD ((defaults.lookup name).getD .null)

def ofKnown (entries : List (Value × Value)) : Except Error Settings :=
  check (given entries "default_topology") (given entries "histogram_bins")
    (given entries "quantile_interpolation") (given entries "log_level") (given entries "use_mpi")

def isKnown (key : Value) : Bool := names.any fun name => key.sameKey (.text name)

def ofKeywords (value : Value) : Except Error Settings :=
  match value with
  | .map entries =>
      if entries.all fun entry => isKnown entry.1 then ofKnown entries else .error .wrongType
  | _ => .error .wrongType

/-- The texts among some keys; no other key can be named. -/
def keyTexts (keys : List Value) : Except Error (List String) :=
  keys.mapM fun key =>
    match key with
    | .text name => .ok name
    | _ => .error .wrongType

def adjust (name : String) (change : Value → Except Error Value)
    (entries : List (Value × Value)) : Except Error (List (Value × Value)) :=
  entries.mapM fun entry =>
    if entry.1.sameKey (.text name) then do
      let value ← change entry.2
      return (entry.1, value)
    else return entry

/-- The settings given by a mapping; the bin count is read as a whole number and the use of message
passing as a truth value. -/
def ofMapping (value : Value) : Except Error Settings := do
  let keys ← value.items?
  if !keys.all Value.isKey then throw .wrongType
  let unknown ← keyTexts (keys.filter fun key => !isKnown key)
  if !unknown.isEmpty then
    throw (.unknownSettings (unknown.eraseDups.mergeSort fun left right => decide (left ≤ right)))
  let entries ← value.toEntries
  let entries ← adjust "histogram_bins" (fun count => Value.whole <$> count.toWhole) entries
  let entries ← adjust "use_mpi" (fun use => Value.truth <$> use.isTrue) entries
  ofKnown entries

def unlessFalse (value : Option Value) (otherwise : Value) : Except Error Value := do
  match value with
  | some value => if ← value.isTrue then return value else return otherwise
  | none => return otherwise

/-- The settings given by the attributes of something; those that count as false do not count. -/
def ofAttributes (attributes : List (Value × Value)) : Except Error Settings := do
  let named (name : String) : Option Value := Value.find? name attributes
  let topology ← unlessFalse (named "topology") default.topology
  let binCount ← (← unlessFalse (named "bins") default.binCount).toWhole
  let interpolation ← unlessFalse (named "interpolation") (.text default.interpolation.name)
  let logLevel ← unlessFalse (named "log_level") (.text default.logLevel)
  let useMessagePassing ← ((named "mpi").getD default.useMessagePassing).isTrue
  check topology (.whole binCount) interpolation logLevel (.truth useMessagePassing)

end Settings

end FieldSurvey
