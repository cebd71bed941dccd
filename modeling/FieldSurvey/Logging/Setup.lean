import FieldSurvey.Error
import FieldSurvey.Logging.Record
import FieldSurvey.Text.Blank
import FieldSurvey.Text.Lines
import FieldSurvey.Value.Comparison
import FieldSurvey.Value.Spelling

/-!
Which records are written and how. A setup has one level for everything below the namespace of the
program; each of its outputs gets the same lines.
-/

namespace FieldSurvey

def logNamespace : String := "meshquery"

/-- A record from anywhere, by the name of its writer. -/
structure NamedRecord where
  source : String
  level : Int
  text : String

namespace NamedRecord

def isOwn (record : NamedRecord) : Bool :=
  record.source == logNamespace || (logNamespace ++ ".").toList.isPrefixOf record.source.toList

/-- The number of characters of a time of day and the dash after it. -/
def stampLength : Nat := 11

def isStamped (line : List Char) : Bool :=
  let start := line.take stampLength
  let isMatch (pattern character : Char) : Bool :=
    if pattern == '0' then (digitValue? character).isSome else pattern == character
  start.length == stampLength && (List.zipWith isMatch "00:00:00 - ".toList start).all id

def dropStamp (line : String) : String :=
  if isStamped line.toList then String.ofList (line.toList.drop stampLength) else line

/-- The lines of a record, without the time of day that its first line begins with; a line further
down that begins with one loses it too. -/
def lines (record : NamedRecord) : List String :=
  match linesOf (record.source ++ " - " ++ LogLevel.name record.level ++ " - " ++ record.text ++
    "\n") with
  | [] => []
  | first :: rest => first :: rest.map dropStamp

end NamedRecord

/-- A logging setup. The level is kept as it was given; a copy goes to a file if one is named. -/
structure LogSetup where
  given : Value
  level : Int
  hasFile : Bool

namespace LogSetup

/-- The level that a setting stands for: a number, or the name of a level in any case. Anything else
is compared with a text before it is refused. -/
def levelOf : Value → Except Error (Value × Int)
  | .text name =>
      match LogLevel.ofName? name with
      | some level => .ok (.whole level, level)
      | none => .error (.unknownLogLevel name)
  | .whole level => .ok (.whole level, level)
  | .truth value => .ok (.truth value, if value then 1 else 0)
  | value => do
      let _ ← value.equals (.text "")
      throw .wrongType

def configure (level : Option Value) (hasFile : Bool) : Except Error LogSetup := do
  let (given, level) ← levelOf (level.getD (.whole LogLevel.warning))
  return ⟨given, level, hasFile⟩

def outputCount (setup : LogSetup) : Nat := if setup.hasFile then 2 else 1

/-- The level that records have to reach to be passed on; level 0 leaves that to the default. -/
def threshold (setup : LogSetup) : Int :=
  if setup.level = 0 then LogLevel.warning else setup.level

def writes (setup : LogSetup) (record : NamedRecord) : Bool :=
  record.isOwn && decide (0 < record.level) && decide (setup.threshold ≤ record.level) &&
    decide (setup.level ≤ record.level)

def levelName (setup : LogSetup) : String :=
  match setup.given with
  | .truth value => "Level " ++ truthText value
  | _ => LogLevel.name setup.level

def announcement (setup : LogSetup) : NamedRecord :=
  ⟨logNamespace, LogLevel.debug, "meshquery logging configured at level " ++ setup.levelName⟩

/-- The lines that each output gets for the announcement and some records. -/
def lines (setup : LogSetup) (records : List NamedRecord) : List String :=
  ((setup.announcement :: records).filter setup.writes).flatMap NamedRecord.lines

end LogSetup

end FieldSurvey
