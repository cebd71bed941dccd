import FieldSurvey.Text.Case

/-!
Log records and the levels they are sorted by.
-/

namespace FieldSurvey

/-- Who writes a record. -/
inductive LogSource where
  | statistics
  | agreement
  deriving DecidableEq, Repr

namespace LogSource

def name : LogSource → String
  | statistics => "meshquery.stats"
  | agreement => "meshquery.agreement"

end LogSource

/-- A line for the log. -/
structure LogRecord where
  level : Int
  source : LogSource
  text : String
  deriving DecidableEq, Repr

namespace LogLevel

def debug : Int := 10

def warning : Int := 30

def error : Int := 40

/-- The levels that go by a name; a level that has two goes by the first. -/
def named : List (String × Int) :=
  [("CRITICAL", 50), ("FATAL", 50), ("ERROR", 40), ("WARNING", 30), ("WARN", 30), ("INFO", 20),
   ("DEBUG", 10), ("NOTSET", 0)]

def ofName? (name : String) : Option Int := named.lookup (upperText name)

def name (level : Int) : String :=
  match named.find? fun entry => entry.2 == level with
  | some (name, _) => name
  | none => "Level " ++ toString level

end LogLevel

end FieldSurvey
