import FieldSurvey.Histogram.Basic
import FieldSurvey.Statistics.Extremum
import FieldSurvey.Statistics.Sum
import FieldSurvey.Value.Spelling

/-!
What queries answer. An answer can be handed to a later query, where a histogram is taken as it is.
-/

namespace FieldSurvey

/-- An answer: a value, one number on its own, a sum with its count, an extreme entry with its
place, a range, or a histogram. -/
inductive Answer where
  | value (content : Value)
  | scalar (number : Value)
  | sum (result : FieldSum Float)
  | extremum (result : FieldExtremum Float)
  | range (low high : Float)
  | histogram (result : Histogram Float)

namespace Answer

/-- Something with named parts as a value with which nothing can be done. -/
def sealed (typeName : String) (parts : List (String × Value)) : Value :=
  let shown := parts.map fun (name, content) => name ++ "=" ++ content.quoted
  .foreign typeName (typeName ++ "(" ++ ", ".intercalate shown ++ ")")

def toValue : Answer → Value
  | value content => content
  | scalar number => sealed "ScalarResult" [("value", number)]
  | sum result =>
      sealed "SumResult" [("value", .ofFloat result.total), ("count", .whole result.count)]
  | extremum result =>
      sealed "ExtremumResult" [("value", .ofFloat result.value), ("rank", .whole result.rank),
        ("domain_id", .whole result.domainId),
        ("position", .row (.ofFloats result.position.toList))]
  | range low high =>
      let shown := ", ".intercalate [(Value.ofFloat low).quoted, (Value.ofFloat high).quoted]
      .foreign "tuple" ("(" ++ shown ++ ")")
  | histogram result =>
      sealed "Histogram" [("value", .row (.ofFloats result.values)),
        ("min_val", .ofFloat result.low), ("max_val", .ofFloat result.high),
        ("num_bins", .whole result.binCount)]

def isNull : Answer → Bool
  | value .null => true
  | _ => false

end Answer

end FieldSurvey
