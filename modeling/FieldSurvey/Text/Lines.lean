/-!
The lines of a text. A line ends at any of the characters that break lines, a carriage return and
the line feed after it counting as one; what follows the last break is a line only if it is not
empty.
-/

namespace FieldSurvey

/-- Line feed, vertical tab, form feed, carriage return, the separators of files, groups and
records, next line, and the separators of lines and paragraphs. -/
def breaksLine (character : Char) : Bool :=
  [0xA, 0xB, 0xC, 0xD, 0x1C, 0x1D, 0x1E, 0x85, 0x2028, 0x2029].contains character.toNat

/-- Goes on with the characters of the line that was begun, the last one first. -/
def linesFrom : List Char → List Char → List String
  | [], [] => []
  | begun, [] => [String.ofList begun.reverse]
  | begun, '\r' :: '\n' :: rest => String.ofList begun.reverse :: linesFrom [] rest
  | begun, character :: rest =>
      if breaksLine character then String.ofList begun.reverse :: linesFrom [] rest
      else linesFrom (character :: begun) rest

def linesOf (text : String) : List String := linesFrom [] text.toList

end FieldSurvey
