/-!
Upper-case text, as far as the result is made of ASCII letters: the ASCII letters themselves and the
few characters outside ASCII whose upper case is one or more of them.
-/

namespace FieldSurvey

/-- The upper case of one character; a character whose upper case lies outside ASCII stays. -/
def upperCharacter (character : Char) : List Char :=
  match character with
  | 'ı' => ['I']
  | 'ſ' => ['S']
  | 'ß' => ['S', 'S']
  | 'ﬀ' => ['F', 'F']
  | 'ﬁ' => ['F', 'I']
  | 'ﬂ' => ['F', 'L']
  | 'ﬃ' => ['F', 'F', 'I']
  | 'ﬄ' => ['F', 'F', 'L']
  | 'ﬅ' => ['S', 'T']
  | 'ﬆ' => ['S', 'T']
  | other => [other.toUpper]

def upperText (text : String) : String := String.ofList (text.toList.flatMap upperCharacter)

end FieldSurvey
