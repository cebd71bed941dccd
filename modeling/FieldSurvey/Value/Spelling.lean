import FieldSurvey.Value.ArrayText
import FieldSurvey.Value.Convert

/-!
The text of a value, as names and messages show it. Inside a list or mapping texts stand in quotes,
and numbers with a type and arrays tell what they are.
-/

namespace FieldSurvey

def truthText (value : Bool) : String := if value then "True" else "False"

def dropPoint (text : String) : String :=
  match text.toList.reverse with
  | '0' :: '.' :: rest => String.ofList rest.reverse
  | _ => text

namespace TypedNumber

/-- The text of a complex number; a real part of zero is left out. -/
def complexText (width : FloatWidth) (parts : BitVec width.bits × BitVec width.bits) : String :=
  let first := dropPoint (shortestTextOf width parts.1)
  let second := dropPoint (shortestTextOf width parts.2)
  if first == "0" then second ++ "j"
  else
    let sign := if second.toList.head? = some '-' then "" else "+"
    "(" ++ first ++ sign ++ second ++ "j)"

def text : TypedNumber → String
  | truth value => truthText value
  | int type word => toString (type.read word)
  | float width word => shortestTextOf width word
  | complex width parts => complexText width parts

def doubleText : TypedNumber → String
  | float width word => shortestText (width.toFloat word)
  | complex width parts =>
      let widened (word : BitVec width.bits) : BitVec FloatWidth.double.bits :=
        FloatWidth.double.ofFloat (width.toFloat word)
      complexText .double (widened parts.1, widened parts.2)
  | number => number.text

def tagged (number : TypedNumber) : String :=
  let tag : String :=
    match number with
    | truth _ => "bool"
    | int type _ => type.name
    | float width _ => width.name
    | complex width _ => width.complexName
  match number with
  | truth value => "np." ++ truthText value ++ "_"
  | _ => "np." ++ tag ++ "(" ++ number.text ++ ")"

end TypedNumber

namespace Value

def namedList (value : Value) (text : String) : String :=
  match value with
  | list _ => "list(" ++ text ++ ")"
  | _ => text

mutual

def quoted : Value → String
  | null => "None"
  | truth value => truthText value
  | whole number => toString number
  | real stored => shortestText stored.toFloat
  | text content => quotedText content
  | bytes content => quotedBytes content
  | list items => "[" ++ ", ".intercalate (quotedItems items) ++ "]"
  | map entries => "\x7b" ++ ", ".intercalate (quotedEntries entries) ++ "\x7d"
  | array shape column => ArrayText.inside shape (quotedColumn column)
  | typed number => number.tagged
  | foreign _ spelling => spelling

def quotedItems : List Value → List String
  | [] => []
  | item :: rest => quoted item :: quotedItems rest

def quotedEntries : List (Value × Value) → List String
  | [] => []
  | (key, value) :: rest => (quoted key ++ ": " ++ quoted value) :: quotedEntries rest

def quotedColumn : Column Value → Column String
  | .truth entries => .truth entries
  | .int type entries => .int type entries
  | .float width entries => .float width entries
  | .complex width entries => .complex width entries
  | .text length entries => .text length entries
  | .bytes length entries => .bytes length entries
  | .mixed entries => .mixed (List.zipWith namedList entries (quotedItems entries))

end

def spelledAlone : Value → String
  | text content => content
  | typed number => number.text
  | value => value.quoted

/-- The text of a value standing alone. An array without axes stands for its entry; a byte string
taken from an array is named as one. -/
def spelled : Value → String
  | array [] column =>
      match column.values with
      | [.bytes content] => "np.bytes_(" ++ quotedBytes content ++ ")"
      | [entry] => entry.spelledAlone
      | _ => ""
  | array shape column => ArrayText.alone shape (quotedColumn column)
  | value => value.spelledAlone

/-- The text of a value that is put into a message: that of the value standing alone, but a number
with a type has the digits of a double. -/
def putInto : Value → String
  | typed number => number.doubleText
  | array [] column =>
      match column.values with
      | [.bytes content] => quotedBytes content
      | [.typed number] => number.doubleText
      | [entry] => entry.spelledAlone
      | _ => ""
  | value => value.spelled

end Value

end FieldSurvey
