import FieldSurvey.Text.Printable

/-!
Texts and byte strings in quotes, as they stand inside the text of a list or mapping. Single quotes
are used unless the content holds some and no double ones.
-/

namespace FieldSurvey

def hexDigit (digit : Nat) : Char :=
  if digit < 10 then Char.ofNat (48 + digit) else Char.ofNat (87 + digit)

def hexText (count number : Nat) : String :=
  String.ofList ((List.range count).reverse.map fun place => hexDigit (number / 16 ^ place % 16))

/-- The quote mark of a content. -/
def quoteMark (content : List Char) : Char :=
  if content.contains '\'' && !content.contains '"' then '"' else '\''

/-- The code point of a character, spelled with as few digits as its size allows. -/
def spelledCodePoint (codePoint : Nat) : String :=
  if codePoint < 0x100 then "\\x" ++ hexText 2 codePoint
  else if codePoint < 0x10000 then "\\u" ++ hexText 4 codePoint
  else "\\U" ++ hexText 8 codePoint

/-- One character between quotes: the mark and the backslash are escaped, and what leaves no mark is
spelled. -/
def quotedCharacter (mark character : Char) : String :=
  if character = mark ∨ character = '\\' then String.ofList ['\\', character]
  else if character = '\n' then "\\n"
  else if character = '\r' then "\\r"
  else if character = '\t' then "\\t"
  else if isPrintable character then String.singleton character
  else spelledCodePoint character.toNat

def quotedText (text : String) : String :=
  let mark := quoteMark text.toList
  String.singleton mark ++ String.join (text.toList.map (quotedCharacter mark)) ++
    String.singleton mark

/-- One byte between quotes: outside printable ASCII it is spelled. -/
def quotedByte (mark : Char) (byte : UInt8) : String :=
  if 128 ≤ byte.toNat then "\\x" ++ hexText 2 byte.toNat
  else quotedCharacter mark (Char.ofNat byte.toNat)

def quotedBytes (bytes : List UInt8) : String :=
  let mark := quoteMark (bytes.map fun byte => Char.ofNat byte.toNat)
  "b" ++ String.singleton mark ++ String.join (bytes.map (quotedByte mark)) ++ String.singleton mark

end FieldSurvey
