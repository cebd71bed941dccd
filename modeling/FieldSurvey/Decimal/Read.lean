import FieldSurvey.Binary.Format
import FieldSurvey.Text.Blank

/-!
Readers of numbers. A whole number is an optional sign and digits, single underscores allowed
between two digits; a real number may have a point, an exponent, or be an infinity or undefined by
name. Blanks around either are dropped, and nothing else may stand beside it. Byte strings are read
like texts, but only in ASCII.
-/

namespace FieldSurvey

def takeSign : List Char → Bool × List Char
  | '-' :: rest => (true, rest)
  | '+' :: rest => (false, rest)
  | rest => (false, rest)

/-- Digits with single underscores between them: how many there are, the number they spell after
the digits read so far, and the rest. -/
def takeDigits : List Char → Nat → Nat → Nat × Nat × List Char
  | [], count, number => (count, number, [])
  | '_' :: character :: rest, count, number =>
      match digitValue? character with
      | some digit =>
          if count = 0 then (count, number, '_' :: character :: rest)
          else takeDigits rest (count + 1) (number * 10 + digit)
      | none => (count, number, '_' :: character :: rest)
  | character :: rest, count, number =>
      match digitValue? character with
      | some digit => takeDigits rest (count + 1) (number * 10 + digit)
      | none => (count, number, character :: rest)

/-- Whole numbers of more digits are not read, leading zeros counted. -/
def digitLimit : Nat := 4300

def readWhole? (text : String) : Option Int :=
  let (negative, rest) := takeSign (trimBlanks text.toList)
  match takeDigits rest 0 0 with
  | (0, _, _) => none
  | (count, number, []) =>
      if digitLimit < count then none else some (if negative then -(number : Int) else number)
  | _ => none

/-- A significand and its power of ten: digits, a point, digits, not both empty. -/
def takeSignificand (characters : List Char) : Option (Nat × Int × List Char) :=
  let (wholeCount, whole, rest) := takeDigits characters 0 0
  let (count, number, places, rest) :=
    match rest with
    | '.' :: afterPoint =>
        let (places, fraction, afterFraction) := takeDigits afterPoint 0 0
        (wholeCount + places, whole * 10 ^ places + fraction, places, afterFraction)
    | _ => (wholeCount, whole, 0, rest)
  if count = 0 then none else some (number, -(places : Int), rest)

/-- The exponent after a significand; without a mark it is 0. -/
def takeExponent : List Char → Option Int
  | [] => some 0
  | mark :: rest =>
      if mark = 'e' ∨ mark = 'E' then
        let (negative, digits) := takeSign rest
        match takeDigits digits 0 0 with
        | (0, _, _) => none
        | (_, number, []) => some (if negative then -(number : Int) else number)
        | _ => none
      else none

/-- A decimal significand and exponent as the nearest double. Far outside the range of doubles the
answer is an infinity or zero without any power of ten being formed. -/
def doubleOfDecimal (number : Nat) (exponent : Int) : Float :=
  let lead : Int := (toString number).length + exponent
  if number = 0 ∨ lead < -400 then 0.0
  else if 400 < lead then 1.0 / 0.0
  else Float.ofScientific number (decide (exponent < 0)) exponent.natAbs

def namedNumber? (characters : List Char) : Option Double :=
  match String.ofList (characters.map Char.toLower) with
  | "inf" => some (.ofFloat (1.0 / 0.0))
  | "infinity" => some (.ofFloat (1.0 / 0.0))
  | "nan" => some .undefined
  | _ => none

/-- Reads a real number as it is stored; also an undefined one keeps its sign. -/
def readDouble? (text : String) : Option Double :=
  let (negative, rest) := takeSign (trimBlanks text.toList)
  let magnitude : Option Double :=
    (namedNumber? rest).orElse fun _ => do
      let (number, places, afterSignificand) ← takeSignificand rest
      let exponent ← takeExponent afterSignificand
      return .ofFloat (doubleOfDecimal number (places + exponent))
  magnitude.map fun number => if negative then number.negated else number

def readReal? (text : String) : Option Float := (readDouble? text).map Double.toFloat

/-- The text of a byte string in ASCII; other bytes have none. -/
def asciiText? (content : List UInt8) : Option String :=
  if content.all fun byte => byte.toNat < 128 then
    some (String.ofList (content.map fun byte => Char.ofNat byte.toNat))
  else none

def readWholeBytes? (content : List UInt8) : Option Int := (asciiText? content).bind readWhole?

/-- Reads the real number that a byte string spells, as it is stored. -/
def readDoubleBytes? (content : List UInt8) : Option Double :=
  (asciiText? content).bind readDouble?

end FieldSurvey
