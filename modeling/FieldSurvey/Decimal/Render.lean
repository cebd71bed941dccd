import FieldSurvey.Decimal.Shortest

/-!
The text of floating-point numbers. A layout says which numbers are written positionally and whether
a whole number keeps its point; messages use the fewest digits that read back, reports a fixed
number of digits.
-/

namespace FieldSurvey

/-- The choices of a positional or exponent form: numbers whose leading digit stands at a power of
ten in `[positionalFrom, positionalUntil)` are written positionally. -/
structure DecimalLayout where
  positionalFrom : Int
  positionalUntil : Int
  keepsPoint : Bool

/-- Messages write numbers from 0.0001 up to 10^16 positionally, and whole ones with `.0`. -/
def messageLayout : DecimalLayout := ⟨-4, 16, true⟩

/-- Reports write numbers from 0.0001 up to their digit count positionally, whole ones without a
point. -/
def reportLayout (digitCount : Nat) : DecimalLayout := ⟨-4, digitCount, false⟩

def zeros (count : Nat) : String := String.ofList (List.replicate count '0')

def exponentText (exponent : Int) : String :=
  let digits := toString exponent.natAbs
  (if exponent < 0 then "e-" else "e+") ++ (if digits.length < 2 then "0" ++ digits else digits)

def leadingDigitText (digits : String) : String :=
  match digits.toList with
  | [] => ""
  | [digit] => String.singleton digit
  | digit :: others => String.ofList (digit :: '.' :: others)

namespace DecimalLayout

def write (layout : DecimalLayout) (number : DecimalNumber) : String :=
  let digits := number.text
  let lead := number.lead
  if layout.positionalFrom ≤ lead ∧ lead < layout.positionalUntil then
    if 0 ≤ number.exponent then
      digits ++ zeros number.exponent.toNat ++ (if layout.keepsPoint then ".0" else "")
    else if 0 ≤ lead then
      let whole := lead.toNat + 1
      String.ofList (digits.toList.take whole) ++ "." ++ String.ofList (digits.toList.drop whole)
    else "0." ++ zeros ((-lead).toNat - 1) ++ digits
  else leadingDigitText digits ++ exponentText lead

def zeroText (layout : DecimalLayout) : String := if layout.keepsPoint then "0.0" else "0"

end DecimalLayout

/-- Writes a binary number, given the text of zero and that of a positive finite number. -/
def binaryText (zeroText : String) (positive : Nat → Int → String) (number : BinaryNumber) :
    String :=
  let signed (negative : Bool) (text : String) : String := if negative then "-" ++ text else text
  match number with
  | .undefined => "nan"
  | .infinite negative => signed negative "inf"
  | .finite negative significand exponent =>
      signed negative (if significand = 0 then zeroText else positive significand exponent)

/-- The fewest digits that read back as a number of a width, as messages show them. -/
def shortestTextOf (width : FloatWidth) (word : BitVec width.bits) : String :=
  binaryText messageLayout.zeroText
    (fun significand exponent => messageLayout.write (shortestDigits width significand exponent))
    (width.decode word)

/-- The fewest digits that read back as a double, as messages show them. -/
def shortestText (number : Float) : String := shortestTextOf .double number.toBits.toBitVec

def generalText (digitCount : Nat) (number : Float) : String :=
  let layout := reportLayout digitCount
  binaryText layout.zeroText
    (fun significand exponent =>
      let (digits, power) := (Ratio.ofBinary significand exponent).roundedDigits digitCount
      layout.write (.trimmed digitCount digits power)) (binaryParts number)

/-- One digit before the point, `places` after it, and an exponent. -/
def scientificText (places : Nat) (number : Float) : String :=
  let withExponent (digits : String) (lead : Int) : String :=
    leadingDigitText digits ++ exponentText lead
  binaryText (withExponent (zeros (places + 1)) 0)
    (fun significand exponent =>
      let (digits, power) := (Ratio.ofBinary significand exponent).roundedDigits (places + 1)
      withExponent (toString digits) (power + places)) (binaryParts number)

end FieldSurvey
