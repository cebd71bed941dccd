import FieldSurvey.Binary.Format

/-!
Division of doubles with a whole quotient. The remainder of two doubles is exact, so it is worked
out on their significands; the quotient that is rounded down follows from it.
-/

namespace FieldSurvey

/-- The remainder of the division that rounds toward zero. It has the sign of the dividend. -/
def truncatedRemainder (dividend divisor : Float) : Float :=
  match binaryParts dividend, binaryParts divisor with
  | .finite negative significand exponent, .finite _ modulus otherExponent =>
      if modulus = 0 then Double.undefined.toFloat
      else
        let lowest := min exponent otherExponent
        let scaled := significand * 2 ^ (exponent - lowest).toNat
        let remainder := scaled % (modulus * 2 ^ (otherExponent - lowest).toNat)
        (Double.mk (FloatWidth.double.encode (.finite negative remainder lowest))).toFloat
  | .finite _ _ _, .infinite _ => dividend
  | _, _ => Double.undefined.toFloat

def signedZero (number : Float) : Float :=
  (Double.mk (number.toBits.toBitVec &&& BitVec.ofNat 64 (2 ^ 63))).toFloat

/-- Quotient and remainder of the division that rounds down. The remainder has the sign of the
divisor; by zero there is no whole quotient, and the plain one stands in its place. -/
def flooredDivision (dividend divisor : Float) : Float × Float :=
  let truncated := truncatedRemainder dividend divisor
  if divisor == 0.0 then (dividend / divisor, truncated)
  else
    let quotient := (dividend - truncated) / divisor
    let isZero := truncated == 0.0
    let isAcross := !isZero && (divisor < 0.0) != (truncated < 0.0)
    let remainder :=
      if isZero then signedZero divisor else if isAcross then truncated + divisor else truncated
    let quotient := if isAcross then quotient - 1.0 else quotient
    let floored :=
      if quotient == 0.0 then signedZero (dividend / divisor)
      else
        let below := quotient.floor
        if 0.5 < quotient - below then below + 1.0 else below
    (floored, remainder)

end FieldSurvey
