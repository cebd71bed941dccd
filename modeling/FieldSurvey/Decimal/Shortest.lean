import FieldSurvey.Binary.Format

/-!
Decimal digits of a positive rational number: the digits of a fixed count, rounded to nearest, and
the fewest digits that read back as the same floating-point number of a width.
-/

namespace FieldSurvey

/-- A positive decimal number: `digits` scaled by a power of ten, the last digit not zero unless it
is the only one. -/
structure DecimalNumber where
  digits : Nat
  exponent : Int
  deriving DecidableEq, Repr

namespace DecimalNumber

def text (number : DecimalNumber) : String := toString number.digits

def lead (number : DecimalNumber) : Int := number.exponent + (number.text.length - 1 : Nat)

/-- Moves the zeros at the end of the digits into the exponent, at most as many as the budget. -/
def trimmed : Nat → Nat → Int → DecimalNumber
  | 0, digits, exponent => ⟨digits, exponent⟩
  | budget + 1, digits, exponent =>
      if digits % 10 = 0 ∧ digits ≠ 0 then trimmed budget (digits / 10) (exponent + 1)
      else ⟨digits, exponent⟩

end DecimalNumber

/-- A positive rational number as a pair of whole numbers. -/
structure Ratio where
  numerator : Nat
  denominator : Nat

namespace Ratio

def ofBinary (significand : Nat) (exponent : Int) : Ratio :=
  if 0 ≤ exponent then ⟨significand * 2 ^ exponent.natAbs, 1⟩
  else ⟨significand, 2 ^ exponent.natAbs⟩

def scaleDown (value : Ratio) (power : Int) : Ratio :=
  if 0 ≤ power then ⟨value.numerator, value.denominator * 10 ^ power.natAbs⟩
  else ⟨value.numerator * 10 ^ power.natAbs, value.denominator⟩

def le (left right : Ratio) : Bool :=
  decide (left.numerator * right.denominator ≤ right.numerator * left.denominator)

def lt (left right : Ratio) : Bool :=
  decide (left.numerator * right.denominator < right.numerator * left.denominator)

/-- The power of ten of the leading digit: an estimate from the binary length, set right by one. -/
def lead (value : Ratio) : Int :=
  let binaryLead : Int := (Nat.log2 value.numerator : Int) - (Nat.log2 value.denominator : Int)
  let estimate : Int := Int.fdiv (binaryLead * 30103) 100000
  let one : Ratio := ⟨1, 1⟩
  let atLeast (power : Int) : Bool := one.le (value.scaleDown power)
  if atLeast (estimate + 1) then
    (if atLeast (estimate + 2) then estimate + 2 else estimate + 1)
  else if atLeast estimate then estimate
  else if atLeast (estimate - 1) then estimate - 1
  else estimate - 2

/-- The nearest decimal number of `count` digits, a half to the even neighbour; the first component
holds exactly `count` digits. -/
def roundedDigits (value : Ratio) (count : Nat) : Nat × Int :=
  let power := value.lead - (count - 1 : Nat)
  let scaled := value.scaleDown power
  let digits := divideToEven scaled.numerator scaled.denominator
  if digits = 10 ^ count then (10 ^ (count - 1), power + 1) else (digits, power)

end Ratio

/-- The reals that round to a given floating-point number, as an interval with or without its ends.
-/
structure ReadingInterval where
  low : Ratio
  high : Ratio
  closed : Bool

namespace ReadingInterval

/-- Half a unit in the last place on both sides; below a power of two the unit is half as wide. -/
def ofBinary (width : FloatWidth) (significand : Nat) (exponent : Int) : ReadingInterval :=
  let halvedBelow :=
    decide (significand = 2 ^ width.fractionBits) && decide (width.leastExponent < exponent)
  { low := Ratio.ofBinary (4 * significand - (if halvedBelow then 1 else 2)) (exponent - 2)
    high := Ratio.ofBinary (4 * significand + 2) (exponent - 2)
    closed := significand % 2 == 0 }

def contains (interval : ReadingInterval) (value : Ratio) : Bool :=
  if interval.closed then interval.low.le value && value.le interval.high
  else interval.low.lt value && value.lt interval.high

end ReadingInterval

/-- The nearer of the two grid neighbours of a value among those that read back, if any does. -/
def gridHit (interval : ReadingInterval) (value : Ratio) (power : Int) : Option Nat :=
  let scaled := value.scaleDown power
  let below := scaled.numerator / scaled.denominator
  let nearest := divideToEven scaled.numerator scaled.denominator
  let readsBack (digits : Nat) : Bool :=
    decide (0 < digits) && interval.contains ((Ratio.mk digits 1).scaleDown (-power))
  let other := if nearest = below then below + 1 else below
  if readsBack nearest then some nearest
  else if readsBack other then some other
  else none

def searchGrids (interval : ReadingInterval) (value : Ratio) (lead : Int) :
    Nat → Nat → DecimalNumber
  | 0, count =>
      let power := lead - (count - 1 : Nat)
      let scaled := value.scaleDown power
      .trimmed (count + 1) (divideToEven scaled.numerator scaled.denominator) power
  | budget + 1, count =>
      let power := lead - (count - 1 : Nat)
      match gridHit interval value power with
      | some digits => .trimmed (count + 1) digits power
      | none => searchGrids interval value lead budget (count + 1)

/-- The fewest digits that read back as the number `significand · 2 ^ exponent` of a width, of those
the nearest; seventeen are always enough. -/
def shortestDigits (width : FloatWidth) (significand : Nat) (exponent : Int) : DecimalNumber :=
  let value := Ratio.ofBinary significand exponent
  searchGrids (.ofBinary width significand exponent) value value.lead 16 1

end FieldSurvey
