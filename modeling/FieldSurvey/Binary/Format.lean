/-!
Binary floating-point words of 16, 32 and 64 bits. A word decodes to a sign, a whole significand
and a power of two; rounding such a number back to a word goes to the nearest one, a half to the
even neighbour. Narrow words widen to doubles without loss, and doubles are ordered through the
whole number that their bits spell.
-/

-- Powers of whole numbers are the built-in ones, also where those of any monoid are in scope.
attribute [instance (1100), default_instance 10001] instPowNat

namespace FieldSurvey

/-- The widths of floating-point word that a column of numbers can store. -/
inductive FloatWidth where
  | half
  | single
  | double
  deriving DecidableEq, Repr, Inhabited

/-- What a floating-point word stands for: a finite one is its significand times a power of two. -/
inductive BinaryNumber where
  | undefined
  | infinite (negative : Bool)
  | finite (negative : Bool) (significand : Nat) (exponent : Int)
  deriving DecidableEq, Repr

namespace FloatWidth

def bits : FloatWidth → Nat
  | half => 16
  | single => 32
  | double => 64

def fractionBits : FloatWidth → Nat
  | half => 10
  | single => 23
  | double => 52

def exponentBits : FloatWidth → Nat
  | half => 5
  | single => 8
  | double => 11

/-- The exponent of the last place of the smallest numbers. -/
def leastExponent (width : FloatWidth) : Int :=
  2 - (2 : Int) ^ (width.exponentBits - 1) - width.fractionBits

/-- The magnitude bits of an infinity. -/
def infinityBits (width : FloatWidth) : Nat :=
  (2 ^ width.exponentBits - 1) * 2 ^ width.fractionBits

def decode (width : FloatWidth) (word : BitVec width.bits) : BinaryNumber :=
  let signPlace := 2 ^ (width.bits - 1)
  let negative := decide (signPlace ≤ word.toNat)
  let magnitude := word.toNat % signPlace
  let fraction := magnitude % 2 ^ width.fractionBits
  let biased := magnitude / 2 ^ width.fractionBits
  if magnitude = width.infinityBits then .infinite negative
  else if width.infinityBits < magnitude then .undefined
  else if biased = 0 then .finite negative fraction width.leastExponent
  else
    .finite negative (fraction + 2 ^ width.fractionBits) (width.leastExponent + (biased - 1 : Nat))

end FloatWidth

/-- The quotient rounded to the nearest whole number, a half to the even neighbour. -/
def divideToEven (numerator denominator : Nat) : Nat :=
  let quotient := numerator / denominator
  let remainder := numerator % denominator
  if denominator < 2 * remainder then quotient + 1
  else if 2 * remainder = denominator then quotient + quotient % 2
  else quotient

namespace FloatWidth

/-- The magnitude bits nearest to a significand times a power of two; past the largest finite
number they are those of an infinity. -/
def magnitudeBits (width : FloatWidth) (significand : Nat) (exponent : Int) : Nat :=
  if significand = 0 then 0
  else
    let lead := exponent + (Nat.log2 significand : Int)
    let place := max (lead - width.fractionBits) width.leastExponent
    let shift := place - exponent
    let scaled :=
      if shift ≤ 0 then significand * 2 ^ shift.natAbs
      else divideToEven significand (2 ^ shift.natAbs)
    min ((place - width.leastExponent).toNat * 2 ^ width.fractionBits + scaled) width.infinityBits

/-- Rounds a number to the nearest word; the undefined number is the quiet word without a sign. -/
def encode (width : FloatWidth) (number : BinaryNumber) : BitVec width.bits :=
  let signed (negative : Bool) (magnitude : Nat) : BitVec width.bits :=
    BitVec.ofNat _ (if negative then 2 ^ (width.bits - 1) + magnitude else magnitude)
  match number with
  | .undefined => signed false (width.infinityBits + 2 ^ (width.fractionBits - 1))
  | .infinite negative => signed negative width.infinityBits
  | .finite negative significand exponent =>
      signed negative (width.magnitudeBits significand exponent)

end FloatWidth

/-- A stored double keeps all its 64 bits, those of an undefined number included. -/
structure Double where
  bits : BitVec 64
  deriving DecidableEq, Repr, Inhabited

namespace Double

def toFloat (stored : Double) : Float := Float.ofBits (UInt64.ofBitVec stored.bits)

def ofFloat (number : Float) : Double := ⟨number.toBits.toBitVec⟩

/-- The same number with the other sign; an undefined number has a sign too. -/
def negated (stored : Double) : Double := ⟨stored.bits ^^^ BitVec.ofNat 64 (2 ^ 63)⟩

def undefined : Double := ⟨FloatWidth.double.encode .undefined⟩

end Double

def FloatWidth.toFloat : (width : FloatWidth) → BitVec width.bits → Float
  | .double, word => (Double.mk word).toFloat
  | .single, word => (Double.mk (FloatWidth.double.encode (FloatWidth.single.decode word))).toFloat
  | .half, word => (Double.mk (FloatWidth.double.encode (FloatWidth.half.decode word))).toFloat

def FloatWidth.ofFloat (width : FloatWidth) (number : Float) : BitVec width.bits :=
  width.encode (FloatWidth.double.decode number.toBits.toBitVec)

def binaryParts (number : Float) : BinaryNumber :=
  FloatWidth.double.decode number.toBits.toBitVec

/-- Where a double stands in the order of all doubles: both zeros stand at 0, an undefined number
stands nowhere. -/
def orderRank? (number : Float) : Option Int :=
  let word := number.toBits.toNat
  let magnitude := word % 2 ^ 63
  if FloatWidth.double.infinityBits < magnitude then none
  else if 2 ^ 63 ≤ word then some (-(magnitude : Int)) else some magnitude

/-- The whole part of a double, toward zero; a number without one has whole part 0. -/
def wholePart (number : Float) : Int :=
  match binaryParts number with
  | .finite negative significand exponent =>
      let size : Nat :=
        if 0 ≤ exponent then significand * 2 ^ exponent.natAbs
        else significand / 2 ^ exponent.natAbs
      if negative then -(size : Int) else size
  | _ => 0

end FieldSurvey
