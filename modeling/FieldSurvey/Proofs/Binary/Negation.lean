import FieldSurvey.Proofs.Binary.Words

/-!
Numbers with the other sign. Turning over the sign bit of a word gives the word of the number with
the other sign, whatever the width, and a double with the other sign stands on the opposite side of
the order. An undefined number stays undefined.
-/

namespace FieldSurvey

open Float.Model Float.Model.UnpackedFloat

/-- The same word with the other sign; the word of an undefined number has a sign too. -/
def FloatWidth.negate (width : FloatWidth) (word : BitVec width.bits) : BitVec width.bits :=
  word ^^^ BitVec.ofNat _ (2 ^ (width.bits - 1))

def BinaryNumber.negated : BinaryNumber → BinaryNumber
  | undefined => undefined
  | infinite negative => infinite !negative
  | finite negative significand exponent => finite (!negative) significand exponent

section Words

variable (width : FloatWidth) (word : BitVec width.bits)

theorem toNat_signBit :
    (BitVec.ofNat width.bits (2 ^ (width.bits - 1))).toNat = 2 ^ (width.bits - 1) := by
  rw [BitVec.toNat_ofNat]
  refine Nat.mod_eq_of_lt (Nat.pow_lt_pow_right (by decide) ?_)
  cases width <;> decide

theorem magnitude_negate :
    (width.negate word).toNat % 2 ^ (width.bits - 1) = word.toNat % 2 ^ (width.bits - 1) := by
  unfold FloatWidth.negate
  rw [BitVec.toNat_xor, toNat_signBit, Nat.xor_mod_two_pow, Nat.mod_self, Nat.xor_zero]

theorem signBit_negate :
    (width.negate word).toNat / 2 ^ (width.bits - 1) = 1 - word.toNat / 2 ^ (width.bits - 1) := by
  have isBit : word.toNat / 2 ^ (width.bits - 1) < 2 := by
    refine Nat.div_lt_of_lt_mul (Nat.lt_of_lt_of_eq word.isLt ?_)
    cases width <;> decide
  unfold FloatWidth.negate
  rw [BitVec.toNat_xor, toNat_signBit, Nat.xor_div_two_pow, Nat.div_self (Nat.two_pow_pos _)]
  generalize word.toNat / 2 ^ (width.bits - 1) = bit at isBit
  decide +revert

theorem isNegative_negate :
    decide (2 ^ (width.bits - 1) ≤ (width.negate word).toNat) =
      !decide (2 ^ (width.bits - 1) ≤ word.toNat) := by
  have turned := signBit_negate width word
  have someBits : 0 < 2 ^ (width.bits - 1) := Nat.two_pow_pos _
  have isNegative (number : Nat) : 2 ^ (width.bits - 1) ≤ number ↔
      1 ≤ number / 2 ^ (width.bits - 1) := by
    rw [Nat.le_div_iff_mul_le someBits, Nat.one_mul]
  rw [← decide_not, decide_eq_decide, isNegative, isNegative, turned]
  omega

theorem decode_negate : width.decode (width.negate word) = (width.decode word).negated := by
  unfold FloatWidth.decode
  simp only [magnitude_negate, isNegative_negate]
  split
  · rfl
  split
  · rfl
  split <;> rfl

end Words

section Doubles

variable (stored : Double)

theorem Double.magnitude_negated :
    stored.negated.bits.toNat % 2 ^ 63 = stored.bits.toNat % 2 ^ 63 :=
  magnitude_negate .double stored.bits

theorem Double.signBit_negated :
    stored.negated.bits.toNat / 2 ^ 63 = 1 - stored.bits.toNat / 2 ^ 63 :=
  signBit_negate .double stored.bits

theorem Double.negated_negated : stored.negated.negated = stored := by
  unfold Double.negated
  rw [BitVec.xor_assoc, BitVec.xor_self, BitVec.xor_zero]

theorem Double.negated_ofNat {magnitude : Nat} (inRange : magnitude < 2 ^ 63) :
    Double.negated ⟨BitVec.ofNat 64 magnitude⟩ = ⟨BitVec.ofNat 64 (2 ^ 63 + magnitude)⟩ := by
  have sameMagnitude := magnitude_negated ⟨BitVec.ofNat 64 magnitude⟩
  have turned := signBit_negated ⟨BitVec.ofNat 64 magnitude⟩
  simp only [BitVec.toNat_ofNat] at sameMagnitude turned
  refine congrArg Double.mk (BitVec.eq_of_toNat_eq ?_)
  rw [BitVec.toNat_ofNat]
  change (Double.negated ⟨BitVec.ofNat 64 magnitude⟩).bits.toNat = _
  omega

/-- Storing a defined number with the other sign turns over the sign of what is stored. -/
theorem encode_negated {number : BinaryNumber} (isDefined : number ≠ .undefined) :
    Double.mk (FloatWidth.double.encode number.negated) =
      (Double.mk (FloatWidth.double.encode number)).negated := by
  have turned (negative : Bool) {magnitude : Nat} (inRange : magnitude < 2 ^ 63) :
      Double.mk (BitVec.ofNat 64 (if (!negative) = true then 2 ^ 63 + magnitude else magnitude)) =
        Double.negated
          ⟨BitVec.ofNat 64 (if negative = true then 2 ^ 63 + magnitude else magnitude)⟩ := by
    cases negative with
    | false => exact (Double.negated_ofNat inRange).symm
    | true => exact ((congrArg Double.negated (Double.negated_ofNat inRange)).symm.trans
        (Double.negated_negated _)).symm
  have limit : FloatWidth.double.infinityBits < 2 ^ 63 := by decide
  cases number with
  | undefined => exact absurd rfl isDefined
  | infinite negative => exact turned negative limit
  | finite negative significand exponent =>
      refine turned negative (Nat.lt_of_le_of_lt ?_ limit)
      unfold FloatWidth.magnitudeBits
      split
      · exact Nat.zero_le _
      · exact Nat.min_le_right _ _

theorem unpackMantissa_negated : @unpackMantissa Format.binary64 stored.negated.bits =
    @unpackMantissa Format.binary64 stored.bits := by
  have sameMagnitude := stored.magnitude_negated
  refine BitVec.eq_of_toNat_eq ?_
  rw [toNat_unpackMantissa, toNat_unpackMantissa]
  omega

theorem unpackExponent_negated : @unpackExponent Format.binary64 stored.negated.bits =
    @unpackExponent Format.binary64 stored.bits := by
  have sameMagnitude := stored.magnitude_negated
  refine BitVec.eq_of_toNat_eq ?_
  rw [toNat_unpackExponent, toNat_unpackExponent]
  omega

theorem sign_negated : Sign.ofBitVec (@unpackSign Format.binary64 stored.negated.bits) =
    -Sign.ofBitVec (@unpackSign Format.binary64 stored.bits) := by
  have turned := stored.signBit_negated
  have signBit := toNat_unpackSign stored.bits
  have otherBit := toNat_unpackSign stored.negated.bits
  have inWord := stored.bits.isLt
  unfold Sign.ofBitVec
  by_cases isZero : @unpackSign Format.binary64 stored.bits = 0#1
  · have isOne : ¬@unpackSign Format.binary64 stored.negated.bits = 0#1 := by
      intro alsoZero
      rw [isZero] at signBit
      rw [alsoZero] at otherBit
      change 0 = _ at signBit otherBit
      omega
    rw [if_pos isZero, if_neg isOne]
    rfl
  · have isOne : @unpackSign Format.binary64 stored.negated.bits = 0#1 := by
      refine BitVec.eq_of_toNat_eq ?_
      have notZero : (@unpackSign Format.binary64 stored.bits).toNat ≠ 0 :=
        fun same => isZero (BitVec.eq_of_toNat_eq same)
      change _ = 0
      omega
    rw [if_neg isZero, if_pos isOne]
    rfl

/-- A word whose sign bit is turned over unpacks to the number with the other sign. -/
theorem unpack_negated :
    UnpackedFloat.unpack Format.binary64 stored.negated.bits =
      (UnpackedFloat.unpack Format.binary64 stored.bits).neg := by
  have sameMantissa := unpackMantissa_negated stored
  have sameExponent := unpackExponent_negated stored
  have otherSign := sign_negated stored
  unfold UnpackedFloat.unpack
  dsimp only
  by_cases allOnes : @unpackExponent Format.binary64 stored.bits = -1#_
  · rw [if_pos allOnes, if_pos (sameExponent.trans allOnes)]
    by_cases isZero : @unpackMantissa Format.binary64 stored.bits = 0#_
    · rw [if_pos isZero, if_pos (sameMantissa.trans isZero), otherSign]
      rfl
    · rw [if_neg isZero, if_neg (sameMantissa ▸ isZero)]
      rfl
  rw [if_neg allOnes, if_neg (sameExponent ▸ allOnes)]
  by_cases isLow : @unpackExponent Format.binary64 stored.bits = 0#_
  · rw [if_pos isLow, if_pos (sameExponent.trans isLow)]
    by_cases isZero : @unpackMantissa Format.binary64 stored.bits = 0#_
    · rw [dif_pos isZero, dif_pos (sameMantissa.trans isZero), otherSign]
      rfl
    · rw [dif_neg isZero, dif_neg (sameMantissa ▸ isZero)]
      exact (finite.injEq ..).mpr ⟨otherSign, by rw [sameMantissa], by rw [sameExponent]⟩
  · rw [if_neg isLow, if_neg (sameExponent ▸ isLow)]
    exact (finite.injEq ..).mpr ⟨otherSign, by rw [sameMantissa], by rw [sameExponent]⟩

/-- Reading a word gives the double that it unpacks to. -/
theorem unpack_toFloat : stored.toFloat.toModel.unpack =
    UnpackedFloat.unpack Format.binary64 stored.bits := by
  show UnpackedFloat.unpack Format.binary64 (UnpackedFloat.pack Format.binary64
    (UnpackedFloat.unpack Format.binary64 stored.bits)) = _
  rcases Nat.lt_or_ge FloatWidth.double.infinityBits (stored.bits.toNat % 2 ^ 63) with
    isUndefined | isDefined
  · rw [unpack_notANumber isUndefined]
    exact unpack_notANumber (by decide +kernel)
  · rw [pack_unpack isDefined]

theorem Double.toFloat_negated : stored.negated.toFloat = -stored.toFloat := by
  show Float.ofModel (Float.Model.pack (UnpackedFloat.unpack Format.binary64 stored.negated.bits)) =
    Float.ofModel (Float.Model.pack stored.toFloat.toModel.unpack.neg)
  rw [unpack_negated, unpack_toFloat]

end Doubles

/-- A word whose sign bit is turned over reads as the number with the other sign. -/
theorem FloatWidth.toFloat_negate (width : FloatWidth) (word : BitVec width.bits) :
    width.toFloat (width.negate word) = -width.toFloat word := by
  have ofNumber (number : BinaryNumber) :
      (Double.mk (FloatWidth.double.encode number.negated)).toFloat =
        -(Double.mk (FloatWidth.double.encode number)).toFloat := by
    by_cases isUndefined : number = .undefined
    · rw [isUndefined]
      decide +kernel
    · rw [encode_negated isUndefined, Double.toFloat_negated]
  cases width with
  | half =>
      refine Eq.trans ?_ (ofNumber (FloatWidth.half.decode word))
      rw [← decode_negate]
      rfl
  | single =>
      refine Eq.trans ?_ (ofNumber (FloatWidth.single.decode word))
      rw [← decode_negate]
      rfl
  | double => exact Double.toFloat_negated ⟨word⟩

section Order

theorem orderRank?_neg (number : Float) :
    orderRank? (-number) = (orderRank? number).map fun rank => -rank := by
  cases hasRank : orderRank? number with
  | some rank => exact orderRank?_pack (hasRank_unpack hasRank).neg
  | none =>
      have isUndefined : FloatWidth.double.infinityBits <
          number.toModel.toBits.toBitVec.toNat % 2 ^ 63 := by
        unfold orderRank? at hasRank
        simp only at hasRank
        split at hasRank
        · assumption
        · split at hasRank <;> cases hasRank
      have unpacked : number.toModel.unpack = .notANumber := unpack_notANumber isUndefined
      show orderRank? (Float.ofModel (Float.Model.pack number.toModel.unpack.neg)) = _
      rw [unpacked]
      exact orderRank?_pack_notANumber

theorem isUndefined_neg (number : Float) :
    Scalar.isUndefined (-number) = Scalar.isUndefined number := by
  show (orderRank? (-number)).isNone = (orderRank? number).isNone
  rw [orderRank?_neg, Option.isNone_map]

/-- With the other signs the order is turned round. -/
theorem lt_neg (left right : Float) : Scalar.lt (-left) (-right) = Scalar.lt right left := by
  simp only [Scalar.lt, orderRank?_neg]
  cases orderRank? left with
  | none => cases orderRank? right <;> rfl
  | some low =>
      cases orderRank? right with
      | none => rfl
      | some high => exact decide_eq_decide.mpr Int.neg_lt_neg_iff

end Order

end FieldSurvey
