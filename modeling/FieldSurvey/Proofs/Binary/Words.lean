import FieldSurvey.Proofs.Binary.Doubles

/-!
Doubles and the words that store them. Storing a double and reading it back gives the same one, be
it by its own bits or rounded to a word of 64 bits; there is one undefined double.
-/

namespace FieldSurvey

open Float.Model Float.Model.UnpackedFloat

section Unpacking

variable {word : BitVec 64}

theorem toNat_toBitVec_ofBitVec (bit : BitVec 1) : (Sign.ofBitVec bit).toBitVec = bit := by
  decide +revert

/-- All exponent bits of an undefined word are set, and some mantissa bit is. -/
theorem parts_of_isUndefined (isUndefined : FloatWidth.double.infinityBits < word.toNat % 2 ^ 63) :
    @unpackExponent Format.binary64 word = -1#_ ∧
      @unpackMantissa Format.binary64 word ≠ 0#_ := by
  have limit : FloatWidth.double.infinityBits = 2047 * 2 ^ 52 := rfl
  have inWord : word.toNat < 2 ^ 64 := word.isLt
  constructor
  · refine BitVec.eq_of_toNat_eq ((toNat_unpackExponent word).trans ?_)
    change _ = 2047
    omega
  · intro isZero
    have mantissa := toNat_unpackMantissa word
    rw [isZero] at mantissa
    change 0 = _ at mantissa
    omega

theorem unpack_notANumber (isUndefined : FloatWidth.double.infinityBits < word.toNat % 2 ^ 63) :
    UnpackedFloat.unpack Format.binary64 word = .notANumber := by
  obtain ⟨allOnes, notZero⟩ := parts_of_isUndefined isUndefined
  unfold UnpackedFloat.unpack
  dsimp only
  rw [if_pos allOnes, if_neg notZero]

/-- Packing what a word unpacks to gives the word, unless that is undefined. -/
theorem pack_unpack (isDefined : word.toNat % 2 ^ 63 ≤ FloatWidth.double.infinityBits) :
    UnpackedFloat.pack Format.binary64 (UnpackedFloat.unpack Format.binary64 word) = word := by
  have inWord : word.toNat < 2 ^ 64 := word.isLt
  refine BitVec.eq_of_toNat_eq ?_
  rw [toNat_pack (standsAt_unpack isDefined), toNat_toBitVec_ofBitVec, toNat_unpackSign,
    Nat.min_eq_left isDefined]
  omega

end Unpacking

/-- A double is what its bits stand for. -/
theorem ofBits_toBits (number : Float) : Float.ofBits number.toBits = number := by
  obtain ⟨⟨bits, valid⟩⟩ := number
  have packed : UnpackedFloat.pack Format.binary64
      (UnpackedFloat.unpack Format.binary64 bits.toBitVec) = bits.toBitVec := by
    rcases Nat.lt_or_ge FloatWidth.double.infinityBits (bits.toBitVec.toNat % 2 ^ 63) with
      isUndefined | isDefined
    · obtain ⟨allOnes, notZero⟩ := parts_of_isUndefined isUndefined
      rw [unpack_notANumber isUndefined]
      exact (valid.eq_packedNaN allOnes notZero).symm
    · exact pack_unpack isDefined
  show Float.ofModel (Float.Model.pack (UnpackedFloat.unpack Format.binary64 bits.toBitVec)) = _
  refine congrArg Float.ofModel ((Float.Model.mk.injEq _ _ _ _).mpr ?_)
  exact congrArg UInt64.ofBitVec packed

theorem Double.toFloat_ofFloat (number : Float) : (Double.ofFloat number).toFloat = number :=
  ofBits_toBits number

/-- The bits of a double's parts are those at its place. -/
theorem magnitudeBits_of_isFull {lift significand : Nat} (fits : significand < 2 ^ 53)
    (isFull : 2 ^ 52 ≤ significand ∨ lift = 0)
    (inRange : lift * 2 ^ 52 + significand < FloatWidth.double.infinityBits) :
    FloatWidth.double.magnitudeBits significand ((lift : Int) - 1074) =
      lift * 2 ^ 52 + significand := by
  unfold FloatWidth.magnitudeBits
  split
  · rename_i isZero
    omega
  · rename_i notZero
    have places : (2 ^ 52 ≤ significand → significand.log2 = 52) ∧ significand.log2 ≤ 52 := by
      have below := (Nat.log2_lt notZero).mpr fits
      refine ⟨fun isLong => ?_, by omega⟩
      have atLeast := (Nat.le_log2 notZero).mpr isLong
      omega
    have place : max ((lift : Int) - 1074 + (significand.log2 : Int) -
        (FloatWidth.double.fractionBits : Nat)) FloatWidth.double.leastExponent =
          (lift : Int) - 1074 := by
      show max ((lift : Int) - 1074 + (significand.log2 : Int) - (52 : Nat)) (-1074) = _
      omega
    have noShift : (lift : Int) - 1074 - ((lift : Int) - 1074) = 0 := by omega
    have lifted : ((lift : Int) - 1074 - FloatWidth.double.leastExponent).toNat = lift := by
      show ((lift : Int) - 1074 - (-1074)).toNat = lift
      omega
    simp only [place, noShift, lifted, le_refl, if_true, Int.natAbs_zero, pow_zero, mul_one]
    exact Nat.min_eq_left inRange.le

/-- A defined word is decoded without loss. -/
theorem encode_decode {word : BitVec 64}
    (isDefined : word.toNat % 2 ^ 63 ≤ FloatWidth.double.infinityBits) :
    FloatWidth.double.encode (FloatWidth.double.decode word) = word := by
  have limit : FloatWidth.double.infinityBits = 2047 * 2 ^ 52 := rfl
  have inWord : word.toNat < 2 ^ 64 := word.isLt
  -- The sign is set again on the bits of the magnitude.
  have signed : (if decide (2 ^ 63 ≤ word.toNat) = true then 2 ^ 63 + word.toNat % 2 ^ 63
      else word.toNat % 2 ^ 63) = word.toNat := by
    split
    · rename_i isNegative
      have := of_decide_eq_true isNegative
      omega
    · rename_i isPositive
      have : ¬2 ^ 63 ≤ word.toNat := fun isNegative => isPositive (decide_eq_true isNegative)
      omega
  refine BitVec.eq_of_toNat_eq ?_
  rcases Nat.lt_or_eq_of_le isDefined with isFinite | isInfinite
  · obtain ⟨lift, significand, isDecoded, isPlace, fits, isFull⟩ := exists_decode isFinite
    have magnitude := magnitudeBits_of_isFull fits isFull (isPlace ▸ isFinite)
    rw [isDecoded]
    show (BitVec.ofNat 64 (if decide (2 ^ 63 ≤ word.toNat) = true then
      2 ^ 63 + FloatWidth.double.magnitudeBits significand ((lift : Int) - 1074) else
      FloatWidth.double.magnitudeBits significand ((lift : Int) - 1074))).toNat = _
    rw [magnitude, ← isPlace, signed, BitVec.toNat_ofNat, Nat.mod_eq_of_lt inWord]
    rfl
  · have isDecoded : FloatWidth.double.decode word = .infinite (decide (2 ^ 63 ≤ word.toNat)) :=
      if_pos isInfinite
    rw [isDecoded]
    show (BitVec.ofNat 64 (if decide (2 ^ 63 ≤ word.toNat) = true then
      2 ^ 63 + FloatWidth.double.infinityBits else FloatWidth.double.infinityBits)).toNat = _
    rw [← isInfinite, signed, BitVec.toNat_ofNat, Nat.mod_eq_of_lt inWord]
    rfl

/-- A double rounded to a word of 64 bits stays the same. -/
theorem FloatWidth.toFloat_ofFloat (number : Float) :
    FloatWidth.double.toFloat (FloatWidth.double.ofFloat number) = number := by
  show (Double.mk (FloatWidth.double.encode
    (FloatWidth.double.decode number.toBits.toBitVec))).toFloat = number
  rcases Nat.lt_or_ge FloatWidth.double.infinityBits (number.toBits.toBitVec.toNat % 2 ^ 63) with
    isUndefined | isDefined
  · have isDecoded : FloatWidth.double.decode number.toBits.toBitVec = .undefined :=
      (if_neg isUndefined.ne').trans (if_pos isUndefined)
    obtain ⟨allOnes, notZero⟩ := parts_of_isUndefined isUndefined
    have isCanonical : number.toBits.toBitVec = packedNaN Format.binary64 :=
      number.toModel.valid.eq_packedNaN allOnes notZero
    have encoded : FloatWidth.double.encode .undefined = packedNaN Format.binary64 :=
      BitVec.eq_of_toNat_eq (by decide +kernel)
    rw [isDecoded, encoded, ← isCanonical]
    exact Double.toFloat_ofFloat number
  · rw [encode_decode isDefined]
    exact Double.toFloat_ofFloat number

end FieldSurvey
