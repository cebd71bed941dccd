import FieldSurvey.Proofs.Binary.Rounding

/-!
The place of a double and its unpacked form. Unpacking a double gives what stands at the place that
its bits spell, and packing what stands at a place gives the double there, or an infinity if the
place lies past all doubles.
-/

namespace FieldSurvey

open Float.Model Float.Model.UnpackedFloat

/-- The unpacked number has a rank, which it has as a double too. -/
def HasRank (number : UnpackedFloat) (rank : Int) : Prop :=
  ∃ sign place, StandsAt sign number place ∧
    rank = sign.apply (min place FloatWidth.double.infinityBits : Nat)

section Words

theorem toNat_packComponents (sign : Sign) (exponent : BitVec 11) (mantissa : BitVec 52) :
    (packComponents Format.binary64 sign exponent mantissa).toNat =
      sign.toBitVec.toNat * 2 ^ 63 + (exponent.toNat * 2 ^ 52 + mantissa.toNat) := by
  unfold packComponents
  rw [BitVec.toNat_append, BitVec.toNat_append, ← Nat.shiftLeft_add_eq_or_of_lt exponent.isLt,
    ← Nat.shiftLeft_add_eq_or_of_lt mantissa.isLt, Nat.shiftLeft_eq, Nat.shiftLeft_eq]
  omega

theorem toNat_unpackMantissa (word : BitVec 64) :
    (@unpackMantissa Format.binary64 word).toNat = word.toNat % 2 ^ 52 := by
  unfold unpackMantissa
  rw [BitVec.toNat_cast, BitVec.extractLsb_toNat, Nat.shiftRight_zero]
  rfl

theorem toNat_unpackExponent (word : BitVec 64) :
    (@unpackExponent Format.binary64 word).toNat = word.toNat / 2 ^ 52 % 2 ^ 11 := by
  unfold unpackExponent
  rw [BitVec.toNat_cast, BitVec.extractLsb_toNat, Nat.shiftRight_eq_div_pow]
  rfl

theorem toNat_unpackSign (word : BitVec 64) :
    (@unpackSign Format.binary64 word).toNat = word.toNat / 2 ^ 63 % 2 := by
  unfold unpackSign
  rw [BitVec.toNat_cast, BitVec.extractLsb_toNat, Nat.shiftRight_eq_div_pow]
  rfl

/-- A double whose bits are a sign and a place up to that of an infinity. -/
theorem orderRank?_of_toNat {number : Float} {sign : Sign} {place : Nat}
    (bits : number.toBits.toNat = sign.toBitVec.toNat * 2 ^ 63 + place)
    (inRange : place ≤ FloatWidth.double.infinityBits) :
    orderRank? number = some (sign.apply place) := by
  have limit : FloatWidth.double.infinityBits = 2047 * 2 ^ 52 := rfl
  unfold orderRank?
  simp only [bits]
  cases sign with
  | positive =>
      have noSign : Sign.positive.toBitVec.toNat = 0 := rfl
      rw [noSign, if_neg (by omega), if_neg (by omega)]
      congr 1
      show ((_ % 2 ^ 63 : Nat) : Int) = place
      omega
  | negative =>
      have signBit : Sign.negative.toBitVec.toNat = 1 := rfl
      rw [signBit, if_neg (by omega), if_pos (by omega)]
      congr 1
      show -((_ % 2 ^ 63 : Nat) : Int) = -place
      omega

end Words

/-- Packing what stands at a place. -/
theorem toNat_pack {sign : Sign} {number : UnpackedFloat} {place : Nat}
    (stands : StandsAt sign number place) :
    (UnpackedFloat.pack Format.binary64 number).toNat =
      sign.toBitVec.toNat * 2 ^ 63 + min place FloatWidth.double.infinityBits := by
  have limit : FloatWidth.double.infinityBits = 2047 * 2 ^ 52 := rfl
  cases stands with
  | infinity =>
      have isPacked := toNat_packComponents sign (-1#_) 0
      exact isPacked
  | zero =>
      have isPacked := toNat_packComponents sign 0 0
      exact isPacked
  | finite lift significand isPositive fits isFull =>
      have biased : ((lift : Int) - 1074 + (Format.binary64.exponentBias : Nat) + (52 : Nat)).toNat =
          lift + 1 := by
        have bias : (Format.binary64.exponentBias : Int) = 1023 := rfl
        omega
      unfold UnpackedFloat.pack
      simp only [biased]
      split
      · rename_i isBeyond
        have isBeyond : 2048 ≤ lift + 1 + 1 := isBeyond
        have isPacked := toNat_packComponents sign (-1#_) 0
        have atLimit : min (lift * 2 ^ 52 + significand) FloatWidth.double.infinityBits =
            FloatWidth.double.infinityBits := by omega
        rw [atLimit]
        exact isPacked
      · rename_i notBeyond
        have inRange : lift + 2 < 2048 := Nat.lt_of_not_le notBeyond
        have belowLimit : min (lift * 2 ^ 52 + significand) FloatWidth.double.infinityBits =
            lift * 2 ^ 52 + significand := by omega
        rw [belowLimit]
        split
        · rename_i isNormal
          have isNormal : significand.log2 + 1 = 53 := isNormal
          have isLong : 2 ^ 52 ≤ significand :=
            (Nat.le_log2 isPositive.ne').mp (by omega)
          refine (toNat_packComponents sign _ _).trans ?_
          rw [BitVec.toNat_ofNat, BitVec.toNat_ofNat]
          omega
        · rename_i notNormal
          have notNormal : ¬significand.log2 + 1 = 53 := notNormal
          have isShort : significand < 2 ^ 52 := by
            by_contra isLong
            have atLeast := (Nat.le_log2 isPositive.ne').mpr (Nat.le_of_not_lt isLong)
            have below := (Nat.log2_lt isPositive.ne').mpr fits
            omega
          refine (toNat_packComponents sign _ _).trans ?_
          rw [BitVec.toNat_ofNat]
          show sign.toBitVec.toNat * 2 ^ 63 + (0 * 2 ^ 52 + significand % 2 ^ 52) = _
          omega

/-- The double packed from what has a rank has that rank. -/
theorem orderRank?_pack {number : UnpackedFloat} {rank : Int} (hasRank : HasRank number rank) :
    orderRank? (Float.ofModel (Float.Model.pack number)) = some rank := by
  obtain ⟨sign, place, stands, rfl⟩ := hasRank
  exact orderRank?_of_toNat (toNat_pack stands) (Nat.min_le_right _ _)

/-- A packed undefined number is undefined. -/
theorem orderRank?_pack_notANumber :
    orderRank? (Float.ofModel (Float.Model.pack .notANumber)) = none := by
  decide +kernel

section Unpacking

variable {word : BitVec 64}

/-- The place that the bits of a word spell is that of what it unpacks to. -/
theorem standsAt_unpack (isDefined : word.toNat % 2 ^ 63 ≤ FloatWidth.double.infinityBits) :
    StandsAt (Sign.ofBitVec (@unpackSign Format.binary64 word))
      (UnpackedFloat.unpack Format.binary64 word) (word.toNat % 2 ^ 63) := by
  have limit : FloatWidth.double.infinityBits = 2047 * 2 ^ 52 := rfl
  have mantissaBits := toNat_unpackMantissa word
  have exponentBits := toNat_unpackExponent word
  have bias : ((Format.binary64.exponentBias : Nat) : Int) + ((52 : Nat) : Int) = 1075 := rfl
  unfold UnpackedFloat.unpack
  dsimp only
  by_cases allOnes : @unpackExponent Format.binary64 word = -1#_
  · have exponent : (@unpackExponent Format.binary64 word).toNat = 2047 :=
      congrArg BitVec.toNat allOnes
    have isZero : @unpackMantissa Format.binary64 word = 0#_ := by
      refine BitVec.eq_of_toNat_eq (mantissaBits.trans ?_)
      change _ = 0
      omega
    have isPlace : word.toNat % 2 ^ 63 = FloatWidth.double.infinityBits := by omega
    rw [if_pos allOnes, if_pos isZero, isPlace]
    exact .infinity
  rw [if_neg allOnes]
  have notAllOnes : (@unpackExponent Format.binary64 word).toNat ≠ 2047 :=
    fun same => allOnes (BitVec.eq_of_toNat_eq same)
  by_cases isLow : @unpackExponent Format.binary64 word = 0#_
  · have exponent : (@unpackExponent Format.binary64 word).toNat = 0 := congrArg BitVec.toNat isLow
    rw [if_pos isLow]
    by_cases isZero : @unpackMantissa Format.binary64 word = 0#_
    · have mantissa : (@unpackMantissa Format.binary64 word).toNat = 0 :=
        congrArg BitVec.toNat isZero
      have isPlace : word.toNat % 2 ^ 63 = 0 := by omega
      rw [dif_pos isZero, isPlace]
      exact .zero
    · rw [dif_neg isZero]
      exact .of_exponent _ 0 (by omega) (by omega) (by omega) (.inr rfl)
  · have notLow : (@unpackExponent Format.binary64 word).toNat ≠ 0 :=
      fun same => isLow (BitVec.eq_of_toNat_eq same)
    have whole : (1#1 ++ @unpackMantissa Format.binary64 word).toNat =
        2 ^ 52 + (@unpackMantissa Format.binary64 word).toNat := by
      rw [BitVec.toNat_append, ← Nat.shiftLeft_add_eq_or_of_lt (BitVec.isLt _)]
      rfl
    obtain ⟨lift, isLift⟩ : ∃ lift : Nat,
        (@unpackExponent Format.binary64 word).toNat = lift + 1 :=
      ⟨(@unpackExponent Format.binary64 word).toNat - 1, by omega⟩
    rw [if_neg isLow]
    exact .of_exponent _ lift (by omega) (by omega) (by omega) (.inl (by omega))

theorem unpack_of_infinityBits (isInfinite : word.toNat % 2 ^ 63 = FloatWidth.double.infinityBits) :
    UnpackedFloat.unpack Format.binary64 word =
      .infinity (Sign.ofBitVec (@unpackSign Format.binary64 word)) := by
  have limit : FloatWidth.double.infinityBits = 2047 * 2 ^ 52 := rfl
  have allOnes : @unpackExponent Format.binary64 word = -1#_ := by
    refine BitVec.eq_of_toNat_eq ((toNat_unpackExponent word).trans ?_)
    change _ = 2047
    omega
  have isZero : @unpackMantissa Format.binary64 word = 0#_ := by
    refine BitVec.eq_of_toNat_eq ((toNat_unpackMantissa word).trans ?_)
    change _ = 0
    omega
  unfold UnpackedFloat.unpack
  dsimp only
  rw [if_pos allOnes, if_pos isZero]

/-- The sign and the place that the bits of a double with a rank spell. -/
theorem exists_place {number : Float} {rank : Int} (hasRank : orderRank? number = some rank) :
    number.toModel.toBits.toBitVec.toNat % 2 ^ 63 ≤ FloatWidth.double.infinityBits ∧
      rank = (Sign.ofBitVec (@unpackSign Format.binary64
        number.toModel.toBits.toBitVec)).apply
          (number.toModel.toBits.toBitVec.toNat % 2 ^ 63 : Nat) := by
  generalize isWord : number.toModel.toBits.toBitVec = word
  have bits : number.toBits.toNat = word.toNat := congrArg BitVec.toNat isWord
  have signBit := toNat_unpackSign word
  have inWord : word.toNat < 2 ^ 64 := word.isLt
  unfold orderRank? at hasRank
  simp only [bits] at hasRank
  split at hasRank
  · cases hasRank
  rename_i isDefined
  refine ⟨Nat.le_of_not_lt isDefined, ?_⟩
  split at hasRank
  · cases hasRank
    have isNegative : @unpackSign Format.binary64 word ≠ 0#1 := by
      intro isZero
      rw [isZero] at signBit
      change 0 = _ at signBit
      omega
    unfold Sign.ofBitVec
    rw [if_neg isNegative]
    rfl
  · cases hasRank
    have isPositive : @unpackSign Format.binary64 word = 0#1 := by
      refine BitVec.eq_of_toNat_eq (signBit.trans ?_)
      change _ = 0
      omega
    unfold Sign.ofBitVec
    rw [if_pos isPositive]
    rfl

/-- A double that has a rank has it in unpacked form too. -/
theorem hasRank_unpack {number : Float} {rank : Int} (hasRank : orderRank? number = some rank) :
    HasRank number.toModel.unpack rank := by
  obtain ⟨inRange, rfl⟩ := exists_place hasRank
  refine ⟨_, _, standsAt_unpack inRange, ?_⟩
  rw [Nat.min_eq_left inRange]

theorem rank_le {number : Float} {rank : Int} (hasRank : orderRank? number = some rank) :
    rank.natAbs ≤ FloatWidth.double.infinityBits := by
  obtain ⟨inRange, rfl⟩ := exists_place hasRank
  generalize Sign.ofBitVec _ = sign
  cases sign with
  | negative => exact (Int.natAbs_neg _).trans_le inRange
  | positive => exact inRange

/-- A double whose rank is that of an infinity unpacks to one. -/
theorem unpack_of_infinite {number : Float} {rank : Int} (hasRank : orderRank? number = some rank)
    (isInfinite : rank.natAbs = FloatWidth.double.infinityBits) :
    ∃ sign : Sign, number.toModel.unpack = .infinity sign ∧
      rank = sign.apply (FloatWidth.double.infinityBits : Int) := by
  obtain ⟨_, rfl⟩ := exists_place hasRank
  have isPlace : number.toModel.toBits.toBitVec.toNat % 2 ^ 63 = FloatWidth.double.infinityBits := by
    generalize Sign.ofBitVec _ = sign at isInfinite
    cases sign with
    | negative => exact (Int.natAbs_neg _).symm.trans isInfinite
    | positive => exact isInfinite
  exact ⟨_, unpack_of_infinityBits isPlace, by rw [isPlace]⟩

end Unpacking

end FieldSurvey
