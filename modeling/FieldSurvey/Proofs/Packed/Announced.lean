import Mathlib.Tactic.NormNum
import Mathlib.Tactic.Positivity
import FieldSurvey.Packed.Reader
import FieldSurvey.Packed.Writer
import FieldSurvey.Proofs.Outcome

/-!
What the head of a packed value announces to the reader: each kind of head, in each of its lengths,
leads to the reader of its kind with the size that was written.
-/

namespace FieldSurvey

section Numbers

theorem takeNumber_bigEndian (count number : Nat) (rest : Bytes) :
    takeNumber count (bigEndian count number ++ rest) = .ok (number % 256 ^ count, rest) := by
  have taken := takeBytes_append (bigEndian count number) rest
  rw [length_bigEndian] at taken
  unfold takeNumber
  rw [taken, ok_bind]
  simp only [fromBigEndian_bigEndian, pure_eq_ok]

theorem takeNumber_of_lt {count number : Nat} (fits : number < 256 ^ count) (rest : Bytes) :
    takeNumber count (bigEndian count number ++ rest) = .ok (number, rest) := by
  rw [takeNumber_bigEndian, Nat.mod_eq_of_lt fits]

theorem takeSized_bigEndian {width size : Nat} (fits : size < 256 ^ width)
    (take : Nat → Bytes → Except Error (Value × Bytes)) (rest : Bytes) :
    takeSized width take (bigEndian width size ++ rest) = take size rest := by
  unfold takeSized
  rw [takeNumber_of_lt fits, ok_bind]

theorem takeUnsignedWhole_bigEndian {width : Nat} {number : Int} (atLeast : 0 ≤ number)
    (fits : number < 256 ^ width) (rest : Bytes) :
    takeUnsignedWhole width (bigEndian width (number % (256 : Int) ^ width).toNat ++ rest) =
      .ok (.whole number, rest) := by
  have same : number % (256 : Int) ^ width = number := Int.emod_eq_of_lt atLeast fits
  have small : number.toNat < 256 ^ width := by
    rw [Int.toNat_lt atLeast]
    exact_mod_cast fits
  unfold takeUnsignedWhole
  rw [same, takeNumber_of_lt small, ok_bind]
  simp only [pure_eq_ok, Int.toNat_of_nonneg atLeast]

theorem takeSignedWhole_bigEndian {width : Nat} {number : Int}
    (atLeast : -(256 ^ width) ≤ 2 * number) (fits : 2 * number < 256 ^ width) (rest : Bytes) :
    takeSignedWhole width (bigEndian width (number % (256 : Int) ^ width).toNat ++ rest) =
      .ok (.whole number, rest) := by
  have positive : (0 : Int) < 256 ^ width := by positivity
  have least : 0 ≤ number % (256 : Int) ^ width := Int.emod_nonneg number (by omega)
  have most : number % (256 : Int) ^ width < 256 ^ width := Int.emod_lt_of_pos number positive
  have small : (number % (256 : Int) ^ width).toNat < 256 ^ width := by
    rw [Int.toNat_lt least]
    exact_mod_cast most
  have bound : ((2 ^ (8 * width) : Nat) : Int) = 256 ^ width := by
    rw [Nat.pow_mul]
    push_cast
    norm_num
  have back : Int.bmod ((number % (256 : Int) ^ width).toNat : Int) (2 ^ (8 * width)) = number := by
    rw [Int.toNat_of_nonneg least, ← bound, Int.emod_bmod]
    apply Int.bmod_eq_of_le_mul_two
    · rw [bound]
      omega
    · rw [bound]
      omega
  unfold takeSignedWhole takeSigned
  rw [takeNumber_of_lt small]
  simp only [ok_bind, pure_eq_ok]
  rw [back]

end Numbers

section Heads

variable {total depth : Nat} {take : Bytes → Except Error (Value × Bytes)}

theorem toNat_mark {mark size : Nat} (fits : mark + size < 256) :
    (UInt8.ofNat (mark + size)).toNat = mark + size := by
  rw [UInt8.toNat_ofNat', Nat.mod_eq_of_lt fits]

theorem takeAnnounced_whole {number : Nat} (small : number < 2 ^ 7) (rest : Bytes) :
    takeAnnounced total depth take number rest = .ok (.whole number, rest) := by
  exact if_pos (by omega)

theorem takeAnnounced_map {size : Nat} (short : size < 2 ^ 4) (rest : Bytes) :
    takeAnnounced total depth take (0x80 + size) rest = takeMap total depth take size rest := by
  have same : 0x80 + size - 0x80 = size := by omega
  refine (if_neg (by omega)).trans ((if_pos (by omega)).trans ?_)
  rw [same]

theorem takeAnnounced_list {size : Nat} (short : size < 2 ^ 4) (rest : Bytes) :
    takeAnnounced total depth take (0x90 + size) rest = takeList total depth take size rest := by
  have same : 0x90 + size - 0x90 = size := by omega
  refine (if_neg (by omega)).trans ((if_neg (by omega)).trans ((if_pos (by omega)).trans ?_))
  rw [same]

theorem takeAnnounced_text {size : Nat} (short : size < 2 ^ 5) (rest : Bytes) :
    takeAnnounced total depth take (0xa0 + size) rest = takeText size rest := by
  have same : 0xa0 + size - 0xa0 = size := by omega
  refine (if_neg (by omega)).trans ((if_neg (by omega)).trans ((if_neg (by omega)).trans
    ((if_pos (by omega)).trans ?_)))
  rw [same]

theorem takeAnnounced_negative {number : Int} (least : -(2 ^ 5) ≤ number) (negative : number < 0)
    (rest : Bytes) :
    takeAnnounced total depth take (number % 256).toNat rest = .ok (.whole number, rest) := by
  obtain ⟨kind, isKind⟩ : ∃ kind : Nat, (number % 256).toNat = kind := ⟨_, rfl⟩
  have high : 0xe0 ≤ kind := by omega
  have back : (kind : Int) - 0x100 = number := by omega
  rw [isKind]
  unfold takeAnnounced
  repeat rw [if_neg (by omega)]
  rw [back]
  rfl

theorem takeValue_textHead {size : Nat} (fits : size < 2 ^ 32) (rest : Bytes) :
    takeValue total (depth + 1) (textHead size ++ rest) = takeText size rest := by
  unfold textHead
  split
  · rename_i short
    have announced := @takeAnnounced_text total depth (takeValue total depth) size short rest
    rw [← toNat_mark (by omega)] at announced
    exact announced
  · split
    · exact takeSized_bigEndian (by omega) takeText rest
    · split
      · exact takeSized_bigEndian (by omega) takeText rest
      · exact takeSized_bigEndian (by omega) takeText rest

theorem takeValue_bytesHead {size : Nat} (fits : size < 2 ^ 32) (rest : Bytes) :
    takeValue total (depth + 1) (bytesHead size ++ rest) = takeContent size rest := by
  unfold bytesHead
  split
  · exact takeSized_bigEndian (by omega) takeContent rest
  · split
    · exact takeSized_bigEndian (by omega) takeContent rest
    · exact takeSized_bigEndian (by omega) takeContent rest

theorem takeValue_listHead {size : Nat} (fits : size < 2 ^ 32) (rest : Bytes) :
    takeValue total (depth + 1) (listHead size ++ rest) =
      takeList total depth (takeValue total depth) size rest := by
  unfold listHead
  split
  · rename_i short
    have announced := @takeAnnounced_list total depth (takeValue total depth) size short rest
    rw [← toNat_mark (by omega)] at announced
    exact announced
  · split
    · exact takeSized_bigEndian (by omega) (takeList total depth (takeValue total depth)) rest
    · exact takeSized_bigEndian (by omega) (takeList total depth (takeValue total depth)) rest

theorem takeValue_mapHead {size : Nat} (fits : size < 2 ^ 32) (rest : Bytes) :
    takeValue total (depth + 1) (mapHead size ++ rest) =
      takeMap total depth (takeValue total depth) size rest := by
  unfold mapHead
  split
  · rename_i short
    have announced := @takeAnnounced_map total depth (takeValue total depth) size short rest
    rw [← toNat_mark (by omega)] at announced
    exact announced
  · split
    · exact takeSized_bigEndian (by omega) (takeMap total depth (takeValue total depth)) rest
    · exact takeSized_bigEndian (by omega) (takeMap total depth (takeValue total depth)) rest

/-- A whole number that has been written is read back, whatever its form. -/
theorem takeValue_whole {number : Int} {bytes : Bytes} (packed : packWhole number = .ok bytes)
    (rest : Bytes) :
    takeValue total (depth + 1) (bytes ++ rest) = .ok (.whole number, rest) := by
  have single (number : Nat) : (UInt8.ofNat (number % 256)).toNat = number % 256 := by
    rw [UInt8.toNat_ofNat', Nat.mod_eq_of_lt (Nat.mod_lt _ (by decide))]
  unfold packWhole at packed
  split at packed
  · rename_i atLeast
    split at packed
    · rename_i small
      cases packed
      change takeAnnounced total depth (takeValue total depth)
        (UInt8.ofNat (number.toNat % 256)).toNat rest = _
      rw [single, Nat.mod_eq_of_lt (by omega), takeAnnounced_whole (by omega),
        Int.toNat_of_nonneg atLeast]
    · split at packed
      · cases packed
        exact takeUnsignedWhole_bigEndian atLeast (by omega) rest
      · split at packed
        · cases packed
          exact takeUnsignedWhole_bigEndian atLeast (by omega) rest
        · split at packed
          · cases packed
            exact takeUnsignedWhole_bigEndian atLeast (by omega) rest
          · split at packed
            · cases packed
              exact takeUnsignedWhole_bigEndian atLeast (by omega) rest
            · cases packed
  · rename_i negative
    split at packed
    · rename_i least
      cases packed
      change takeAnnounced total depth (takeValue total depth)
        (UInt8.ofNat ((number % 256).toNat % 256)).toNat rest = _
      rw [single, Nat.mod_eq_of_lt (by omega), takeAnnounced_negative least (by omega)]
    · split at packed
      · cases packed
        exact takeSignedWhole_bigEndian (by omega) (by omega) rest
      · split at packed
        · cases packed
          exact takeSignedWhole_bigEndian (by omega) (by omega) rest
        · split at packed
          · cases packed
            exact takeSignedWhole_bigEndian (by omega) (by omega) rest
          · split at packed
            · cases packed
              exact takeSignedWhole_bigEndian (by omega) (by omega) rest
            · cases packed

end Heads

end FieldSurvey
