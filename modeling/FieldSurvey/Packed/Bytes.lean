import FieldSurvey.Error

/-!
Whole numbers as bytes, from either end, and taking a fixed number of bytes off the front.
-/

namespace FieldSurvey

abbrev Bytes := List UInt8

def littleEndian : Nat → Nat → Bytes
  | 0, _ => []
  | count + 1, number => UInt8.ofNat (number % 256) :: littleEndian count (number / 256)

def fromLittleEndian : Bytes → Nat
  | [] => 0
  | byte :: rest => byte.toNat + 256 * fromLittleEndian rest

def bigEndian (count number : Nat) : Bytes := (littleEndian count number).reverse

def fromBigEndian (bytes : Bytes) : Nat := fromLittleEndian bytes.reverse

/-- The first `count` bytes and the rest; there have to be that many. -/
def takeBytes : Nat → Bytes → Except Error (Bytes × Bytes)
  | 0, bytes => .ok ([], bytes)
  | _ + 1, [] => .error .badValue
  | count + 1, byte :: rest =>
      match takeBytes count rest with
      | .ok (taken, remaining) => .ok (byte :: taken, remaining)
      | .error cause => .error cause

def groupsOf (size : Nat) : Nat → Bytes → List Bytes
  | 0, _ => []
  | count + 1, bytes => bytes.take size :: groupsOf size count (bytes.drop size)

@[simp] theorem length_littleEndian (count number : Nat) :
    (littleEndian count number).length = count := by
  induction count generalizing number with
  | zero => rfl
  | succ count inductionHypothesis => simp [littleEndian, inductionHypothesis]

@[simp] theorem length_bigEndian (count number : Nat) :
    (bigEndian count number).length = count := by
  simp [bigEndian]

/-- Bytes written from the lowest on spell the number, as far as they hold it. -/
theorem fromLittleEndian_littleEndian (count number : Nat) :
    fromLittleEndian (littleEndian count number) = number % 256 ^ count := by
  induction count generalizing number with
  | zero => simp [littleEndian, fromLittleEndian, Nat.mod_one]
  | succ count inductionHypothesis =>
      have lowest : (UInt8.ofNat (number % 256)).toNat = number % 256 := by
        simp [UInt8.toNat_ofNat']
      rw [littleEndian, fromLittleEndian, lowest, inductionHypothesis, Nat.pow_succ,
        Nat.mul_comm (256 ^ count), Nat.mod_mul]

/-- Bytes written from the highest on spell the number, as far as they hold it. -/
theorem fromBigEndian_bigEndian (count number : Nat) :
    fromBigEndian (bigEndian count number) = number % 256 ^ count := by
  simp [fromBigEndian, bigEndian, fromLittleEndian_littleEndian]

theorem takeBytes_append (taken rest : Bytes) :
    takeBytes taken.length (taken ++ rest) = .ok (taken, rest) := by
  induction taken with
  | nil => rfl
  | cons byte taken inductionHypothesis => simp [takeBytes, inductionHypothesis]

end FieldSurvey
