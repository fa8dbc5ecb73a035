import Mathlib.Tactic.Common

/-!
# The magnitude of a signed word

A program that splits an `int32_t` by its sign, and negates it where it is not positive,
gets its magnitude once it reads the result as unsigned.  Read as signed the result is
the magnitude too, but for `-2^31`, whose negation overflows.
-/

namespace SignedWord

variable {value : Int32}

theorem zero_lt_iff : 0 < value ↔ 0 < value.toInt :=
  Int32.lt_iff_toInt_lt

theorem natAbs_eq_zero : value.toInt.natAbs = 0 ↔ value = 0 := by
  rw [Int.natAbs_eq_zero, ← Int32.toInt_inj]
  rfl

theorem toNat_ofNat_natAbs (value : Int32) :
    (UInt32.ofNat value.toInt.natAbs).toNat = value.toInt.natAbs := by
  have hlow := value.le_toInt
  have hhigh := value.toInt_lt
  rw [UInt32.toNat_ofNat']
  apply Nat.mod_eq_of_lt
  omega

/-! ## Read as unsigned -/

theorem toUInt32_of_pos (hpos : 0 < value) :
    value.toUInt32 = UInt32.ofNat value.toInt.natAbs := by
  have hsigned : value.toInt = value.toUInt32.toBitVec.toInt := rfl
  have hnat : value.toUInt32.toBitVec.toNat = value.toUInt32.toNat := rfl
  rw [zero_lt_iff] at hpos
  rw [BitVec.toInt_eq_toNat_cond] at hsigned
  rw [← UInt32.toNat_inj, toNat_ofNat_natAbs]
  omega

theorem toUInt32_neg_of_not_pos (hpos : ¬ 0 < value) :
    (-value).toUInt32 = UInt32.ofNat value.toInt.natAbs := by
  have hsigned : value.toInt = value.toUInt32.toBitVec.toInt := rfl
  have hnat : value.toUInt32.toBitVec.toNat = value.toUInt32.toNat := rfl
  have hneg : (-value).toUInt32 = -value.toUInt32 := rfl
  have hlt := value.toUInt32.toNat_lt
  rw [zero_lt_iff] at hpos
  rw [BitVec.toInt_eq_toNat_cond] at hsigned
  rw [← UInt32.toNat_inj, toNat_ofNat_natAbs, hneg, UInt32.toNat_neg, UInt32.size]
  omega

/-! ## Read as signed -/

theorem toInt_of_pos (hpos : 0 < value) : value.toInt = value.toInt.natAbs := by
  rw [zero_lt_iff] at hpos
  omega

theorem toInt_neg_iff (hpos : ¬ 0 < value) :
    (-value).toInt = value.toInt.natAbs ↔ value ≠ Int32.minValue := by
  have hlow := value.le_toInt
  have hleast : Int32.minValue.toInt = -2 ^ 31 := rfl
  rw [zero_lt_iff] at hpos
  rw [Int32.toInt_neg, Ne, ← Int32.toInt_inj, hleast, Int.bmod_def]
  omega

end SignedWord
