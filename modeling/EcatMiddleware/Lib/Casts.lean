import Mathlib.Algebra.Group.Nat.Defs
import Mathlib.Data.Int.Notation

/-!
# Casts between signed and unsigned words

A cast keeps the number as long as both types have it.
-/

namespace Casts

theorem toNat_toUInt64 {x : Int64} (h : 0 ≤ x.toInt) : (x.toUInt64.toNat : ℤ) = x.toInt := by
  have hcond : x.toInt = _ := BitVec.toInt_eq_toNat_cond x.toBitVec
  have hlt := x.toUInt64.toNat_lt
  rw [Int64.toNat_toBitVec] at hcond
  split at hcond <;> omega

theorem toInt_toInt32 {x : UInt32} (h : x.toNat < 2 ^ 31) : x.toInt32.toInt = x.toNat := by
  refine BitVec.toInt_eq_toNat_of_lt ?_
  show 2 * x.toNat < 2 ^ 32
  omega

/-- The wider word has every number of the narrower one. -/
theorem toInt_toInt64 (x : UInt32) : x.toUInt64.toInt64.toInt = x.toNat := by
  have hlt := x.toNat_lt
  refine (BitVec.toInt_eq_toNat_of_lt ?_).trans ?_
  · show 2 * x.toUInt64.toNat < 2 ^ 64
    rw [UInt32.toNat_toUInt64]
    omega
  · show (x.toUInt64.toNat : ℤ) = _
    rw [UInt32.toNat_toUInt64]

end Casts
