import Mathlib.Data.Nat.Digits.Lemmas

/-!
# Little-endian numbers

A fixed number of bytes, the least significant one first.
-/

namespace LittleEndian

/-- The number that the bytes stand for. -/
def value (bytes : List UInt8) : ℕ := Nat.ofDigits 256 (bytes.map UInt8.toNat)

/-- The first `width` bytes of `n`. -/
def bytes : ℕ → ℕ → List UInt8
  | 0, _ => []
  | width + 1, n => UInt8.ofNat n :: bytes width (n / 256)

@[simp] theorem length_bytes (width n : ℕ) : (bytes width n).length = width := by
  induction width generalizing n with
  | zero => rfl
  | succ width ih => exact congrArg (· + 1) (ih _)

theorem value_lt (bytes : List UInt8) : value bytes < 256 ^ bytes.length := by
  have hlt := Nat.ofDigits_lt_base_pow_length (b := 256) (l := bytes.map UInt8.toNat)
    (by decide) fun x hx => by
      obtain ⟨byte, -, rfl⟩ := List.mem_map.mp hx
      exact byte.toNat_lt
  rwa [List.length_map] at hlt

/-- What was written is read back. -/
theorem value_bytes {width n : ℕ} (h : n < 256 ^ width) : value (bytes width n) = n := by
  induction width generalizing n with
  | zero =>
    show 0 = n
    rw [Nat.pow_zero] at h
    omega
  | succ width ih =>
    have hdiv : n / 256 < 256 ^ width := by
      rw [Nat.pow_succ] at h
      omega
    have htail : value (bytes width (n / 256)) = n / 256 := ih hdiv
    show Nat.ofDigits 256 ((UInt8.ofNat n).toNat :: _) = n
    rw [Nat.ofDigits_cons]
    show (UInt8.ofNat n).toNat + 256 * value (bytes width (n / 256)) = n
    rw [htail, UInt8.toNat_ofNat']
    omega

end LittleEndian
