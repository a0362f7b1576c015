import Mathlib.Data.Prod.Lex
import Mathlib.Data.Int.Order.Basic
import Mathlib.Order.Compare

/-!
# Two digits

A pair of a leading number and a last digit below the radix, read as one number: the pairs are
ordered lexicographically as the numbers are.
-/

namespace MixedRadix

/-- The number that a pair stands for. -/
def value (radix : ℤ) (x : ℤ ×ₗ ℤ) : ℤ := (ofLex x).1 * radix + (ofLex x).2

/-- The pairs whose second component is a digit. -/
def pairs (radix : ℤ) : Set (ℤ ×ₗ ℤ) := {x | 0 ≤ (ofLex x).2 ∧ (ofLex x).2 < radix}

theorem value_lt_value {radix : ℤ} {x y : ℤ ×ₗ ℤ} (hx : x ∈ pairs radix) (hy : y ∈ pairs radix)
    (hlt : x < y) : value radix x < value radix y := by
  unfold value
  obtain hlt | ⟨heq, hlt⟩ := Prod.Lex.lt_iff.mp hlt
  · -- a larger leading number outweighs every digit
    have hmul : ((ofLex x).1 + 1) * radix ≤ (ofLex y).1 * radix :=
      Int.mul_le_mul_of_nonneg_right hlt (by have := hx.1; have := hx.2; omega)
    rw [Int.add_mul, Int.one_mul] at hmul
    have hdigit := hx.2
    have hnonneg := hy.1
    omega
  · rw [heq]
    omega

theorem cmp_value {radix : ℤ} {x y : ℤ ×ₗ ℤ} (hx : x ∈ pairs radix) (hy : y ∈ pairs radix) :
    cmp (value radix x) (value radix y) = cmp x y := by
  have hmono : StrictMonoOn (value radix) (pairs radix) :=
    fun x hx y hy hlt => value_lt_value hx hy hlt
  exact hmono.cmp_map_eq hx hy

/-- Quotient and remainder are the digits. -/
theorem value_div_mod (radix n : ℤ) : value radix (toLex (n / radix, n % radix)) = n :=
  Int.ediv_mul_add_emod n radix

end MixedRadix
