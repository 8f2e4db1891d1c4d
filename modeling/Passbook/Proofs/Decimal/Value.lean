import Mathlib.Algebra.Order.Field.Rat
import Mathlib.Tactic.FieldSimp
import Mathlib.Tactic.Linarith
import Mathlib.Tactic.Positivity
import Mathlib.Tactic.Ring
import Passbook.Decimal.Arithmetic

/-! # The exact value of a decimal

The value of a decimal is a rational number, and decimals are ordered by it. Arithmetic is
measured against the values: written at a common scale, two decimals have a whole number as their
exact sum.
-/
namespace Passbook

@[simp] theorem cast_pow10 (k : Nat) : ((pow10 k : Nat) : ℚ) = 10 ^ k := by
  rw [pow10, Nat.pow_eq, Nat.cast_pow, Nat.cast_ofNat]

namespace Decimal
variable {a b c d : Decimal}

/-- The number that a decimal stands for. -/
def value (d : Decimal) : ℚ := d.coefficient / 10 ^ d.scale

@[simp] theorem value_zero : zero.value = 0 := by simp [value, zero]

@[simp] theorem value_neg (d : Decimal) : d.neg.value = -d.value := by
  simp [value, neg, neg_div]

theorem value_of_coefficient_eq_zero (h : d.coefficient = 0) : d.value = 0 := by simp [value, h]

theorem value_lt_value : a.value < b.value ↔ a < b := by
  rw [lt_def, value, value, div_lt_div_iff₀ (by positivity) (by positivity), ← cast_pow10, ← cast_pow10]
  norm_cast

theorem value_le_value : a.value ≤ b.value ↔ a ≤ b := by
  rw [← not_lt, value_lt_value, not_lt_iff]

theorem zero_le_iff : zero ≤ d ↔ 0 ≤ d.value := by rw [← value_le_value, value_zero]

theorem value_nonneg (h : 0 ≤ d.coefficient) : 0 ≤ d.value :=
  div_nonneg (by exact_mod_cast h) (by positivity)

theorem value_mul_pow_scale (d : Decimal) : d.value * 10 ^ d.scale = d.coefficient := by
  rw [value]
  field_simp

/-- Written at a larger scale, a decimal keeps its value. -/
theorem cast_coefficientAt {scale : Nat} (h : d.scale ≤ scale) :
    (d.coefficientAt scale : ℚ) = d.value * 10 ^ scale := by
  have hs : (10 : ℚ) ^ scale = 10 ^ d.scale * 10 ^ (scale - d.scale) := by
    rw [← pow_add, Nat.add_sub_cancel' h]
  rw [coefficientAt, value, hs, Int.cast_mul, Int.cast_natCast, cast_pow10]
  field_simp

/-- The coefficient of the exact sum, at the larger of the two scales. -/
def sumCoefficient (a b : Decimal) : Int :=
  a.coefficientAt (max a.scale b.scale) + b.coefficientAt (max a.scale b.scale)

theorem cast_sumCoefficient (a b : Decimal) :
    (sumCoefficient a b : ℚ) = (a.value + b.value) * 10 ^ max a.scale b.scale := by
  rw [sumCoefficient, Int.cast_add, cast_coefficientAt (le_max_left _ _),
    cast_coefficientAt (le_max_right _ _), add_mul]

end Decimal

end Passbook
