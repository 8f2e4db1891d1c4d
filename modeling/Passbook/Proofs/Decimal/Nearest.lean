import Mathlib.Algebra.Ring.Int.Parity
import Passbook.Proofs.Decimal.Value

/-! # The nearest whole number

Rounding half to even is fixed by what it does, not by how a quotient and its remainder are
compared: the result is at most one half away, and it is even if it is exactly one half away.
There is one such number, it grows with the number that is rounded, and it reaches an even bound
as soon as that number is within one half of it.
-/
namespace Passbook

/-- `n` is the whole number nearest to `x`, the even one if two are equally near. -/
structure IsNearest (x : ℚ) (n : ℤ) : Prop where
  near : |x - n| ≤ 1 / 2
  even_of_tie : |x - n| = 1 / 2 → Even n

namespace IsNearest
variable {x y : ℚ} {m n : ℤ}

theorem sub_half_le (h : IsNearest x n) : (n : ℚ) - 1 / 2 ≤ x := by
  have hx := (abs_le.mp h.near).1
  linarith

theorem le_add_half (h : IsNearest x n) : x ≤ (n : ℚ) + 1 / 2 := by
  have hx := (abs_le.mp h.near).2
  linarith

theorem neg (h : IsNearest x n) : IsNearest (-x) (-n) := by
  have he : |-x - ((-n : ℤ) : ℚ)| = |x - n| := by
    rw [Int.cast_neg, ← neg_sub', abs_neg]
  refine ⟨he ▸ h.near, fun ht => ?_⟩
  exact (h.even_of_tie (he ▸ ht)).neg

theorem intCast (n : ℤ) : IsNearest n n := by
  constructor
  · norm_num
  · norm_num

/-- A tie below an even number goes up to it. -/
theorem of_sub_half (h : Even n) : IsNearest ((n : ℚ) - 1 / 2) n := by
  refine ⟨?_, fun _ => h⟩
  rw [sub_sub_cancel_left, abs_neg]
  norm_num

theorem le_of_le (hx : IsNearest x m) (hy : IsNearest y n) (h : x ≤ y) : m ≤ n := by
  by_contra hlt
  have hmn : n + 1 ≤ m := by omega
  have hq : (n : ℚ) + 1 ≤ m := by exact_mod_cast hmn
  have hm := hx.sub_half_le
  have hn := hy.le_add_half
  -- both numbers are the one half way between `n` and `m = n + 1`, so both `n` and `m` are even
  have hm_even : Even m := by
    apply hx.even_of_tie
    rw [show x - m = -(1 / 2) by linarith, abs_neg]
    norm_num
  have hn_even : Even n := by
    apply hy.even_of_tie
    rw [show y - n = 1 / 2 by linarith]
    norm_num
  have hsucc : m = n + 1 := by
    have hle : (m : ℚ) ≤ n + 1 := by linarith
    have hle : m ≤ n + 1 := by exact_mod_cast hle
    omega
  rw [hsucc] at hm_even
  exact Int.not_even_iff_odd.mpr hn_even.add_one hm_even

theorem unique (hm : IsNearest x m) (hn : IsNearest x n) : m = n :=
  le_antisymm (hm.le_of_le hn le_rfl) (hn.le_of_le hm le_rfl)

theorem eq_of_intCast (h : IsNearest (m : ℚ) n) : n = m := h.unique (intCast m)

theorem le_iff_of_even (h : IsNearest x n) (hm : Even m) : m ≤ n ↔ (m : ℚ) - 1 / 2 ≤ x := by
  constructor
  · intro hle
    have hq : (m : ℚ) ≤ n := by exact_mod_cast hle
    have hx := h.sub_half_le
    linarith
  · exact (of_sub_half hm).le_of_le h

/-- An even bound is reached in size exactly from one half below it. -/
theorem le_natAbs_iff (h : IsNearest x n) {bound : ℕ} (hb : Even bound) :
    bound ≤ n.natAbs ↔ (bound : ℚ) - 1 / 2 ≤ |x| := by
  have he : Even (bound : ℤ) := (Int.even_coe_nat bound).mpr hb
  have hpos := h.le_iff_of_even he
  have hneg := h.neg.le_iff_of_even he
  rw [Int.cast_natCast] at hpos hneg
  rw [le_abs, ← hpos, ← hneg]
  omega

end IsNearest

/-- Whole numbers decide whether a quotient is rounded correctly. -/
theorem isNearest_div_iff {n q : ℤ} {d : ℕ} (hd : 0 < d) :
    IsNearest ((n : ℚ) / d) q ↔ 2 * |n - q * d| ≤ d ∧ (2 * |n - q * d| = d → Even q) := by
  have hdq : (0 : ℚ) < d := by exact_mod_cast hd
  have he : |(n : ℚ) / d - q| = ((|n - q * d| : ℤ) : ℚ) / d := by
    rw [div_sub' hdq.ne', abs_div, abs_of_pos hdq, mul_comm (d : ℚ)]
    norm_cast
  have hle : ((|n - q * d| : ℤ) : ℚ) / d ≤ 1 / 2 ↔ 2 * |n - q * d| ≤ d := by
    rw [div_le_div_iff₀ hdq two_pos, one_mul, mul_comm]
    norm_cast
  have heq : ((|n - q * d| : ℤ) : ℚ) / d = 1 / 2 ↔ 2 * |n - q * d| = d := by
    rw [div_eq_div_iff hdq.ne' two_ne_zero, one_mul, mul_comm]
    norm_cast
  constructor
  · intro h
    exact ⟨hle.mp (he ▸ h.near), fun ht => h.even_of_tie (he.trans (heq.mpr ht))⟩
  · rintro ⟨hnear, htie⟩
    exact ⟨he ▸ hle.mpr hnear, fun ht => htie (heq.mp (he.symm.trans ht))⟩

theorem isNearest_roundDiv (n : ℕ) {d : ℕ} (hd : 0 < d) :
    IsNearest ((n : ℚ) / d) (roundDiv .toEven n d : ℤ) := by
  have hn : n = n / d * d + n % d := (Nat.div_add_mod' n d).symm
  have hlt : n % d < d := Nat.mod_lt n hd
  rw [← Int.cast_natCast n, isNearest_div_iff hd]
  unfold roundDiv
  dsimp only
  generalize n / d = q at *
  generalize n % d = r at *
  split
  · rename_i hup
    simp only [Bool.or_eq_true, decide_eq_true_eq, Bool.and_eq_true, beq_iff_eq] at hup
    have he : (n : ℤ) - ((q + 1 : ℕ) : ℤ) * d = -((d : ℤ) - r) := by
      rw [hn]
      push_cast
      ring
    rw [he, abs_neg, abs_of_nonneg (by omega)]
    refine ⟨by omega, fun ht => ?_⟩
    have hodd : q % 2 = 1 := by
      rcases hup with hup | ⟨-, hup | hup⟩
      · omega
      · cases hup
      · exact hup
    exact Int.even_iff.mpr (by omega)
  · rename_i hdown
    simp only [Bool.or_eq_true, decide_eq_true_eq, Bool.and_eq_true, beq_iff_eq, not_or, not_and] at hdown
    have he : (n : ℤ) - (q : ℤ) * d = r := by
      rw [hn]
      push_cast
      ring
    rw [he, abs_of_nonneg (by omega)]
    refine ⟨by omega, fun ht => ?_⟩
    have hodd := (hdown.2 (by exact_mod_cast ht)).2
    exact Int.even_iff.mpr (by omega)

/-- Signs are symmetric. -/
theorem isNearest_signed (n : ℤ) {d : ℕ} (hd : 0 < d) : IsNearest ((n : ℚ) / d)
    (if n < 0 then -(roundDiv .toEven n.natAbs d : ℤ) else roundDiv .toEven n.natAbs d) := by
  have habs := isNearest_roundDiv n.natAbs hd
  have hcast : (n.natAbs : ℚ) = ((n.natAbs : ℤ) : ℚ) := (Int.cast_natCast n.natAbs).symm
  split
  · rename_i hn
    rw [hcast, show (n.natAbs : ℤ) = -n by omega] at habs
    have hneg := habs.neg
    rwa [Int.cast_neg, neg_div, neg_neg] at hneg
  · rename_i hn
    rwa [hcast, show (n.natAbs : ℤ) = n by omega] at habs

theorem isNearest_dropDigits (n : ℤ) (count : ℕ) :
    IsNearest ((n : ℚ) / 10 ^ count) (dropDigits .toEven n count) := by
  have h := isNearest_signed n (pow10_pos count)
  rwa [cast_pow10] at h

theorem exists_isNearest (x : ℚ) : ∃ n, IsNearest x n := by
  have h := isNearest_signed x.num x.den_pos
  rw [Rat.num_div_den] at h
  exact ⟨_, h⟩

end Passbook
