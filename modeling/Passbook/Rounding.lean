import Passbook.Power

/-! # Rounding a quotient

A quotient is rounded to the nearest whole number. A tie goes either to the even neighbour or
away from zero; signs are symmetric.
-/
namespace Passbook

/-- Where a quotient half way between two whole numbers goes. -/
inductive Tie
  | toEven
  | away
deriving DecidableEq, Repr

/-- The quotient `n / d` rounded to the nearest whole number. -/
def roundDiv (tie : Tie) (n d : Nat) : Nat :=
  let q := n / d
  let twice := 2 * (n % d)
  if d < twice || (twice == d && (tie == .away || q % 2 == 1)) then q + 1 else q

/-- Rounding of a signed number by a number of decimal digits. -/
def dropDigits (tie : Tie) (n : Int) (count : Nat) : Int :=
  if n < 0 then -(roundDiv tie n.natAbs (pow10 count) : Int) else roundDiv tie n.natAbs (pow10 count)

theorem roundDiv_le (tie : Tie) (n : Nat) {d : Nat} (hd : 0 < d) : roundDiv tie n d ≤ n := by
  have hq : n / d * 1 ≤ n / d * d := Nat.mul_le_mul_left _ hd
  have hn : n / d * d + n % d = n := by rw [Nat.mul_comm]; exact Nat.div_add_mod n d
  unfold roundDiv
  simp only
  split
  · rename_i h
    simp only [Bool.or_eq_true, decide_eq_true_eq, Bool.and_eq_true, beq_iff_eq] at h
    omega
  · omega

theorem natAbs_dropDigits (tie : Tie) (n : Int) (count : Nat) :
    (dropDigits tie n count).natAbs = roundDiv tie n.natAbs (pow10 count) := by
  unfold dropDigits
  split <;> simp

theorem natAbs_dropDigits_le (tie : Tie) (n : Int) (count : Nat) :
    (dropDigits tie n count).natAbs ≤ n.natAbs := by
  rw [natAbs_dropDigits]
  exact roundDiv_le tie _ (pow10_pos count)

end Passbook
