import Passbook.Decimal.Basic
import Passbook.Rounding

/-! # Addition and subtraction

The exact sum is formed at the larger of the two scales. If its coefficient is too large, the
fewest digits that let it fit are dropped, the exact sum being rounded half to even; a sum
that does not fit as a whole number has no result. A zero operand gives back the other one
with its own scale.
-/
namespace Passbook.Decimal

/-- The number `n / 10 ^ (dropped + scale)` at the largest scale up to `scale` where it fits. -/
def fit (n : Int) (dropped : Nat) : Nat → Option Decimal
  | 0 => ofParts? (dropDigits .toEven n dropped) 0
  | scale + 1 =>
    match ofParts? (dropDigits .toEven n dropped) (scale + 1) with
    | some d => some d
    | none => fit n (dropped + 1) scale

/-- The coefficient of a decimal written at a scale that is not below its own. -/
def coefficientAt (d : Decimal) (scale : Nat) : Int := d.coefficient * pow10 (scale - d.scale)

def add? (a b : Decimal) : Option Decimal :=
  if a.coefficient = 0 then some b
  else if b.coefficient = 0 then some a
  else
    let scale := max a.scale b.scale
    fit (a.coefficientAt scale + b.coefficientAt scale) 0 scale

def sub? (a b : Decimal) : Option Decimal := add? a b.neg

theorem add?_of_left_zero {a b : Decimal} (h : a.coefficient = 0) : add? a b = some b := by
  simp [add?, h]

theorem add?_of_right_zero {a b : Decimal} (ha : a.coefficient ≠ 0) (hb : b.coefficient = 0) :
    add? a b = some a := by
  simp [add?, ha, hb]

end Passbook.Decimal
