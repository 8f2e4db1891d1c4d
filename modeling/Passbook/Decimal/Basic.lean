import Passbook.Power

/-! # Fixed-point decimals

An amount of money is a whole coefficient below `2 ^ 96` in size and a scale of at most 28
digits after the point. Equal values may differ in scale, and the scale is kept: `1.50` and
`1.5` are different decimals with the same value. Zero has no sign.
-/
namespace Passbook

/-- Coefficients stay below this in absolute value. -/
def Decimal.limit : Nat := pow2 96

/-- The largest number of digits after the point. -/
def Decimal.maxScale : Nat := 28

/-- The number `coefficient / 10 ^ scale`. -/
@[ext] structure Decimal where
  coefficient : Int
  scale : Nat
  coefficient_lt : coefficient.natAbs < Decimal.limit
  scale_le : scale ≤ Decimal.maxScale
deriving DecidableEq, Repr

namespace Decimal

/-- The decimal with these parts, if they are in range. -/
def ofParts? (coefficient : Int) (scale : Nat) : Option Decimal :=
  if hc : coefficient.natAbs < limit then
    if hs : scale ≤ maxScale then some ⟨coefficient, scale, hc, hs⟩ else none
  else none

def zero : Decimal := ⟨0, 0, by decide, by decide⟩

instance : Inhabited Decimal := ⟨zero⟩

def neg (d : Decimal) : Decimal := ⟨-d.coefficient, d.scale, by simpa using d.coefficient_lt, d.scale_le⟩

def isNegative (d : Decimal) : Bool := d.coefficient < 0

/-- Order by value, whatever the scales. -/
def le (a b : Decimal) : Prop := a.coefficient * pow10 b.scale ≤ b.coefficient * pow10 a.scale

def lt (a b : Decimal) : Prop := a.coefficient * pow10 b.scale < b.coefficient * pow10 a.scale

instance : LE Decimal := ⟨le⟩
instance : LT Decimal := ⟨lt⟩
instance (a b : Decimal) : Decidable (a ≤ b) :=
  inferInstanceAs (Decidable (a.coefficient * pow10 b.scale ≤ b.coefficient * pow10 a.scale))
instance (a b : Decimal) : Decidable (a < b) :=
  inferInstanceAs (Decidable (a.coefficient * pow10 b.scale < b.coefficient * pow10 a.scale))

theorem le_def {a b : Decimal} :
    a ≤ b ↔ a.coefficient * pow10 b.scale ≤ b.coefficient * pow10 a.scale := Iff.rfl

theorem lt_def {a b : Decimal} :
    a < b ↔ a.coefficient * pow10 b.scale < b.coefficient * pow10 a.scale := Iff.rfl

theorem not_lt_iff {a b : Decimal} : ¬ a < b ↔ b ≤ a := by
  rw [lt_def, le_def, Int.not_lt]

theorem ofParts?_coefficient (d : Decimal) : ofParts? d.coefficient d.scale = some d := by
  simp [ofParts?, d.coefficient_lt, d.scale_le]

theorem ofParts?_eq_some {c : Int} {s : Nat} {d : Decimal} (h : ofParts? c s = some d) :
    d.coefficient = c ∧ d.scale = s := by
  unfold ofParts? at h
  split at h
  · split at h
    · cases h; exact ⟨rfl, rfl⟩
    · cases h
  · cases h

end Decimal

end Passbook
