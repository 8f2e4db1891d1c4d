import Passbook.Decimal.Printer
import Passbook.Rounding

/-! # Currency text

An amount is shown rounded half to even to hundredths. Missing places are then filled with
zeros, one at a time and only while the coefficient has room for them, so that the very largest
amounts show fewer than two places.
-/
namespace Passbook.Decimal

def currencyPlaces : Nat := 2

/-- The nearest decimal with at most two places, a tie going to the even neighbour. -/
def toCents (d : Decimal) : Decimal :=
  if d.scale ≤ currencyPlaces then d
  else
    ⟨dropDigits .toEven d.coefficient (d.scale - currencyPlaces), currencyPlaces,
      Nat.lt_of_le_of_lt (natAbs_dropDigits_le _ _ _) d.coefficient_lt, by decide⟩

/-- Up to `steps` more zeros after the point, as long as the coefficient stays in range. -/
def widen (d : Decimal) : Nat → Decimal
  | 0 => d
  | steps + 1 =>
    match ofParts? (d.coefficient * 10) (d.scale + 1) with
    | some wider => widen wider steps
    | none => d

def rounded (d : Decimal) : Decimal := d.toCents.widen (currencyPlaces - d.toCents.scale)

def currency (d : Decimal) : String := d.rounded.text

end Passbook.Decimal
