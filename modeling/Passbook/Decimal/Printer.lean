import Passbook.Decimal.Basic
import Passbook.Text.Digits

/-! # Decimal text

The coefficient's digits with the point before the last `scale` of them and at least one digit
in front of it; no point at scale zero.
-/
namespace Passbook.Decimal

open Text

/-- The unsigned text of a coefficient at a scale. -/
def magnitudeChars (n scale : Nat) : List Char :=
  if scale = 0 then digits n
  else
    let ds := padded (scale + 1) n
    ds.take (ds.length - scale) ++ '.' :: ds.drop (ds.length - scale)

def chars (d : Decimal) : List Char :=
  if d.coefficient < 0 then '-' :: magnitudeChars d.coefficient.natAbs d.scale
  else magnitudeChars d.coefficient.natAbs d.scale

def text (d : Decimal) : String := String.ofList d.chars

end Passbook.Decimal
