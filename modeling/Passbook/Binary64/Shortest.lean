import Passbook.Binary64.Basic
import Passbook.Text.Digits

/-! # The shortest decimal that reads back

The reals that round to a given binary number form an interval, closed when the number's last
bit is zero. Among the decimals with the fewest digits in that interval the nearest one is
taken; of two that are equally near, the text that is to be written decides which. All
comparisons are between whole numbers.
-/
namespace Passbook

structure ShortDecimal where
  coefficient : Nat
  exponent : Int
deriving DecidableEq, Repr

namespace Magnitude

open Text

/-- A number and the ends of its rounding interval, as multiples of `2 ^ (q - 2)`. -/
structure Interval where
  low : Nat
  value : Nat
  high : Nat
  closed : Bool
  q : Int

def interval (x : Magnitude) : Interval where
  -- below a power of two the numbers lie half as far apart
  low := if x.m = pow2 52 && minExponent < x.q then 4 * x.m - 1 else 4 * x.m - 2
  value := 4 * x.m
  high := 4 * x.m + 2
  closed := x.m % 2 == 0
  q := x.q - 2

def Interval.unit (i : Interval) (g : Int) : Nat × Nat :=
  let two : Nat × Nat := match i.q with
    | .ofNat k => (pow2 k, 1)
    | .negSucc k => (1, pow2 (k + 1))
  match g with
  | .ofNat k => (two.1, two.2 * pow10 k)
  | .negSucc k => (two.1 * pow10 (k + 1), two.2)

/-- The multiple of `10 ^ g` nearest to the number, if one lies in the interval. -/
def Interval.onGrid (tie : Tie) (i : Interval) (g : Int) : Option Nat :=
  let u := i.unit g
  let value := i.value * u.1
  let inside (c : Nat) : Bool :=
    if i.closed then i.low * u.1 ≤ c * u.2 && c * u.2 ≤ i.high * u.1
    else i.low * u.1 < c * u.2 && c * u.2 < i.high * u.1
  let below := value / u.2
  match inside below, inside (below + 1) with
  | true, true => some (roundDiv tie value u.2)
  | true, false => some below
  | false, true => some (below + 1)
  | false, false => none

def Interval.pointPlace (i : Interval) : Int :=
  -- every number is above `10 ^ -400`, so its digits down to that place are counted
  let u := i.unit (-400)
  ((digits (i.value * u.1 / u.2)).length : Int) - 400

/-- Tries grids of growing fineness; seventeen digits always suffice. -/
def Interval.search (tie : Tie) (i : Interval) (place : Int) (count : Nat) : Nat → ShortDecimal
  | 0 => ⟨i.value * (i.unit (place - count)).1 / (i.unit (place - count)).2, place - count⟩
  | left + 1 =>
    match i.onGrid tie (place - count) with
    | some c => ⟨c, place - count⟩
    | none => i.search tie place (count + 1) left

end Magnitude

def ShortDecimal.normalize (d : ShortDecimal) : Nat → ShortDecimal
  | 0 => d
  | steps + 1 =>
    if d.coefficient % 10 == 0 && d.coefficient != 0 then normalize ⟨d.coefficient / 10, d.exponent + 1⟩ steps else d

/-- The shortest decimal that reads back as the number. -/
def Magnitude.shortest (tie : Tie) (x : Magnitude) : ShortDecimal :=
  if x.m = 0 then ⟨0, 0⟩
  else
    let i := x.interval
    (i.search tie i.pointPlace 1 17).normalize 17

namespace ShortDecimal

open Text

/-- Digits without an exponent; `point` adds `.0` to a whole number. -/
def positional (point : Bool) (d : ShortDecimal) : List Char :=
  match d.exponent with
  | .ofNat k => digits d.coefficient ++ List.replicate k '0' ++ (if point then ['.', '0'] else [])
  | .negSucc k =>
    let ds := padded (k + 2) d.coefficient
    ds.take (ds.length - (k + 1)) ++ '.' :: ds.drop (ds.length - (k + 1))

def scientific (d : ShortDecimal) : List Char :=
  let ds := digits d.coefficient
  let e := d.exponent + ds.length - 1
  let fraction := ds.drop 1
  ds.take 1 ++ (if fraction.isEmpty then [] else '.' :: fraction) ++
    'e' :: (if e < 0 then '-' else '+') :: padded 2 e.natAbs

/-- Positional for numbers from `10 ^ -5` to below `10 ^ 16`, scientific beyond. -/
def compact (d : ShortDecimal) : List Char :=
  let e := d.exponent + (digits d.coefficient).length - 1
  if d.coefficient = 0 || (-5 ≤ e && e ≤ 15) then d.positional true else d.scientific

end ShortDecimal

namespace Binary64

def render (tie : Tie) (write : ShortDecimal → List Char) : Binary64 → String
  | .finite negative x =>
    let size := write (x.shortest tie)
    String.ofList (if negative then '-' :: size else size)
  | .infinite negative => if negative then "-inf" else "inf"
  | .nan => "NaN"

def plain : Binary64 → String := render .away (·.positional false)

def pointed : Binary64 → String := render .away (·.positional true)

def compact : Binary64 → String := render .toEven (·.compact)

end Binary64

end Passbook
