import Passbook.Rounding

/-! # Binary floating-point numbers

A finite number is `m * 2 ^ q` with `m` below `2 ^ 53`. Every operation is exact arithmetic on
whole numbers followed by one rounding to the nearest representable number, ties to even.
-/
namespace Passbook

structure Magnitude where
  m : Nat
  q : Int
deriving DecidableEq, Repr

inductive Binary64
  | finite (negative : Bool) (magnitude : Magnitude)
  | infinite (negative : Bool)
  | nan
deriving DecidableEq, Repr

namespace Magnitude

/-- The smallest exponent, at which numbers stop having 53 significant bits. -/
def minExponent : Int := -1074

def maxExponent : Int := 971

def zero : Magnitude := ⟨0, minExponent⟩

/-- The quotient `num / (den * 2 ^ q)` as a fraction. -/
def shifted (num den : Nat) : Int → Nat × Nat
  | .ofNat k => (num, den * pow2 k)
  | .negSucc k => (num * pow2 (k + 1), den)

/-- The exponent at which `num / den` has 53 bits before the point, or the smallest one. -/
def exponentFor (num den : Nat) : Int :=
  let q := max ((num.log2 : Int) - den.log2 - 53) minExponent
  let f := shifted num den q
  if pow2 53 ≤ f.1 / f.2 then q + 1 else q

/-- The representable number nearest to `num / den`; none beyond the largest one. -/
def nearest (num den : Nat) : Option Magnitude :=
  if num = 0 then some zero
  else
    let q := exponentFor num den
    let f := shifted num den q
    let m := roundDiv .toEven f.1 f.2
    let r : Magnitude := if m = pow2 53 then ⟨pow2 52, q + 1⟩ else ⟨m, q⟩
    if maxExponent < r.q then none else some r

def ofNat (n : Nat) : Option Magnitude := nearest n 1

def mul (a b : Magnitude) : Option Magnitude :=
  let f := shifted (a.m * b.m) 1 (-(a.q + b.q))
  nearest f.1 f.2

def div (a b : Magnitude) : Option Magnitude :=
  let f := shifted a.m b.m (b.q - a.q)
  nearest f.1 f.2

/-- The number nearest to `n * 10 ^ e`, where `n` has the given number of digits. Far outside
the range the answer is known without forming the power. -/
def ofDecimal (n : Nat) (digitCount : Nat) (e : Int) : Option Magnitude :=
  if n = 0 then some zero
  else if 400 < (digitCount : Int) + e then none
  else if (digitCount : Int) + e < -400 then some zero
  else
    match e with
    | .ofNat k => nearest (n * pow10 k) 1
    | .negSucc k => nearest n (pow10 (k + 1))

end Magnitude

end Passbook
