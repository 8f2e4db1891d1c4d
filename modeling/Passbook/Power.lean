/-! # Powers and word ranges

Scales are powers of ten, and the ranges of machine words are bounded by powers of two.
-/
namespace Passbook

def pow2 (k : Nat) : Nat := Nat.pow 2 k

def pow10 (k : Nat) : Nat := Nat.pow 10 k

@[simp] theorem pow10_zero : pow10 0 = 1 := rfl

theorem pow10_succ (k : Nat) : pow10 (k + 1) = pow10 k * 10 := rfl

theorem pow10_pos (k : Nat) : 0 < pow10 k := Nat.pow_pos (by decide)

theorem pow10_add (m n : Nat) : pow10 (m + n) = pow10 m * pow10 n := Nat.pow_add 10 m n

/-- Does a word of so many bits with sign hold the number? -/
def inSigned (bits : Nat) (n : Int) : Bool := -(pow2 (bits - 1) : Int) ≤ n && n < pow2 (bits - 1)

/-- Does a word of so many bits without sign hold the number? -/
def inUnsigned (bits : Nat) (n : Int) : Bool := 0 ≤ n && n < pow2 bits

end Passbook
