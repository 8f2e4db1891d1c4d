import Passbook.Document.Value
import Passbook.Instant

/-! # Numbers, words, dates and times of a TOML document

A scalar that is not quoted is one word, and the word as a whole has to be a truth value, a
number, or a date or time. Underscores may stand between two digits; leading zeros are not
allowed. Integers need at most 128 bits, and a float must not exceed the largest finite one.
-/
namespace Passbook.Toml

open Text

/-- Digits with single underscores between them, without the underscores. -/
def grouped (isDigit : Char → Bool) (cs : List Char) : Option (List Char) :=
  let groups := cs.splitOn '_'
  if groups.all fun g => !g.isEmpty && g.all isDigit then some groups.flatten else none

def wholeDigits (cs : List Char) : Option (List Char) := do
  let ds ← grouped isDigit cs
  if ds.head? == some '0' && 1 < ds.length then none else some ds

def splitSign : List Char → Option Bool × List Char
  | '-' :: cs => (some true, cs)
  | '+' :: cs => (some false, cs)
  | cs => (none, cs)

def signed (negative : Bool) (n : Nat) : Int := if negative then -(n : Int) else n

def inRange (n : Int) : Bool := inSigned 128 n || inUnsigned 128 n

def isBinaryDigit (c : Char) : Bool := c == '0' || c == '1'

def isOctalDigit (c : Char) : Bool := '0' ≤ c && c ≤ '7'

def valueIn (base : Nat) (cs : List Char) : Nat :=
  cs.foldl (fun n c => n * base + (hexValue c).getD 0) 0

/-- An integer in decimal, or without sign in base sixteen, eight or two. -/
def integer? (cs : List Char) : Option Value :=
  let inBase (base : Nat) (digit : Char → Bool) (ds : List Char) : Option Nat :=
    (grouped digit ds).map (valueIn base)
  let n? : Option Int :=
    match cs with
    | '0' :: 'x' :: ds => (inBase 16 (fun c => (hexValue c).isSome) ds).map Int.ofNat
    | '0' :: 'o' :: ds => (inBase 8 isOctalDigit ds).map Int.ofNat
    | '0' :: 'b' :: ds => (inBase 2 isBinaryDigit ds).map Int.ofNat
    | cs =>
      let (sign, ds) := splitSign cs
      (wholeDigits ds).map fun ds => signed (sign.getD false) (digitsValue ds)
  match n? with
  | some n => if inRange n then some (.integer n) else none
  | none => none

/-- The exponent of a float: a sign and digits, leading zeros allowed. -/
def exponent? (cs : List Char) : Option Int :=
  let (sign, ds) := splitSign cs
  (grouped isDigit ds).map fun ds => signed (sign.getD false) (digitsValue ds)

def finite? (negative : Bool) (whole fraction : List Char) (e : Int) : Option Value :=
  let ds := (whole ++ fraction).dropWhile (· == '0')
  (Magnitude.ofDecimal (digitsValue ds) ds.length (e - fraction.length)).map
    fun x => .float (.finite negative x)

def float? (cs : List Char) : Option Value := do
  let (sign, cs) := splitSign cs
  let negative := sign.getD false
  if cs == "inf".toList then return .float (.infinite negative)
  if cs == "nan".toList then return .float .nan
  let mantissa := cs.takeWhile (!isExponentMark ·)
  let tail := cs.dropWhile (!isExponentMark ·)
  let e ← match tail with
    | [] => some 0
    | _ :: e => exponent? e
  let whole ← wholeDigits (mantissa.takeWhile (· != '.'))
  match mantissa.dropWhile (· != '.') with
  | [] => if tail.isEmpty then none else finite? negative whole [] e
  | _ :: fraction => do
    let fraction ← grouped isDigit fraction
    finite? negative whole fraction e

def field (width low high : Nat) (cs : List Char) : Option (Nat × List Char) :=
  let ds := cs.take width
  if ds.length == width && ds.all isDigit && low ≤ digitsValue ds && digitsValue ds ≤ high then
    some (digitsValue ds, cs.drop width)
  else none

def expect (c : Char) : List Char → Option (List Char)
  | x :: cs => if x == c then some cs else none
  | [] => none

def date (cs : List Char) : Option (List Char) := do
  let (year, cs) ← field 4 0 9999 cs
  let cs ← expect '-' cs
  let (month, cs) ← field 2 1 12 cs
  let cs ← expect '-' cs
  let (day, cs) ← field 2 1 31 cs
  if day ≤ Day.daysIn year month then some cs else none

def fraction : List Char → Option (List Char)
  | '.' :: cs => if (cs.takeWhile isDigit).isEmpty then none else some (cs.dropWhile isDigit)
  | cs => some cs

/-- A time of day; seconds may be left out. -/
def time (cs : List Char) : Option (List Char) := do
  let (_, cs) ← field 2 0 23 cs
  let cs ← expect ':' cs
  let (_, cs) ← field 2 0 59 cs
  match cs with
  | ':' :: cs =>
    let (_, cs) ← field 2 0 60 cs
    fraction cs
  | cs => some cs

def zone : List Char → Option (List Char)
  | [] => some []
  | c :: cs =>
    if c == 'Z' || c == 'z' then some cs
    else if c == '+' || c == '-' then do
      let (_, cs) ← field 2 0 23 cs
      let cs ← expect ':' cs
      let (_, cs) ← field 2 0 59 cs
      return cs
    else some (c :: cs)

/-- A date, a time, or a date and a time with an optional zone. -/
def isMoment (cs : List Char) : Bool :=
  match date cs with
  | some [] => true
  | some (c :: rest) =>
    (c == 'T' || c == 't' || c == ' ') &&
      ((time rest).bind zone).any (·.isEmpty)
  | none => (time cs).any (·.isEmpty)

def word? (cs : List Char) : Option Value :=
  if cs == "true".toList then some (.bool true)
  else if cs == "false".toList then some (.bool false)
  else if isMoment cs then some (.moment (String.ofList cs))
  else (integer? cs).or (float? cs)

def isWordChar (c : Char) : Bool :=
  c.isAlphanum || c == '+' || c == '-' || c == '_' || c == '.' || c == ':'

/-- A scalar without quotes. A date may be followed by a blank and its time. -/
def readWord (cs : List Char) : Option (Value × List Char) :=
  let word := cs.takeWhile isWordChar
  let rest := cs.dropWhile isWordChar
  match date word, rest with
  | some [], ' ' :: c :: after =>
    if isDigit c then
      let tail := (c :: after).takeWhile isWordChar
      (word? (word ++ ' ' :: tail)).map fun v => (v, (c :: after).dropWhile isWordChar)
    else (word? word).map fun v => (v, rest)
  | _, _ => (word? word).map fun v => (v, rest)

end Passbook.Toml
