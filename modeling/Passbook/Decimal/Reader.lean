import Passbook.Decimal.Basic
import Passbook.Rounding
import Passbook.Text.Digits

/-! # Reading decimals

A plain decimal is an optional sign, digits with at most one point among them, and underscores
anywhere after the first digit. Digits after the point that no longer fit are rounded away, a
half going up. A text that is not plain may carry an exponent, which moves the point.
-/
namespace Passbook.Decimal

open Text

inductive ReadError
  | empty
  | twoPoints
  | leadingUnderscore
  | unknownCharacter
  | noDigits
  | tooManyDigits
  | overflowAfterRounding
  | badExponent
  | scaleTooLarge (scale : Nat)
  | tooLarge
deriving DecidableEq, Repr

def ReadError.message : ReadError → String
  | .empty => "Invalid decimal: empty"
  | .twoPoints => "Invalid decimal: two decimal points"
  | .leadingUnderscore => "Invalid decimal: must start lead with a number"
  | .unknownCharacter => "Invalid decimal: unknown character"
  | .noDigits => "Invalid decimal: no digits found"
  | .tooManyDigits => "Invalid decimal: overflow from too many digits"
  | .overflowAfterRounding => "Invalid decimal: overflow from mantissa after rounding"
  | .badExponent => "Failed to parse"
  | .scaleTooLarge scale =>
    "Scale exceeds the maximum precision allowed: " ++ digitsText scale ++ " > 28"
  | .tooLarge => "Number exceeds maximum value that can be represented."

structure Scan where
  mantissa : Nat := 0
  scale : Nat := 0
  point : Bool := false
  digit : Bool := false
deriving DecidableEq, Repr

/-- From here on an underscore at the place of the rounding digit is passed over. -/
def wideMantissa : Nat := pow2 64 / 10

def roundsUp (c : Char) : Except ReadError Bool :=
  if isDigit c then .ok (5 ≤ digitValue c)
  else if c == '_' then .ok false
  else if c == '.' then .error .twoPoints
  else .error .unknownCharacter

/-- What follows the rounding digit has no effect, but it has to be digits and underscores. -/
def checkTail : List Char → Except ReadError Unit
  | [] => .ok ()
  | c :: cs =>
    if isDigit c || c == '_' then checkTail cs
    else if c == '.' then .error .twoPoints
    else .error .unknownCharacter

/-- One more in the last place. A mantissa that outgrows its limit gives up one digit. -/
def Scan.roundUp (s : Scan) : Except ReadError Scan :=
  if s.mantissa + 1 < limit then .ok { s with mantissa := s.mantissa + 1 }
  else
    match s.scale with
    | 0 => .error .overflowAfterRounding
    | scale + 1 => .ok { s with mantissa := (s.mantissa + 1 + 4) / 10, scale := scale }

def Scan.finish (s : Scan) (cs : List Char) : Except ReadError Scan :=
  let cs := if wideMantissa ≤ s.mantissa then cs.dropWhile (· == '_') else cs
  match cs with
  | [] => .ok s
  | c :: rest =>
    match roundsUp c with
    | .error e => .error e
    | .ok up =>
      match (if up then s.roundUp else .ok s) with
      | .error e => .error e
      | .ok s =>
        match checkTail rest with
        | .error e => .error e
        | .ok () => .ok s

def Scan.run (s : Scan) : List Char → Except ReadError Scan
  | [] => if s.digit then .ok s else .error .noDigits
  | c :: cs =>
    if s.point && s.scale == maxScale then s.finish (c :: cs)
    else if isDigit c then
      let mantissa := s.mantissa * 10 + digitValue c
      if mantissa < limit then
        Scan.run { s with mantissa, scale := if s.point then s.scale + 1 else s.scale, digit := true } cs
      else if s.point then s.finish (c :: cs)
      else .error .tooManyDigits
    else if c == '.' then
      if s.point then .error .twoPoints else Scan.run { s with point := true } cs
    else if c == '_' then
      if s.digit then Scan.run s cs else .error .leadingUnderscore
    else .error .unknownCharacter

def Scan.toDecimal (negative : Bool) (s : Scan) : Except ReadError Decimal :=
  match ofParts? (if negative then -(s.mantissa : Int) else s.mantissa) s.scale with
  | some d => .ok d
  | none => .error .tooLarge

def readPlain : List Char → Except ReadError Decimal
  | [] => .error .empty
  | c :: cs =>
    if c == '-' then (Scan.run {} cs).bind (Scan.toDecimal true)
    else if c == '+' then (Scan.run {} cs).bind (Scan.toDecimal false)
    else (Scan.run {} (c :: cs)).bind (Scan.toDecimal false)

/-- An optional plus sign and digits, below `2 ^ 32`. -/
def readExponent (cs : List Char) : Except ReadError Nat :=
  let ds := if cs.head? == some '+' then cs.drop 1 else cs
  if !ds.isEmpty && ds.all isDigit && digitsValue ds < pow2 32 then .ok (digitsValue ds)
  else .error .badExponent

/-- Division by `10 ^ e`: the scale grows, and digits beyond the largest scale are rounded off
before it does, a half going up. -/
def scaleDown (d : Decimal) (e : Nat) : Except ReadError Decimal :=
  if maxScale < e then .error (.scaleTooLarge e)
  else
    let parts : Int × Nat :=
      if maxScale < d.scale + e then
        (dropDigits .away d.coefficient (d.scale + e - maxScale), maxScale)
      else (d.coefficient, d.scale + e)
    match ofParts? parts.1 parts.2 with
    | some d => .ok d
    | none => .error .tooLarge

def scaleUp (d : Decimal) (e : Nat) : Except ReadError Decimal :=
  let parts? : Except ReadError (Int × Nat) :=
    if e ≤ d.scale then .ok (d.coefficient, d.scale - e)
    else if maxScale < e then .error (.scaleTooLarge e)
    else .ok (d.coefficient * pow10 (e - d.scale), 0)
  match parts? with
  | .error error => .error error
  | .ok parts =>
    match ofParts? parts.1 parts.2 with
    | some d => .ok d
    | none => .error .tooLarge

def readScientific (left exponent : List Char) : Except ReadError Decimal :=
  match readPlain left with
  | .error e => .error e
  | .ok d =>
    match exponent with
    | '-' :: cs => (readExponent cs).bind d.scaleDown
    | cs => (readExponent cs).bind d.scaleUp

def readChars (cs : List Char) : Except ReadError Decimal :=
  match readPlain cs with
  | .ok d => .ok d
  | .error e =>
    if cs.any isExponentMark then
      readScientific (cs.takeWhile (!isExponentMark ·)) ((cs.dropWhile (!isExponentMark ·)).drop 1)
    else .error e

def read (s : String) : Except ReadError Decimal := readChars s.toList

end Passbook.Decimal
