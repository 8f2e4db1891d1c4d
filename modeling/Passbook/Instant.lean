import Passbook.Power
import Passbook.Text.Blank
import Passbook.Text.Digits

/-! # Instants

A moment in universal time, to the nanosecond. Its text is the date and time of RFC 3339; the
fraction has no, three, six or nine digits, the fewest that are exact. Reading is more liberal
than writing: blanks may surround the numbers, and the offset may be given without a colon.
-/
namespace Passbook

open Text

/-- Seconds since the start of 1970. During a leap second the nanoseconds run past a second. -/
structure Instant where
  seconds : Int
  nanos : Nat := 0
deriving DecidableEq, Repr, Inhabited

/-- The readings of a clock: the n-th entry of a history carries the n-th reading. -/
abbrev Clock := Nat → Instant

structure Day where
  year : Int
  month : Nat
  day : Nat
deriving DecidableEq, Repr

namespace Day

def isLeapYear (y : Int) : Bool := y % 4 == 0 && (y % 100 != 0 || y % 400 == 0)

def daysIn (year : Int) (month : Nat) : Nat :=
  if month == 2 then if isLeapYear year then 29 else 28
  else if month == 4 || month == 6 || month == 9 || month == 11 then 30
  else 31

/-- Years are counted from March, in eras of 400 years. -/
def toDays (d : Day) : Int :=
  let y := if d.month ≤ 2 then d.year - 1 else d.year
  let era := y / 400
  let yoe := y - era * 400
  let shifted : Int := if 2 < d.month then (d.month : Int) - 3 else d.month + 9
  let doy := (153 * shifted + 2) / 5 + d.day - 1
  let doe := yoe * 365 + yoe / 4 - yoe / 100 + doy
  era * 146097 + doe - 719468

def ofDays (days : Int) : Day :=
  let z := days + 719468
  let era := z / 146097
  let doe := z - era * 146097
  let yoe := (doe - doe / 1460 + doe / 36524 - doe / 146096) / 365
  let doy := doe - (365 * yoe + yoe / 4 - yoe / 100)
  let mp := (5 * doy + 2) / 153
  let month := if mp < 10 then mp + 3 else mp - 9
  let year := yoe + era * 400
  { year := if month ≤ 2 then year + 1 else year
    month := month.toNat
    day := (doy - (153 * mp + 2) / 5 + 1).toNat }

end Day

namespace Instant

/-- Four digits, or a sign and at least four digits outside the years 0 to 9999. -/
def yearChars (y : Int) : List Char :=
  if 0 ≤ y && y ≤ 9999 then padded 4 y.toNat
  else (if y < 0 then '-' else '+') :: padded 4 y.natAbs

def fractionChars (nanos : Nat) : List Char :=
  if nanos = 0 then []
  else if nanos % 1000000 = 0 then '.' :: padded 3 (nanos / 1000000)
  else if nanos % 1000 = 0 then '.' :: padded 6 (nanos / 1000)
  else '.' :: padded 9 nanos

def stampChars (fraction : Nat → List Char) (t : Instant) : List Char :=
  let day := Day.ofDays (t.seconds / 86400)
  let clock := (t.seconds % 86400).toNat
  let second := clock % 60 + t.nanos / 1000000000
  yearChars day.year ++ '-' :: padded 2 day.month ++ '-' :: padded 2 day.day ++
    'T' :: padded 2 (clock / 3600) ++ ':' :: padded 2 (clock / 60 % 60) ++ ':' :: padded 2 second ++
    fraction (t.nanos % 1000000000)

def textZ (t : Instant) : String := String.ofList (stampChars fractionChars t ++ ['Z'])

def textOffset (t : Instant) : String := String.ofList (stampChars fractionChars t) ++ "+00:00"

def textMicros (t : Instant) : String :=
  String.ofList (stampChars (fun n => '.' :: padded 6 (n / 1000)) t ++ ['Z'])

inductive ReadError
  | tooShort
  | invalid
  | outOfRange
  | tooLong
deriving DecidableEq, Repr

def ReadError.message : ReadError → String
  | .tooShort => "premature end of input"
  | .invalid => "input contains invalid characters"
  | .outOfRange => "input is out of range"
  | .tooLong => "trailing input"

abbrev Reading := StateT (List Char) (Except ReadError)

def gap : Reading Unit := modify trimStart

/-- One to `width` digits, after blanks. -/
def number (width : Nat) : Reading Nat := do
  gap
  let cs ← get
  let ds := (cs.take width).takeWhile isDigit
  if cs.isEmpty then throw .tooShort
  if ds.isEmpty then throw .invalid
  set (cs.drop ds.length)
  return digitsValue ds

def bounded (width low high : Nat) : Reading Nat := do
  let n ← number width
  if n < low || high < n then throw .outOfRange
  return n

/-- A year: four digits at most, or any number of them after a sign. -/
def signedYear : Reading Int := do
  gap
  let cs ← get
  match cs with
  | '-' :: rest => set rest; let n ← unsigned; return -n
  | '+' :: rest => set rest; unsigned
  | _ => return (← number 4)
where
  unsigned : Reading Int := do
    let cs ← get
    let ds := cs.takeWhile isDigit
    if cs.isEmpty then throw .tooShort
    if ds.isEmpty then throw .invalid
    if pow2 63 ≤ digitsValue ds then throw .outOfRange
    set (cs.drop ds.length)
    if pow2 31 ≤ digitsValue ds then throw .outOfRange
    return digitsValue ds

def mark (c : Char) : Reading Unit := do
  gap
  match ← get with
  | [] => throw .tooShort
  | x :: rest => if x == c then set rest else throw .invalid

/-- An optional fraction of a second in nanoseconds; digits past the ninth are dropped. -/
def fraction : Reading Nat := do
  match ← get with
  | '.' :: rest =>
    let ds := rest.takeWhile isDigit
    if rest.isEmpty then throw .tooShort
    if ds.isEmpty then throw .invalid
    set (rest.drop ds.length)
    let ds := ds.take 9
    return digitsValue ds * pow10 (9 - ds.length)
  | _ => return 0

def separator : Reading Unit := do
  match ← get with
  | [] => throw .tooShort
  | c :: rest => if c == 'T' || c == 't' || c == ' ' then set rest else throw .invalid

def twoDigits : List Char → Except ReadError (Char × Char)
  | a :: b :: _ => .ok (a, b)
  | [a] => if 0x80 ≤ a.toNat then .ok (a, a) else .error .tooShort
  | [] => .error .tooShort

def offsetSize : Reading Int := do
  let (h1, h2) ← twoDigits (← get)
  if !(isDigit h1 && isDigit h2) then throw .invalid
  modify (·.drop 2)
  modify (·.dropWhile fun c => c == ':' || isBlank c)
  let (m1, m2) ← twoDigits (← get)
  if !(isDigit m1 && isDigit m2) then throw .invalid
  if '5' < m1 then throw .outOfRange
  modify (·.drop 2)
  return digitsValue [h1, h2] * 3600 + digitsValue [m1, m2] * 60

def offset : Reading Int := do
  gap
  match ← get with
  | [] => throw .tooShort
  | c :: rest =>
    if lower (c :: rest.take 2) == ['u', 't', 'c'] then do set (rest.drop 2); return 0
    else if c == 'Z' || c == 'z' then do set rest; return 0
    else if c == '+' then do set rest; offsetSize
    else if c == '-' || c.toNat == 0x2212 then do set rest; return -(← offsetSize)
    else throw .invalid

/-- The years that have a calendar. -/
def calendarYears (y : Int) : Bool := -262143 ≤ y && y ≤ 262142

def reading : Reading Instant := do
  let year ← signedYear
  mark '-'
  let month ← bounded 2 1 12
  mark '-'
  let day ← bounded 2 1 31
  separator
  let hour ← bounded 2 0 23
  mark ':'
  let minute ← bounded 2 0 59
  mark ':'
  let second ← bounded 2 0 60
  let nanos ← fraction
  let shift ← offset
  gap
  if !(← get).isEmpty then throw .tooLong
  if !calendarYears year || Day.daysIn year month < day then throw .outOfRange
  if 86400 ≤ shift.natAbs then throw .outOfRange
  let clock := hour * 3600 + minute * 60 + min second 59
  return {
    seconds := Day.toDays ⟨year, month, day⟩ * 86400 + clock - shift
    nanos := nanos + (second - min second 59) * 1000000000 }

def read (s : String) : Except ReadError Instant := (reading.run s.toList).map (·.1)

end Instant

end Passbook
