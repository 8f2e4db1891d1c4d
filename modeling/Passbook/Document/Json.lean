import Passbook.Document.Value

/-! # JSON text

Writing escapes the quote, the backslash and the control characters below U+0020; everything
else stands for itself. The indented form puts every item on a line of its own, two spaces per
level. Reading accepts nesting up to 127 levels; of two entries with one name the later counts.
A number is an integer when it is written as one and fits into 64 bits, signed or unsigned.
-/
namespace Passbook.Json

open Text

def escape (c : Char) : List Char :=
  if c = '"' then ['\\', '"']
  else if c = '\\' then ['\\', '\\']
  else if c = '\n' then ['\\', 'n']
  else if c = '\r' then ['\\', 'r']
  else if c = '\t' then ['\\', 't']
  else if c.toNat = 0x8 then ['\\', 'b']
  else if c.toNat = 0xC then ['\\', 'f']
  else if c.toNat < 0x20 then
    ['\\', 'u', '0', '0', hexChar (c.toNat / 16), hexChar (c.toNat % 16)]
  else [c]

def quoted (s : String) : List Char := '"' :: (s.toList.flatMap escape ++ ['"'])

def scalar : Value → List Char
  | .null => "null".toList
  | .bool b => (if b then "true" else "false").toList
  | .integer n => (intText n).toList
  | .float x => x.compact.toList
  | .text s => quoted s
  | .moment s => quoted s
  | .list _ => []
  | .table _ => []

mutual

def compactChars : Value → List Char
  | .list items => '[' :: (compactItems items ++ [']'])
  | .table entries => '{' :: (compactEntries entries ++ ['}'])
  | v => scalar v

def compactItems : List Value → List Char
  | [] => []
  | [v] => compactChars v
  | v :: rest => compactChars v ++ ',' :: compactItems rest

def compactEntries : List (String × Value) → List Char
  | [] => []
  | [(k, v)] => quoted k ++ ':' :: compactChars v
  | (k, v) :: rest => quoted k ++ ':' :: (compactChars v ++ ',' :: compactEntries rest)

end

def compact (v : Value) : String := String.ofList (compactChars v)

def newline (level : Nat) : List Char := '\n' :: List.replicate (2 * level) ' '

mutual

/-- The indented form of a value that stands at a level. -/
def indentedChars (level : Nat) : Value → List Char
  | .list [] => ['[', ']']
  | .list (v :: rest) => '[' :: (indentedItems (level + 1) (v :: rest) ++ newline level ++ [']'])
  | .table [] => ['{', '}']
  | .table (e :: rest) =>
    '{' :: (indentedEntries (level + 1) (e :: rest) ++ newline level ++ ['}'])
  | v => scalar v

def indentedItems (level : Nat) : List Value → List Char
  | [] => []
  | [v] => newline level ++ indentedChars level v
  | v :: rest => newline level ++ indentedChars level v ++ ',' :: indentedItems level rest

def indentedEntries (level : Nat) : List (String × Value) → List Char
  | [] => []
  | [(k, v)] => newline level ++ quoted k ++ ':' :: ' ' :: indentedChars level v
  | (k, v) :: rest =>
    newline level ++ quoted k ++ ':' :: ' ' :: (indentedChars level v ++ ',' :: indentedEntries level rest)

end

def indented (v : Value) : String := String.ofList (indentedChars 0 v)

def isGap (c : Char) : Bool := c == ' ' || c == '\t' || c == '\n' || c == '\r'

def skipGap (cs : List Char) : List Char := cs.dropWhile isGap

def hex4 (a b c d : Char) : Option Nat := do
  let a ← hexValue a
  let b ← hexValue b
  let c ← hexValue c
  let d ← hexValue d
  return ((a * 16 + b) * 16 + c) * 16 + d

def unescape (c : Char) : Option Char :=
  if c = '"' then some '"'
  else if c = '\\' then some '\\'
  else if c = '/' then some '/'
  else if c = 'b' then some (Char.ofNat 0x8)
  else if c = 'f' then some (Char.ofNat 0xC)
  else if c = 'n' then some '\n'
  else if c = 'r' then some '\r'
  else if c = 't' then some '\t'
  else none

def charOf (n : Nat) : Option Char := if n.isValidChar then some (Char.ofNat n) else none

def pairOf (high low : Nat) : Option Char :=
  if 0xD800 ≤ high && high < 0xDC00 && 0xDC00 ≤ low && low < 0xE000 then
    charOf (0x10000 + (high - 0xD800) * 0x400 + (low - 0xDC00))
  else none

/-- The rest of a quoted text, after its opening quote, and what follows its closing quote. -/
def readString : List Char → Option (List Char × List Char)
  | [] => none
  | '"' :: cs => some ([], cs)
  | '\\' :: 'u' :: a :: b :: c :: d :: cs => do
    let n ← hex4 a b c d
    match charOf n with
    | some x =>
      let r ← readString cs
      return (x :: r.1, r.2)
    | none =>
      match cs with
      | '\\' :: 'u' :: e :: f :: g :: h :: cs => do
        let low ← hex4 e f g h
        let x ← pairOf n low
        let r ← readString cs
        return (x :: r.1, r.2)
      | _ => none
  | '\\' :: c :: cs => do
    let x ← unescape c
    let r ← readString cs
    return (x :: r.1, r.2)
  | c :: cs =>
    if c.toNat < 0x20 || c = '\\' then none
    else do
      let r ← readString cs
      return (c :: r.1, r.2)

structure Number where
  negative : Bool
  whole : List Char
  fraction : List Char
  exponent : Option Int

def readExponent (cs : List Char) : Option (Int × List Char) :=
  let sign := cs.head? == some '-'
  let rest := if cs.head? == some '-' || cs.head? == some '+' then cs.drop 1 else cs
  let ds := rest.takeWhile isDigit
  if ds.isEmpty then none
  else some (if sign then -(digitsValue ds : Int) else digitsValue ds, rest.dropWhile isDigit)

def readFraction : List Char → Option (List Char × List Char)
  | '.' :: cs =>
    let ds := cs.takeWhile isDigit
    if ds.isEmpty then none else some (ds, cs.dropWhile isDigit)
  | cs => some ([], cs)

def readNumber (cs : List Char) : Option (Number × List Char) := do
  let negative := cs.head? == some '-'
  let cs := if negative then cs.drop 1 else cs
  let whole := cs.takeWhile isDigit
  if whole.isEmpty || (whole.head? == some '0' && 1 < whole.length) then none
  let (fraction, cs) ← readFraction (cs.dropWhile isDigit)
  match cs with
  | 'e' :: rest | 'E' :: rest =>
    let (exponent, rest) ← readExponent rest
    return (⟨negative, whole, fraction, some exponent⟩, rest)
  | _ => return (⟨negative, whole, fraction, none⟩, cs)

/-- The leading digits that fit into 64 bits, and how many are left over. -/
def leading (n : Nat) : List Char → Nat × Nat
  | [] => (n, 0)
  | c :: cs =>
    if n * 10 + digitValue c < pow2 64 then leading (n * 10 + digitValue c) cs else (n, cs.length + 1)

/-- Divides by `10 ^ 308` as long as the power of ten is out of reach. -/
def scaleDown (x : Magnitude) (e : Nat) : Nat → Option Magnitude
  | 0 => some .zero
  | fuel + 1 =>
    if x.m = 0 then some x
    else
      match (Magnitude.ofNat (pow10 (min e 308))).bind x.div with
      | none => none
      | some y => if e ≤ 308 then some y else scaleDown y (e - 308) fuel

/-- The significant digits are rounded once, and scaled by one rounded power of ten. -/
def Number.toFloat (x : Number) : Option Binary64 := do
  let (n, dropped) := leading 0 x.whole
  let (m, unread) := leading n x.fraction
  let e : Int := x.exponent.getD 0 + dropped - ((x.fraction.length : Int) - unread)
  let f ← Magnitude.ofNat m
  let r ← match e with
    | .ofNat k =>
      if m = 0 then some f
      else if 308 < k then none
      else (Magnitude.ofNat (pow10 k)).bind f.mul
    | .negSucc k => scaleDown f (k + 1) 4
  return .finite x.negative r

def Number.toValue (x : Number) : Option Value :=
  let n : Int := if x.negative then -(digitsValue x.whole : Int) else digitsValue x.whole
  if x.fraction.isEmpty && x.exponent.isNone && (inSigned 64 n || inUnsigned 64 n) &&
      !(x.negative && n == 0) then
    some (.integer n)
  else x.toFloat.map .float

def readItems (read : List Char → Option (Value × List Char)) :
    Nat → List Char → Option (List Value × List Char)
  | 0, _ => none
  | fuel + 1, cs => do
    let (v, cs) ← read cs
    match skipGap cs with
    | ',' :: cs =>
      let (rest, cs) ← readItems read fuel cs
      return (v :: rest, cs)
    | ']' :: cs => return ([v], cs)
    | _ => none

def readEntries (read : List Char → Option (Value × List Char)) :
    Nat → List Char → Option (List (String × Value) × List Char)
  | 0, _ => none
  | fuel + 1, cs =>
    match skipGap cs with
    | '"' :: cs => do
      let (key, cs) ← readString cs
      match skipGap cs with
      | ':' :: cs =>
        let (v, cs) ← read cs
        match skipGap cs with
        | ',' :: cs =>
          let (rest, cs) ← readEntries read fuel cs
          return ((String.ofList key, v) :: rest, cs)
        | '}' :: cs => return ([(String.ofList key, v)], cs)
        | _ => none
      | _ => none
    | _ => none

/-- Entries with the later of two equal names. -/
def latest (entries : List (String × Value)) : List (String × Value) :=
  entries.foldl (fun acc e => Value.put e.1 e.2 acc) []

def readWord (cs : List Char) : Option (Value × List Char) :=
  match cs with
  | 'n' :: 'u' :: 'l' :: 'l' :: cs => some (.null, cs)
  | 't' :: 'r' :: 'u' :: 'e' :: cs => some (.bool true, cs)
  | 'f' :: 'a' :: 'l' :: 's' :: 'e' :: cs => some (.bool false, cs)
  | _ => none

/-- A value nested at most `depth` levels deep. -/
def readValue : Nat → List Char → Option (Value × List Char)
  | depth, cs =>
    match skipGap cs with
    | '"' :: cs => (readString cs).map fun r => (.text (String.ofList r.1), r.2)
    | '[' :: cs =>
      match depth with
      | 0 => none
      | depth + 1 =>
        match skipGap cs with
        | ']' :: cs => some (.list [], cs)
        | cs => (readItems (readValue depth) (cs.length + 1) cs).map fun r => (.list r.1, r.2)
    | '{' :: cs =>
      match depth with
      | 0 => none
      | depth + 1 =>
        match skipGap cs with
        | '}' :: cs => some (.table [], cs)
        | cs =>
          (readEntries (readValue depth) (cs.length + 1) cs).map fun r => (.table (latest r.1), r.2)
    | c :: cs =>
      if c == '-' || isDigit c then do
        let (n, cs) ← readNumber (c :: cs)
        let v ← n.toValue
        return (v, cs)
      else readWord (c :: cs)
    | [] => none

def maxDepth : Nat := 127

def read (s : String) : Option Value :=
  match readValue maxDepth s.toList with
  | some (v, rest) => if (skipGap rest).isEmpty then some v else none
  | none => none

end Passbook.Json
