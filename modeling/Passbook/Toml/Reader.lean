import Passbook.Toml.Scalar
import Passbook.Toml.Table

/-! # Reading TOML documents

A document is a sequence of lines: headers, assignments of values to dotted names, comments.
Lines end with a line feed, before which a carriage return may stand; control characters other
than the tab are nowhere allowed. Lists and tables written in one piece may span lines, may have
a last comma, and may be nested 80 levels deep.
-/
namespace Passbook.Toml

open Text

/-- Characters that may stand in comments and quotes. -/
def isPlain (c : Char) : Bool := c == '\t' || (0x20 ≤ c.toNat && c.toNat != 0x7F)

def isGap (c : Char) : Bool := c == ' ' || c == '\t'

def skipGap (cs : List Char) : List Char := cs.dropWhile isGap

def lineBreak? : List Char → Option (List Char)
  | '\n' :: cs => some cs
  | '\r' :: '\n' :: cs => some cs
  | _ => none

def skipComment : List Char → List Char
  | '#' :: cs => cs.dropWhile isPlain
  | cs => cs

def skipLines (comment : Bool) : List Char → List Char
  | [] => []
  | '\r' :: '\n' :: cs => skipLines false cs
  | c :: cs =>
    if c == '\n' then skipLines false cs
    else if comment then if isPlain c then skipLines true cs else c :: cs
    else if isGap c then skipLines false cs
    else if c == '#' then skipLines true cs
    else c :: cs

def codePoint (digits : List Char) (width : Nat) : Option Char :=
  if digits.length == width && digits.all (fun c => (hexValue c).isSome) then
    let n := valueIn 16 digits
    if n.isValidChar then some (Char.ofNat n) else none
  else none

def escaped : List Char → Option (Char × List Char)
  | [] => none
  | c :: cs =>
    if c == 'b' then some (Char.ofNat 0x8, cs)
    else if c == 't' then some ('\t', cs)
    else if c == 'n' then some ('\n', cs)
    else if c == 'f' then some (Char.ofNat 0xC, cs)
    else if c == 'r' then some ('\r', cs)
    else if c == 'e' then some (Char.ofNat 0x1B, cs)
    else if c == '"' then some ('"', cs)
    else if c == '\\' then some ('\\', cs)
    else if c == 'x' then (codePoint (cs.take 2) 2).map (·, cs.drop 2)
    else if c == 'u' then (codePoint (cs.take 4) 4).map (·, cs.drop 4)
    else if c == 'U' then (codePoint (cs.take 8) 8).map (·, cs.drop 8)
    else none

def basic : Nat → List Char → Option (List Char × List Char)
  | 0, _ => none
  | _ + 1, [] => none
  | fuel + 1, c :: cs =>
    if c == '"' then some ([], cs)
    else if c == '\\' then do
      let (x, cs) ← escaped cs
      let (xs, cs) ← basic fuel cs
      return (x :: xs, cs)
    else if isPlain c then do
      let (xs, cs) ← basic fuel cs
      return (c :: xs, cs)
    else none

def literal (cs : List Char) : Option (List Char × List Char) :=
  let body := cs.takeWhile fun c => c != '\'' && isPlain c
  match cs.drop body.length with
  | '\'' :: rest => some (body, rest)
  | _ => none

/-- Three quotes end a text over lines; up to two more belong to it. -/
def closing (mark : Char) (cs : List Char) : Option (List Char × List Char) :=
  let count := (cs.takeWhile (· == mark)).length
  let extra := min (count - 3) 2
  if 3 ≤ count then some (List.replicate extra mark, cs.drop (3 + extra)) else none

/-- A backslash at the end of a line takes the line break and all following blanks with it. -/
def continued (cs : List Char) : Option (List Char) :=
  (lineBreak? (skipGap cs)).map dropSpace
where
  dropSpace : List Char → List Char
    | [] => []
    | '\r' :: '\n' :: cs => dropSpace cs
    | c :: cs => if isGap c || c == '\n' then dropSpace cs else c :: cs

def block (mark : Char) : Nat → List Char → Option (List Char × List Char)
  | 0, _ => none
  | _ + 1, [] => none
  | fuel + 1, c :: cs =>
    match (if c == mark then closing mark (c :: cs) else none) with
    | some r => some r
    | none =>
      if c == '\\' && mark == '"' then
        match continued cs with
        | some cs => block mark fuel cs
        | none => do
          let (x, cs) ← escaped cs
          let (xs, cs) ← block mark fuel cs
          return (x :: xs, cs)
      else if c == '\r' then
        match cs with
        | '\n' :: cs => do
          let (xs, cs) ← block mark fuel cs
          return ('\r' :: '\n' :: xs, cs)
        | _ => none
      else if isPlain c || c == '\n' then do
        let (xs, cs) ← block mark fuel cs
        return (c :: xs, cs)
      else none

/-- A line break right after the opening quotes is dropped. -/
def readBlock (mark : Char) (cs : List Char) : Option (List Char × List Char) :=
  let cs := (lineBreak? cs).getD cs
  block mark (cs.length + 1) cs

def readText : List Char → Option (List Char × List Char)
  | '"' :: '"' :: '"' :: cs => readBlock '"' cs
  | '\'' :: '\'' :: '\'' :: cs => readBlock '\'' cs
  | '"' :: cs => basic (cs.length + 1) cs
  | '\'' :: cs => literal cs
  | _ => none

def isNameChar (c : Char) : Bool := c.isAlphanum || c == '_' || c == '-'

def readName (cs : List Char) : Option (String × List Char) :=
  match cs with
  | '"' :: rest => (basic (rest.length + 1) rest).map fun r => (String.ofList r.1, r.2)
  | '\'' :: rest => (literal rest).map fun r => (String.ofList r.1, r.2)
  | _ =>
    let name := cs.takeWhile isNameChar
    if name.isEmpty then none else some (String.ofList name, cs.dropWhile isNameChar)

def readPath : Nat → List Char → Option (List String × List Char)
  | 0, _ => none
  | fuel + 1, cs => do
    let (name, cs) ← readName (skipGap cs)
    match skipGap cs with
    | '.' :: cs =>
      let (names, cs) ← readPath fuel cs
      return (name :: names, cs)
    | cs => return ([name], cs)

abbrev ValueReader := List Char → Option (Value × List Char)

def readItems (read : ValueReader) : Nat → List Char → Option (List Value × List Char)
  | 0, _ => none
  | fuel + 1, cs =>
    match skipLines false cs with
    | ']' :: cs => some ([], cs)
    | cs => do
      let (v, cs) ← read cs
      match skipLines false cs with
      | ',' :: cs =>
        let (vs, cs) ← readItems read fuel cs
        return (v :: vs, cs)
      | ']' :: cs => return ([v], cs)
      | _ => none

def readAssignment (read : ValueReader) (cs : List Char) :
    Option ((List String × Value) × List Char) := do
  let (path, cs) ← readPath (cs.length + 1) cs
  match cs with
  | '=' :: cs =>
    let (v, cs) ← read (skipGap cs)
    return ((path, v), cs)
  | _ => none

def readAssignments (read : ValueReader) :
    Nat → List Char → Option (List (List String × Value) × List Char)
  | 0, _ => none
  | fuel + 1, cs =>
    match skipLines false cs with
    | '}' :: cs => some ([], cs)
    | cs => do
      let (a, cs) ← readAssignment read cs
      match skipLines false cs with
      | ',' :: cs =>
        let (rest, cs) ← readAssignments read fuel cs
        return (a :: rest, cs)
      | '}' :: cs => return ([a], cs)
      | _ => none

/-- A value nested at most `depth` levels deep. -/
def readValue : Nat → List Char → Option (Value × List Char)
  | depth, cs =>
    match cs with
    | [] => none
    | c :: rest =>
      if c == '"' || c == '\'' then
        (readText cs).map fun r => (.text (String.ofList r.1), r.2)
      else if c == '[' then
        match depth with
        | 0 => none
        | depth + 1 =>
          (readItems (readValue depth) (rest.length + 1) rest).map fun r => (.list r.1, r.2)
      else if c == '{' then
        match depth with
        | 0 => none
        | depth + 1 => do
          let (assignments, rest) ← readAssignments (readValue depth) (rest.length + 1) rest
          let v ← inlineTable assignments
          return (v, rest)
      else readWord cs

def maxDepth : Nat := 80

def readHeader (cs : List Char) : Option (Statement × List Char) :=
  match cs with
  | '[' :: '[' :: cs => do
    let (path, cs) ← readPath (cs.length + 1) cs
    match cs with
    | ']' :: ']' :: cs => return (.elementHeader path, cs)
    | _ => none
  | '[' :: cs => do
    let (path, cs) ← readPath (cs.length + 1) cs
    match cs with
    | ']' :: cs => return (.header path, cs)
    | _ => none
  | _ => none

/-- A header, an assignment, or nothing before a comment or the end of the line. -/
def readStatement (cs : List Char) : Option (Option Statement × List Char) :=
  match cs with
  | [] => some (none, [])
  | c :: _ =>
    if c == '[' then (readHeader cs).map fun r => (some r.1, r.2)
    else if c == '#' || (lineBreak? cs).isSome then some (none, cs)
    else (readAssignment (readValue maxDepth) cs).map fun r =>
      (some (.assignment r.1.1 r.1.2), r.2)

def readLines : Nat → List Char → Option (List Statement)
  | 0, _ => none
  | fuel + 1, cs => do
    let (statement, cs) ← readStatement (skipGap cs)
    match skipComment (skipGap cs) with
    | [] => return statement.toList
    | cs =>
      let cs ← lineBreak? cs
      let rest ← readLines fuel cs
      return statement.toList ++ rest

/-- A byte order mark in front of the document is dropped. -/
def dropMark : List Char → List Char
  | c :: cs => if c.toNat == 0xFEFF then cs else c :: cs
  | [] => []

def readChars (cs : List Char) : Option Value := do
  let cs := dropMark cs
  let statements ← readLines (cs.length + 1) cs
  let assembly ← Assembly.ofStatements statements
  return assembly.toValue

def read (s : String) : Option Value := readChars s.toList

end Passbook.Toml
