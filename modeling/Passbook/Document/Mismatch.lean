import Passbook.Document.Value
import Passbook.Instant
import Passbook.Text.Quoted

/-! # Documents with the wrong content

A document that is well formed may still not hold what a reader expects. The cause is recorded
here; its wording depends on the format the document was written in only for numbers.
-/
namespace Passbook.Document

open Text

inductive Dialect
  | json
  | toml
deriving DecidableEq, Repr

inductive Mismatch
  | wrongType (found : Value) (expected : String)
  | wrongValue (found : Value) (expected : String)
  | missingField (name : String)
  | unknownVariant (name : String) (known : List String)
  | wrongLength (count : Nat) (expected : String)
  | noAlternative
  | notTextOrTable
  | notOneEntry (count : Nat)
  | notEmpty (found : Value)
  | notTable (found : Value)
  | badInstant (cause : Instant.ReadError)

def ticked (s : String) : String := "`" ++ s ++ "`"

/-- Names to choose from: two are joined by "or", more are listed. -/
def choices : List String → String
  | [a] => ticked a
  | [a, b] => ticked a ++ " or " ++ ticked b
  | names => "one of " ++ join ", " (names.map ticked)

/-- Floats are written out in one format and with an exponent in the other. -/
def floatText : Dialect → Binary64 → String
  | .json, x => x.compact
  | .toml, x => x.pointed

/-- Integers outside 64 bits are named after the width they need. -/
def integerText (n : Int) : String :=
  let name := "integer " ++ ticked (intText n)
  if inSigned 64 n || inUnsigned 64 n then name
  else if inSigned 128 n then name ++ " as i128"
  else name ++ " as u128"

def found (d : Dialect) : Value → String
  | .null => "null"
  | .bool b => "boolean " ++ ticked (if b then "true" else "false")
  | .integer n => integerText n
  | .float x => "floating point " ++ ticked (floatText d x)
  | .text s => "string " ++ quote s
  | .moment _ => "map"
  | .list _ => "sequence"
  | .table _ => "map"

def kindName : Value → String
  | .null => "null"
  | .bool _ => "boolean"
  | .integer _ => "integer"
  | .float _ => "float"
  | .text _ => "string"
  | .moment _ => "datetime"
  | .list _ => "array"
  | .table _ => "table"

def Mismatch.message (d : Dialect) : Mismatch → String
  | .wrongType v expected => "invalid type: " ++ found d v ++ ", expected " ++ expected
  | .wrongValue v expected => "invalid value: " ++ found d v ++ ", expected " ++ expected
  | .missingField name => "missing field " ++ ticked name
  | .unknownVariant name known =>
    "unknown variant " ++ ticked name ++ ", expected " ++ choices known
  | .wrongLength count expected =>
    "invalid length " ++ digitsText count ++ ", expected " ++ expected
  | .noAlternative => "data did not match any variant of untagged enum Raw"
  | .notTextOrTable => "wanted string or table"
  | .notOneEntry count =>
    if count = 0 then "wanted exactly 1 element, found 0 elements"
    else "wanted exactly 1 element, more than 1 element"
  | .notEmpty v => "expected empty " ++ kindName v
  | .notTable v => "expected table, found " ++ kindName v
  | .badInstant cause => cause.message

end Passbook.Document
