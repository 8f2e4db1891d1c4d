import Passbook.Decimal.Reader
import Passbook.Document.Mismatch

/-! # Decoding documents

A decoder turns a value of a document into what it stands for, or says why it cannot. Records
are decoded entry by entry: a table in the order of its names, a list in the order in which the
fields are declared. The first entry that fails ends it; fields that a table lacks are reported
only after all its entries were good.
-/
namespace Passbook

open Document Text

abbrev Decoder (α : Type) := Dialect → Value → Except Mismatch α

namespace Decode

def text : Decoder String
  | _, .text s => .ok s
  | _, v => .error (.wrongType v "a string")

def flag : Decoder Bool
  | _, .bool b => .ok b
  | _, v => .error (.wrongType v "a boolean")

def listOf {α : Type} (decode : Decoder α) : Decoder (List α)
  | d, .list items => items.mapM (decode d)
  | _, v => .error (.wrongType v "a sequence")

def optional {α : Type} (decode : Decoder α) : Decoder (Option α)
  | _, .null => .ok none
  | d, v => (decode d v).map some

def decimalKind : String := "a Decimal type representing a fixed-point number"

def isNarrow (n : Int) : Bool := inSigned 64 n || inUnsigned 64 n

/-- A decimal is a text, an integer, or a float taken by its shortest digits. -/
def decimal : Decoder Decimal
  | _, .text s =>
    match Decimal.read s with
    | .ok x => .ok x
    | .error _ => .error (.wrongValue (.text s) decimalKind)
  | _, .integer n =>
    match if isNarrow n then Decimal.ofParts? n 0 else none with
    | some x => .ok x
    | none => .error (.wrongType (.integer n) decimalKind)
  | _, .float x =>
    match Decimal.read x.plain with
    | .ok d => .ok d
    | .error _ => .error (.wrongValue (.float x) decimalKind)
  | _, v => .error (.wrongType v decimalKind)

def instant : Decoder Instant
  | _, .text s => (Instant.read s).mapError .badInstant
  | _, v => .error (.wrongType v "an RFC 3339 formatted date and time string")

def named {α : Type} (ofName? : String → Option α) (names : List String) (s : String) :
    Except Mismatch α :=
  match ofName? s with
  | some a => .ok a
  | none => .error (.unknownVariant s names)

def noContent : Value → Except Mismatch Unit
  | .table [] => .ok ()
  | .list [] => .ok ()
  | .table es => .error (.notEmpty (.table es))
  | .list vs => .error (.notEmpty (.list vs))
  | v => .error (.notTable v)

/-- A name, or a table with the name as its only entry and nothing in it. -/
def choice {α : Type} (ofName? : String → Option α) (names : List String) : Decoder α
  | _, .text s => named ofName? names s
  | .toml, .table [(name, v)] => do
    let a ← named ofName? names name
    noContent v
    return a
  | .toml, .table es => .error (.notOneEntry es.length)
  | .toml, _ => .error .notTextOrTable
  | .json, .table [(name, v)] => do
    let a ← named ofName? names name
    match v with
    | .null => return a
    | v => .error (.wrongType v "unit")
  | .json, .table es => .error (.wrongValue (.table es) "map with a single key")
  | .json, v => .error (.wrongType v "string or map")

def least : List (String × Int) → Option Int
  | [] => none
  | e :: es => some (es.foldl (fun a b => if b.1 < a.1 then b else a) e).2

mutual

/-- The first integer of more than 64 bits in a value. -/
def wide? : Value → Option Int
  | .integer n => if isNarrow n then none else some n
  | .list items => wideItem? items
  | .table entries => least (wideEntries entries)
  | _ => none

def wideItem? : List Value → Option Int
  | [] => none
  | v :: vs =>
    match wide? v with
    | some n => some n
    | none => wideItem? vs

def wideEntries : List (String × Value) → List (String × Int)
  | [] => []
  | (name, v) :: es =>
    match wide? v with
    | some n => (name, n) :: wideEntries es
    | none => wideEntries es

end

/-- Some values are set aside before it is known what they stand for. Integers of more than 64 bits
cannot be. -/
def setAside (v : Value) : Except Mismatch Unit :=
  match wide? v with
  | some n => .error (.wrongType (.integer n) "any value")
  | none => .ok ()

def elements (n : Nat) : String := digitsText n ++ if n = 1 then " element" else " elements"

/-- A record's name, its fields, each with whether a list may end before it, and what an entry
adds to the draft of a record. -/
structure Layout (δ : Type) where
  title : String
  fields : List (String × Bool)
  visit : Dialect → String → Value → δ → Except Mismatch δ

namespace Layout

variable {δ : Type}

def readList (l : Layout δ) (d : Dialect) (index : Nat) (draft : δ) :
    List (String × Bool) → List Value → Except Mismatch δ
  | [], _ => .ok draft
  | (_, true) :: fields, [] => l.readList d (index + 1) draft fields []
  | (_, false) :: _, [] =>
    .error (.wrongLength index ("struct " ++ l.title ++ " with " ++ elements l.fields.length))
  | (name, _) :: fields, v :: vs => do
    let draft ← l.visit d name v draft
    l.readList d (index + 1) draft fields vs

def readTable (l : Layout δ) (d : Dialect) (draft : δ) (entries : List (String × Value)) :
    Except Mismatch δ :=
  (Value.sorted entries).foldlM (fun draft e => l.visit d e.1 e.2 draft) draft

/-- Elements beyond the fields are an error in one format and ignored in the other. -/
def read (l : Layout δ) (empty : δ) : Dialect → Value → Except Mismatch δ
  | d, .table entries => l.readTable d empty entries
  | _, .moment _ => .ok empty
  | d, .list items => do
    let draft ← l.readList d 0 empty l.fields items
    if d = .json ∧ l.fields.length < items.length then
      .error (.wrongLength items.length "fewer elements in array")
    else .ok draft
  | _, v => .error (.wrongType v ("struct " ++ l.title))

end Layout

def required {α : Type} (name : String) : Option α → Except Mismatch α
  | some a => .ok a
  | none => .error (.missingField name)

end Decode

end Passbook
