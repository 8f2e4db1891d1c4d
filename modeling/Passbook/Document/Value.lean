import Passbook.Binary64.Shortest

/-! # Documents

A document is a value as data formats know it: scalars, lists, and tables from names to values.
A table keeps its entries in the order of the text; readers of documents visit them in the order
of their names.
-/
namespace Passbook

inductive Value
  | null
  | bool (b : Bool)
  | integer (n : Int)
  | float (x : Binary64)
  | text (s : String)
  /-- A date, a time of day or both, as written. -/
  | moment (s : String)
  | list (items : List Value)
  | table (entries : List (String × Value))
deriving Repr, Inhabited

namespace Value

/-- Sets a name in a list of entries: a later value takes the place of an earlier one. -/
def put (name : String) (v : Value) : List (String × Value) → List (String × Value)
  | [] => [(name, v)]
  | e :: rest => if e.1 = name then (name, v) :: rest else e :: put name v rest

def find? (name : String) : List (String × Value) → Option Value
  | [] => none
  | e :: rest => if e.1 = name then some e.2 else find? name rest

def sorted (entries : List (String × Value)) : List (String × Value) :=
  entries.mergeSort (fun a b => a.1 ≤ b.1)

def get? (v : Value) (name : String) : Option Value :=
  match v with
  | .table entries => find? name entries
  | _ => none

end Value

end Passbook
