import Passbook.Document.Value

/-! # Assembling the tables of a TOML document

A table can be defined by a header, element by element by double headers, or piecemeal by dotted
names. No name is given a value twice, no table is defined by two headers, and dotted names add
only to tables that dotted names made. Values written in one piece are closed.
-/
namespace Passbook.Toml

inductive Item
  | value (v : Value)
  /-- A table: `implicit` until a header defines it, `dotted` if dotted names made it. -/
  | table (implicit dotted : Bool) (entries : List (String × Item))
  /-- The tables of a double header, each with its entries. -/
  | elements (tables : List (List (String × Item)))

abbrev Entries := List (String × Item)

mutual

def Item.toValue : Item → Value
  | .value v => v
  | .table _ _ entries => .table (entryValues entries)
  | .elements tables => .list (tableValues tables)

def entryValues : List (String × Item) → List (String × Value)
  | [] => []
  | (name, item) :: rest => (name, item.toValue) :: entryValues rest

def tableValues : List (List (String × Item)) → List Value
  | [] => []
  | entries :: rest => .table (entryValues entries) :: tableValues rest

end

namespace Entries

def find? (name : String) : Entries → Option Item
  | [] => none
  | e :: rest => if e.1 = name then some e.2 else find? name rest

def set (name : String) (item : Item) : Entries → Entries
  | [] => []
  | e :: rest => if e.1 = name then (name, item) :: rest else e :: set name item rest

def modifyLast (f : Entries → Option Entries) : List Entries → Option (List Entries)
  | [] => none
  | [t] => (f t).map ([·])
  | t :: ts => (modifyLast f ts).map (t :: ·)

/-- Gives a value to a dotted name. `dotted` says how the table at hand was made, `below` whether
dots led to it. -/
def assign (dotted below : Bool) (es : Entries) : List String → Value → Option Entries
  | [], _ => none
  | [name], v =>
    if below && !dotted then none
    else
      match find? name es with
      | some _ => none
      | none => some (es ++ [(name, .value v)])
  | name :: path, v =>
    match find? name es with
    | none => (assign true true [] path v).map fun sub => es ++ [(name, .table true true sub)]
    | some (.table implicit dots sub) =>
      if implicit then
        (assign dots true sub path v).map fun sub => set name (.table implicit dots sub) es
      else none
    | some (.elements tables) =>
      (modifyLast (fun t => assign false true t path v) tables).map fun ts => set name (.elements ts) es
    | some (.value _) => none

/-- Applies a change to the table that a header names; tables on the way are made as needed. -/
def within (f : Entries → Option Entries) (es : Entries) : List String → Option Entries
  | [] => f es
  | name :: path =>
    match find? name es with
    | none => (within f [] path).map fun sub => es ++ [(name, .table true false sub)]
    | some (.table implicit dotted sub) =>
      (within f sub path).map fun sub => set name (.table implicit dotted sub) es
    | some (.elements tables) =>
      (modifyLast (fun t => within f t path) tables).map fun ts => set name (.elements ts) es
    | some (.value _) => none

def openTable (name : String) (es : Entries) : Option Entries :=
  match find? name es with
  | none => some (es ++ [(name, .table false false [])])
  | some (.table true false sub) => some (set name (.table false false sub) es)
  | some _ => none

def openElement (name : String) (es : Entries) : Option Entries :=
  match find? name es with
  | none => some (es ++ [(name, .elements [[]])])
  | some (.elements tables) => some (set name (.elements (tables ++ [[]])) es)
  | some _ => none

end Entries

inductive Statement
  | header (path : List String)
  | elementHeader (path : List String)
  | assignment (path : List String) (v : Value)

/-- What has been read of a document: its tables, and the header that is in force. -/
structure Assembly where
  entries : Entries := []
  current : List String := []

namespace Assembly

def atParent (f : String → Entries → Option Entries) (es : Entries) (path : List String) :
    Option Entries :=
  match path.getLast? with
  | none => none
  | some name => es.within (f name) path.dropLast

def step (a : Assembly) : Statement → Option Assembly
  | .header path => (atParent Entries.openTable a.entries path).map (⟨·, path⟩)
  | .elementHeader path => (atParent Entries.openElement a.entries path).map (⟨·, path⟩)
  | .assignment path v =>
    (a.entries.within (fun es => es.assign false false path v) a.current).map fun es =>
      { a with entries := es }

def ofStatements (statements : List Statement) : Option Assembly := statements.foldlM step {}

def toValue (a : Assembly) : Value := .table (entryValues a.entries)

end Assembly

def inlineTable (assignments : List (List String × Value)) : Option Value :=
  (assignments.foldlM (fun es a => Entries.assign false false es a.1 a.2) []).map fun es =>
    .table (entryValues es)

end Passbook.Toml
