import Passbook.Account
import Passbook.FileTree

/-! # Statements

A statement lists an account's history, as comma-separated rows under a heading or as a JSON
document. Amounts are written exactly; the balance column of the rows and the balance of the
document are currency text.
-/
namespace Passbook

open Text

namespace Statement

def heading : List String := ["timestamp", "kind", "amount", "balance_after"]

def row (tx : Transaction) : List String :=
  [tx.timestamp.textOffset, tx.kind.name, tx.amount.text, tx.balanceAfter.currency]

/-- The characters that divide fields and rows, and the quote itself. -/
def isReserved (c : Char) : Bool := c == ',' || c == '"' || c == '\n' || c == '\r'

/-- A field that holds a reserved character stands between quotes, its own quotes doubled. -/
def fieldText (field : String) : String :=
  if field.toList.any isReserved then
    String.ofList ('"' :: field.toList.flatMap (fun c => if c == '"' then ['"', '"'] else [c]) ++ ['"'])
  else field

def rowText (fields : List String) : String := join "," (fields.map fieldText) ++ "\n"

def csv (a : Account) : String := String.join ((heading :: a.history.map row).map rowText)

def entry (tx : Transaction) : Value :=
  .table [
    ("timestamp", .text tx.timestamp.textZ),
    ("kind", .text tx.kind.name),
    ("amount", .text tx.amount.text),
    ("balance_after", .text tx.balanceAfter.text)]

def document (a : Account) : Value :=
  .table [
    ("owner", .text a.owner),
    ("number", .text a.number),
    ("balance", .text a.balance.currency),
    ("transactions", .list (a.history.map entry))]

def json (a : Account) : String := Json.indented (document a)

def render : StatementFormat → Account → String
  | .csv, a => csv a
  | .json, a => json a

structure Exported where
  tree : FileTree
  result : Except BankError (List String)
  events : List Event := []

def saved (path : String) : Event := ⟨.info, "📁 Statement saved to: " ++ path⟩

def storeAs (base : String) (a : Account) (tree : FileTree) (format : StatementFormat) : FileTree.Stored :=
  tree.store base format.fileName (render format a).toUTF8

/-- The outcome when a file is stored first and the rest goes into the tree it leaves; a failure
leaves out the rest. -/
def Exported.after (stored : FileTree.Stored) (rest : FileTree → Exported) : Exported :=
  match stored with
  | ⟨tree, .error e, _⟩ => ⟨tree, .error (.file e), []⟩
  | ⟨tree, .ok path, events⟩ =>
    let rest := rest tree
    { tree := rest.tree
      result := rest.result.map (path :: ·)
      events := events ++ saved path :: rest.events }

/-- Writes one file per format below the base path; the first failure ends it. -/
def exportTo (base : String) (a : Account) (tree : FileTree) : List StatementFormat → Exported
  | [] => ⟨tree, .ok [], []⟩
  | format :: formats => .after (storeAs base a tree format) fun tree => exportTo base a tree formats

end Statement

end Passbook
