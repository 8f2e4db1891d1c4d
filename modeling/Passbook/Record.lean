import Passbook.Document.Decode
import Passbook.Statement

/-! # Operations and transactions as documents

An operation is a table with its kind under `type` and its amount under `amount`, or a list of
the two. The kind is settled before the amount is looked at. Amounts are written as text, so
that their scale is kept.
-/
namespace Passbook

open Document Decode

/-- What kind of operation a document asks for. -/
inductive OperationKind
  | deposit
  | withdraw
  | reportBalance
deriving DecidableEq, Repr

namespace OperationKind

def names : List String := ["deposit", "withdraw", "report_balance"]

def ofName? (s : String) : Option OperationKind :=
  if s = "deposit" then some .deposit
  else if s = "withdraw" then some .withdraw
  else if s = "report_balance" then some .reportBalance
  else none

/-- The kind as messages name it. -/
def title : OperationKind → String
  | .deposit => "Operation::Deposit"
  | .withdraw => "Operation::Withdraw"
  | .reportBalance => "Operation::ReportBalance"

/-- The operation of the kind with an amount, unless it takes none. -/
def withAmount? : OperationKind → Option (Decimal → Operation)
  | .deposit => some .deposit
  | .withdraw => some .withdraw
  | .reportBalance => none

/-- A name. In one format a large integer is taken for a position among the names. -/
def ofValue : Decoder OperationKind
  | _, .text s => named ofName? names s
  | .toml, .integer n =>
    if inUnsigned 64 n && !inSigned 64 n then .error (.wrongValue (.integer n) "variant index 0 <= i < 3")
    else .error (.wrongType (.integer n) "variant identifier")
  | _, v => .error (.wrongType v "variant identifier")

end OperationKind

namespace Operation

/-- The kind in a table; all other entries are set aside. -/
def kindIn (d : Dialect) (entries : List (String × Value)) : Except Mismatch (Option OperationKind) :=
  (Value.sorted entries).foldlM (fun kind e =>
    if e.1 = "type" then (OperationKind.ofValue d e.2).map some
    else (setAside e.2).map fun _ => kind) none

def ofTable (d : Dialect) (entries : List (String × Value)) : Except Mismatch Operation := do
  let kind ← required "type" (← kindIn d entries)
  match kind.withAmount? with
  | none => return .reportBalance
  | some build =>
    let v ← required "amount" (Value.find? "amount" entries)
    return build (← decimal d v)

def ofList (d : Dialect) : List Value → Except Mismatch Operation
  | [] => .error (.missingField "type")
  | v :: rest => do
    let kind ← OperationKind.ofValue d v
    rest.forM setAside
    match kind.withAmount?, rest with
    | none, [] => return .reportBalance
    | none, rest => .error (.wrongLength rest.length (elements 0 ++ " in sequence"))
    | some _, [] => .error (.wrongLength 0 ("struct variant " ++ kind.title ++ " with " ++ elements 1))
    | some build, v :: more =>
      let amount ← decimal d v
      if more.isEmpty then return build amount
      else .error (.wrongLength rest.length (elements 1 ++ " in sequence"))

def ofValue : Decoder Operation
  | d, .table entries => ofTable d entries
  | _, .moment _ => .error (.missingField "type")
  | d, .list items => ofList d items
  | _, v => .error (.wrongType v "internally tagged enum Operation")

def toValue (op : Operation) : Value :=
  match op.amount? with
  | some amount => .table [("type", .text op.tag), ("amount", .text amount.text)]
  | none => .table [("type", .text op.tag)]

end Operation

def Policy.ofValue : Decoder Policy := choice Policy.ofName? Policy.names

def StatementFormat.ofValue : Decoder StatementFormat :=
  choice StatementFormat.ofName? StatementFormat.names

def TransactionKind.ofValue : Decoder TransactionKind :=
  choice TransactionKind.ofName? TransactionKind.names

namespace Transaction

structure Draft where
  timestamp : Option Instant := none
  kind : Option TransactionKind := none
  amount : Option Decimal := none
  balanceAfter : Option Decimal := none

def layout : Layout Draft where
  title := "Transaction"
  fields := [("timestamp", false), ("kind", false), ("amount", false), ("balance_after", false)]
  visit d name v draft :=
    match name with
    | "timestamp" => (instant d v).map fun x => { draft with timestamp := some x }
    | "kind" => (TransactionKind.ofValue d v).map fun x => { draft with kind := some x }
    | "amount" => (decimal d v).map fun x => { draft with amount := some x }
    | "balance_after" => (decimal d v).map fun x => { draft with balanceAfter := some x }
    | _ => .ok draft

def ofValue : Decoder Transaction := fun d v => do
  let draft ← layout.read {} d v
  return {
    timestamp := ← required "timestamp" draft.timestamp
    kind := ← required "kind" draft.kind
    amount := ← required "amount" draft.amount
    balanceAfter := ← required "balance_after" draft.balanceAfter }

end Transaction

end Passbook
