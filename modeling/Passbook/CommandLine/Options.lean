import Passbook.Plan
import Passbook.Settings
import Passbook.Text.Quoted

/-! # Options of the command line

The options name a session file, or describe the session themselves. With a session file all
other options apart from those on logging are without effect.
-/
namespace Passbook

open Text

structure Options where
  config : Option String := none
  owner : Option String := none
  accountNumber : Option String := none
  initialBalance : Decimal := .zero
  operations : List Operation := []
  onInsufficientFunds : Policy := .abort
  statementDir : Option String := none
  statementFormat : List StatementFormat := [.csv]
  verbose : Bool := false
  jsonLogs : Bool := false
deriving DecidableEq, Repr

namespace Options

def operationLabel (index : Nat) : String := "--op #" ++ digitsText (index + 1)

def checkStatement : Option String → Except BankError Unit
  | none => .ok ()
  | some dir => Settings.checkPath "statement_dir" dir

/-- Checks the options; good ones may still earn warnings. -/
def validate (o : Options) : Except BankError (List Event) :=
  match o.config with
  | some path => (Settings.checkPath "config" path).map fun _ => []
  | none => do
    let owner ← Settings.required "owner" o.owner
    Settings.checkFilled "owner" owner
    let number ← Settings.required "account_number" o.accountNumber
    Settings.checkFilled "account_number" number
    checkStatement o.statementDir
    return Settings.depositWarnings operationLabel o.operations

def plan (o : Options) : Except BankError Plan := do
  let owner ← Settings.required "owner" o.owner
  let number ← Settings.required "account_number" o.accountNumber
  return {
    owner := owner
    number := number
    initialBalance := o.initialBalance
    operations := o.operations
    policy := o.onInsufficientFunds
    statement := o.statementDir.map fun dir => ⟨dir, o.statementFormat⟩ }

def optionText : Option String → String
  | none => "None"
  | some s => "Some(" ++ quote s ++ ")"

def boolText (b : Bool) : String := if b then "true" else "false"

def listText (texts : List String) : String := "[" ++ join ", " texts ++ "]"

/-- A name followed by named values in braces. -/
def structText (name : String) (fields : List (String × String)) : String :=
  name ++ " \x7b " ++ join ", " (fields.map fun f => f.1 ++ ": " ++ f.2) ++ " \x7d"

def operationText : Operation → String
  | .deposit amount => structText "Deposit" [("amount", amount.text)]
  | .withdraw amount => structText "Withdraw" [("amount", amount.text)]
  | .reportBalance => "ReportBalance"

def policyText : Policy → String
  | .abort => "Abort"
  | .proceed => "Continue"

def formatText : StatementFormat → String
  | .csv => "Csv"
  | .json => "Json"

def description (o : Options) : String :=
  structText "CliConfig" [
    ("config", optionText o.config),
    ("owner", optionText o.owner),
    ("account_number", optionText o.accountNumber),
    ("initial_balance", o.initialBalance.text),
    ("operations", listText (o.operations.map operationText)),
    ("on_insufficient_funds", policyText o.onInsufficientFunds),
    ("statement_dir", optionText o.statementDir),
    ("statement_format", listText (o.statementFormat.map formatText)),
    ("verbose", boolText o.verbose),
    ("json_logs", boolText o.jsonLogs)]

end Options

end Passbook
