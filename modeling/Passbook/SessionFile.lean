import Passbook.Placeholder
import Passbook.Plan
import Passbook.Record
import Passbook.Settings
import Passbook.Toml.Reader

/-! # Session files

A session file describes the account, the operations on it and, if wanted, what happens to
withdrawals above the balance, where statements go and how events are logged. Placeholders are
replaced in its text before it is read.
-/
namespace Passbook

open Document Decode Text

structure AccountSection where
  owner : String
  number : String
  initialBalance : Decimal
deriving DecidableEq, Repr

structure FailureSection where
  onInsufficientFunds : Option Policy
deriving DecidableEq, Repr

/-- Where statements go. The formats are checked only later. -/
structure StatementSection where
  outputPath : String
  formats : List String
deriving DecidableEq, Repr

structure LoggingSection where
  verbose : Option Bool
  json : Option Bool
deriving DecidableEq, Repr

structure SessionFile where
  account : AccountSection
  operations : List Operation
  errorHandling : Option FailureSection
  statement : Option StatementSection
  logging : Option LoggingSection
deriving DecidableEq, Repr

namespace AccountSection

structure Draft where
  owner : Option String := none
  number : Option String := none
  initialBalance : Option Decimal := none

/-- An account number is a text or an integer of 64 bits with sign. -/
def numberOf : Decoder String := fun _ v => do
  setAside v
  match v with
  | .text s => return s
  | .integer n => if inSigned 64 n then return intText n else .error .noAlternative
  | _ => .error .noAlternative

def layout : Layout Draft where
  title := "AccountConfig"
  fields := [("owner", false), ("number", false), ("initial_balance", true)]
  visit d name v draft :=
    match name with
    | "owner" => (text d v).map fun x => { draft with owner := some x }
    | "number" => (numberOf d v).map fun x => { draft with number := some x }
    | "initial_balance" => (decimal d v).map fun x => { draft with initialBalance := some x }
    | _ => .ok draft

def ofValue : Decoder AccountSection := fun d v => do
  let draft ← layout.read {} d v
  return {
    owner := ← required "owner" draft.owner
    number := ← required "number" draft.number
    initialBalance := draft.initialBalance.getD .zero }

def toValue (a : AccountSection) : Value :=
  .table [
    ("owner", .text a.owner),
    ("number", .text a.number),
    ("initial_balance", .text a.initialBalance.text)]

end AccountSection

/-- Null for what is not there. -/
def optionValue {α : Type} (encode : α → Value) : Option α → Value
  | some a => encode a
  | none => .null

namespace FailureSection

def layout : Layout FailureSection where
  title := "ErrorHandlingConfig"
  fields := [("on_insufficient_funds", false)]
  visit d name v draft :=
    match name with
    | "on_insufficient_funds" => (optional Policy.ofValue d v).map fun x => ⟨x⟩
    | _ => .ok draft

def ofValue : Decoder FailureSection := layout.read ⟨none⟩

def toValue (f : FailureSection) : Value :=
  .table [("on_insufficient_funds", optionValue (.text ·.name) f.onInsufficientFunds)]

end FailureSection

namespace StatementSection

structure Draft where
  outputPath : Option String := none
  formats : Option (List String) := none

def layout : Layout Draft where
  title := "StatementConfig"
  fields := [("output_path", false), ("formats", false)]
  visit d name v draft :=
    match name with
    | "output_path" => (text d v).map fun x => { draft with outputPath := some x }
    | "formats" => (listOf text d v).map fun x => { draft with formats := some x }
    | _ => .ok draft

def ofValue : Decoder StatementSection := fun d v => do
  let draft ← layout.read {} d v
  return {
    outputPath := ← required "output_path" draft.outputPath
    formats := ← required "formats" draft.formats }

def toValue (s : StatementSection) : Value :=
  .table [("output_path", .text s.outputPath), ("formats", .list (s.formats.map .text))]

end StatementSection

namespace LoggingSection

def layout : Layout LoggingSection where
  title := "LoggingConfig"
  fields := [("verbose", false), ("json", false)]
  visit d name v draft :=
    match name with
    | "verbose" => (optional flag d v).map fun x => { draft with verbose := x }
    | "json" => (optional flag d v).map fun x => { draft with json := x }
    | _ => .ok draft

def ofValue : Decoder LoggingSection := layout.read ⟨none, none⟩

def toValue (l : LoggingSection) : Value :=
  .table [("verbose", optionValue .bool l.verbose), ("json", optionValue .bool l.json)]

end LoggingSection

namespace SessionFile

structure Draft where
  account : Option AccountSection := none
  operations : List Operation := []
  errorHandling : Option FailureSection := none
  statement : Option StatementSection := none
  logging : Option LoggingSection := none

def layout : Layout Draft where
  title := "TomlConfig"
  fields := [("account", false), ("operations", true), ("error_handling", false),
    ("statement", false), ("logging", false)]
  visit d name v draft :=
    match name with
    | "account" => (AccountSection.ofValue d v).map fun x => { draft with account := some x }
    | "operations" => (listOf Operation.ofValue d v).map fun x => { draft with operations := x }
    | "error_handling" =>
      (optional FailureSection.ofValue d v).map fun x => { draft with errorHandling := x }
    | "statement" => (optional StatementSection.ofValue d v).map fun x => { draft with statement := x }
    | "logging" => (optional LoggingSection.ofValue d v).map fun x => { draft with logging := x }
    | _ => .ok draft

def ofValue : Decoder SessionFile := fun d v => do
  let draft ← layout.read {} d v
  return {
    account := ← required "account" draft.account
    operations := draft.operations
    errorHandling := draft.errorHandling
    statement := draft.statement
    logging := draft.logging }

def toValue (f : SessionFile) : Value :=
  .table [
    ("account", f.account.toValue),
    ("operations", .list (f.operations.map (·.toValue))),
    ("error_handling", optionValue (·.toValue) f.errorHandling),
    ("statement", optionValue (·.toValue) f.statement),
    ("logging", optionValue (·.toValue) f.logging)]

/-- Reads a text whose placeholders have been replaced. -/
def read (s : String) : Except LoadFault SessionFile :=
  match Toml.read s with
  | none => .error .malformed
  | some v => (ofValue .toml v).mapError .mismatch

/-- Reads the text of a session file. -/
def load (env : Environment) (s : String) : Except BankError SessionFile :=
  (read (Placeholder.substitute env s)).mapError (.configValidation "toml_parsing")

/-- Reads a session file of the tree. -/
def loadFile (env : Environment) (tree : FileTree) (path : String) : Except BankError SessionFile :=
  match tree.readText path with
  | .ok s => load env s
  | .error fault => .error (.file fault)

/-- Sessions end at a withdrawal above the balance unless the file says otherwise. -/
def policy (f : SessionFile) : Policy := (f.errorHandling.bind (·.onInsufficientFunds)).getD .abort

def verbose (f : SessionFile) : Bool := (f.logging.bind (·.verbose)).getD false

def jsonLogs (f : SessionFile) : Bool := (f.logging.bind (·.json)).getD false

def checkStatement : Option StatementSection → Except BankError Unit
  | none => .ok ()
  | some s => do
    Settings.checkPath "statement.output_path" s.outputPath
    Settings.checkAllowed "statement.formats" StatementFormat.names s.formats

def operationLabel (index : Nat) : String := "operations[" ++ digitsText index ++ "].amount"

/-- Checks the settings; a good file may still earn warnings. -/
def validate (f : SessionFile) : Except BankError (List Event) := do
  Settings.checkFilled "account.owner" f.account.owner
  Settings.checkFilled "account.number" f.account.number
  checkStatement f.statement
  return Settings.depositWarnings operationLabel f.operations

def statementSettings : Option StatementSection → Except BankError (Option StatementSettings)
  | none => .ok none
  | some s => do
    let formats ← s.formats.mapM StatementFormat.read
    return some ⟨s.outputPath, formats⟩

def plan (f : SessionFile) : Except BankError Plan := do
  let statement ← statementSettings f.statement
  return {
    owner := f.account.owner
    number := f.account.number
    initialBalance := f.account.initialBalance
    operations := f.operations
    policy := f.policy
    statement := statement }

end SessionFile

end Passbook
