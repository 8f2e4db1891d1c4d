import Passbook.Error
import Passbook.Text.Blank

/-! # Operations

An operation deposits an amount, withdraws one, or reports the balance. As text it is a name,
followed for the first two by a colon and the amount. Reading ignores blanks around both parts
and the letter case of the name.
-/
namespace Passbook

open Text

inductive Operation
  | deposit (amount : Decimal)
  | withdraw (amount : Decimal)
  | reportBalance
deriving DecidableEq, Repr

namespace Operation

def text : Operation → String
  | .deposit amount => "deposit:" ++ amount.text
  | .withdraw amount => "withdraw:" ++ amount.text
  | .reportBalance => "balance"

/-- The name that documents use. -/
def tag : Operation → String
  | .deposit _ => "deposit"
  | .withdraw _ => "withdraw"
  | .reportBalance => "report_balance"

def amount? : Operation → Option Decimal
  | .deposit amount => some amount
  | .withdraw amount => some amount
  | .reportBalance => none

def isReport : Operation → Bool
  | .reportBalance => true
  | _ => false

/-- The amount of the operation with this name. -/
def readAmount (name : List Char) (raw : Option (List Char)) : Except OperationFault Decimal :=
  match raw with
  | none | some [] => .error (.amountMissing (String.ofList name))
  | some cs =>
    match Decimal.readChars cs with
    | .ok d => .ok d
    | .error e => .error (.amountInvalid (String.ofList cs) e)

/-- The operation with this name and the text after the colon, if there is one. -/
def ofParts (name : List Char) (raw : Option (List Char)) : Except OperationFault Operation :=
  let known := String.ofList (lower name)
  if known = "deposit" then (readAmount name raw).map .deposit
  else if known = "withdraw" then (readAmount name raw).map .withdraw
  else if known = "balance" ∨ known = "report_balance" then
    match raw with
    | none => .ok .reportBalance
    | some _ => .error .amountUnwanted
  else .error (.unknownName known)

def readChars (cs : List Char) : Except OperationFault Operation :=
  let cs := trim cs
  match splitFirst ':' cs with
  | some (name, amount) => ofParts (trim name) (some (trim amount))
  | none => ofParts cs none

/-- The operation that a text stands for; the failure quotes the text as given. -/
def read (s : String) : Except BankError Operation :=
  match readChars s.toList with
  | .ok op => .ok op
  | .error fault => .error (.invalidOperation s fault)

end Operation

/-- What becomes of a session when a withdrawal exceeds the balance. -/
inductive Policy
  | abort
  | proceed
deriving DecidableEq, Repr, Inhabited

namespace Policy

def name : Policy → String
  | .abort => "abort"
  | .proceed => "continue"

def names : List String := ["abort", "continue"]

def ofName? (s : String) : Option Policy :=
  if s = "abort" then some .abort else if s = "continue" then some .proceed else none

def read (s : String) : Except BankError Policy :=
  match ofName? (keyword s) with
  | some p => .ok p
  | none => .error (.invalidSetting "on_insufficient_funds" (keyword s) .unknownPolicy)

end Policy

/-- The formats of a statement. -/
inductive StatementFormat
  | csv
  | json
deriving DecidableEq, Repr

namespace StatementFormat

def name : StatementFormat → String
  | .csv => "csv"
  | .json => "json"

def names : List String := ["csv", "json"]

def fileName : StatementFormat → String
  | .csv => "statement.csv"
  | .json => "statement.json"

def ofName? (s : String) : Option StatementFormat :=
  if s = "csv" then some .csv else if s = "json" then some .json else none

def read (s : String) : Except BankError StatementFormat :=
  match ofName? (keyword s) with
  | some f => .ok f
  | none => .error (.invalidSetting "statement.formats" (keyword s) (.unknownFormat names))

end StatementFormat

end Passbook
