import Passbook.CommandLine.Options

/-! # Reading the command line

Arguments are read from left to right. A flag that takes a value waits for it: the value is
attached to the flag or is the next argument. A flag's value is taken in only when the next known
flag or the end of the line is reached, so a stray argument in between is reported first.
-/
namespace Passbook.CommandLine

open Text

inductive Flag
  | config
  | owner
  | accountNumber
  | initialBalance
  | op
  | onInsufficientFunds
  | statementDir
  | statementFormat
  | verbose
  | jsonLogs
  | help
deriving DecidableEq, Repr

namespace Flag

def all : List Flag :=
  [.config, .owner, .accountNumber, .initialBalance, .op, .onInsufficientFunds, .statementDir,
    .statementFormat, .verbose, .jsonLogs, .help]

def long : Flag → String
  | .config => "config"
  | .owner => "owner"
  | .accountNumber => "account-number"
  | .initialBalance => "initial-balance"
  | .op => "op"
  | .onInsufficientFunds => "on-insufficient-funds"
  | .statementDir => "statement-dir"
  | .statementFormat => "statement-format"
  | .verbose => "verbose"
  | .jsonLogs => "json-logs"
  | .help => "help"

def short? : Flag → Option Char
  | .config => some 'c'
  | .verbose => some 'v'
  | .help => some 'h'
  | _ => none

def value? : Flag → Option String
  | .config => some "CONFIG"
  | .owner => some "OWNER"
  | .accountNumber => some "ACCOUNT_NUMBER"
  | .initialBalance => some "INITIAL_BALANCE"
  | .op => some "OPERATION"
  | .onInsufficientFunds => some "ON_INSUFFICIENT_FUNDS"
  | .statementDir => some "STATEMENT_DIR"
  | .statementFormat => some "STATEMENT_FORMAT"
  | .verbose | .jsonLogs | .help => none

/-- May the value begin with a hyphen when it is an argument of its own? -/
def takesHyphens : Flag → Bool
  | .initialBalance | .op => true
  | _ => false

def label (f : Flag) : String :=
  match f.value? with
  | some name => "--" ++ f.long ++ " <" ++ name ++ ">"
  | none => "--" ++ f.long

def ofLong? (name : String) : Option Flag := all.find? (·.long == name)

def ofShort? (c : Char) : Option Flag := all.find? (·.short? == some c)

end Flag

inductive ValueFault
  | decimal (cause : Decimal.ReadError)
  | setting (cause : BankError)

def ValueFault.message : ValueFault → String
  | .decimal cause => cause.message
  | .setting cause => cause.message

/-- Why reading the command line stopped. Asking for help is one reason. -/
inductive Stop
  | help
  | unknownArgument (text : String)
  | valueMissing (flag : Flag)
  | repeated (flag : Flag)
  | valueUnwanted (flag : Flag) (value : String)
  | valueInvalid (flag : Flag) (value : String) (fault : ValueFault)

namespace Stop

def about : String := "Run deposits, withdrawals and balance reports against a single account"

def message : Stop → String
  | .help => about
  | .unknownArgument text => "error: unexpected argument '" ++ text ++ "' found"
  | .valueMissing flag => "error: a value is required for '" ++ flag.label ++ "' but none was supplied"
  | .repeated flag => "error: the argument '" ++ flag.label ++ "' cannot be used multiple times"
  | .valueUnwanted flag value =>
    "error: unexpected value '" ++ value ++ "' for '" ++ flag.label ++ "' found; no more were expected"
  | .valueInvalid flag value fault =>
    "error: invalid value '" ++ value ++ "' for '" ++ flag.label ++ "': " ++ fault.message

def exitCode : Stop → Nat
  | .help => 0
  | _ => 2

end Stop

structure Given where
  config : Option String := none
  owner : Option String := none
  accountNumber : Option String := none
  initialBalance : Option Decimal := none
  operations : List Operation := []
  onInsufficientFunds : Option Policy := none
  statementDir : Option String := none
  statementFormat : List StatementFormat := []
  verbose : Bool := false
  jsonLogs : Bool := false

namespace Given

/-- Has the flag been given already, when it may be given only once? -/
def isRepeat (g : Given) : Flag → Bool
  | .config => g.config.isSome
  | .owner => g.owner.isSome
  | .accountNumber => g.accountNumber.isSome
  | .initialBalance => g.initialBalance.isSome
  | .onInsufficientFunds => g.onInsufficientFunds.isSome
  | .statementDir => g.statementDir.isSome
  | .verbose => g.verbose
  | .jsonLogs => g.jsonLogs
  | .op | .statementFormat | .help => false

def readAs {α : Type} (flag : Flag) (read : String → Except BankError α) (value : String) :
    Except Stop α :=
  match read value with
  | .ok a => .ok a
  | .error e => .error (.valueInvalid flag value (.setting e))

def readDecimal (flag : Flag) (value : String) : Except Stop Decimal :=
  match Decimal.read value with
  | .ok d => .ok d
  | .error e => .error (.valueInvalid flag value (.decimal e))

def pieces (value : String) : List String := (value.toList.splitOn ',').map String.ofList

def setValue (g : Given) (flag : Flag) (value : String) : Except Stop Given :=
  match flag with
  | .config => .ok { g with config := some value }
  | .owner => .ok { g with owner := some value }
  | .accountNumber => .ok { g with accountNumber := some value }
  | .initialBalance => (readDecimal flag value).map fun x => { g with initialBalance := some x }
  | .op => (readAs flag Operation.read value).map fun x => { g with operations := g.operations ++ [x] }
  | .onInsufficientFunds =>
    (readAs flag Policy.read value).map fun x => { g with onInsufficientFunds := some x }
  | .statementDir => .ok { g with statementDir := some value }
  | .statementFormat =>
    ((pieces value).mapM (readAs flag StatementFormat.read)).map fun x =>
      { g with statementFormat := g.statementFormat ++ x }
  | .verbose | .jsonLogs | .help => .ok g

/-- A flag with its value; a second one is reported before its value is read. -/
def take (g : Given) (flag : Flag) (value : String) : Except Stop Given :=
  if g.isRepeat flag then .error (.repeated flag) else g.setValue flag value

def switch (g : Given) (flag : Flag) : Except Stop Given :=
  if g.isRepeat flag then .error (.repeated flag)
  else
    match flag with
    | .verbose => .ok { g with verbose := true }
    | .jsonLogs => .ok { g with jsonLogs := true }
    | .help => .error .help
    | _ => .ok g

def options (g : Given) : Options where
  config := g.config
  owner := g.owner
  accountNumber := g.accountNumber
  initialBalance := g.initialBalance.getD .zero
  operations := g.operations
  onInsufficientFunds := g.onInsufficientFunds.getD .abort
  statementDir := g.statementDir
  statementFormat := if g.statementFormat.isEmpty then [.csv] else g.statementFormat
  verbose := g.verbose
  jsonLogs := g.jsonLogs

end Given

/-- A flag whose value is still to come, or has come but is not taken in yet. -/
structure Pending where
  flag : Flag
  value : Option String := none

structure State where
  given : Given := {}
  pending : Option Pending := none
  flagsEnded : Bool := false

namespace State

def awaiting (s : State) : Option Flag :=
  match s.pending with
  | some ⟨flag, none⟩ => some flag
  | _ => none

def takesAnything (s : State) : Bool := s.awaiting.any (·.takesHyphens)

def settle (s : State) : Except Stop Given :=
  match s.pending with
  | none => .ok s.given
  | some ⟨flag, none⟩ => .error (.valueMissing flag)
  | some ⟨flag, some value⟩ => s.given.take flag value

def openFlag (s : State) (flag : Flag) (attached : Option String) : Except Stop State := do
  let given ← s.settle
  match attached with
  | some value => return { given := ← given.take flag value }
  | none => return { given := given, pending := some ⟨flag, none⟩ }

def switchFlag (s : State) (flag : Flag) : Except Stop State := do
  let given ← s.settle
  return { given := ← given.switch flag }

def longArgument (s : State) (body : List Char) : Except Stop State :=
  let (name, attached) : List Char × Option String :=
    match splitFirst '=' body with
    | some (name, value) => (name, some (String.ofList value))
    | none => (body, none)
  match Flag.ofLong? (String.ofList name) with
  | none => .error (.unknownArgument ("--" ++ String.ofList name))
  | some flag =>
    if flag.value?.isSome then s.openFlag flag attached
    else
      match attached with
      | some value => .error (.valueUnwanted flag value)
      | none => s.switchFlag flag

/-- Letters after one hyphen; the rest of the argument after a flag that takes a value is the
value, with or without an equals sign before it. -/
def shortArgument (s : State) : List Char → Except Stop State
  | [] => .ok s
  | c :: cs =>
    match Flag.ofShort? c with
    | none => .error (.unknownArgument (String.ofList ['-', c]))
    | some flag =>
      if flag.value?.isSome then
        match cs with
        | [] => s.openFlag flag none
        | '=' :: value => s.openFlag flag (some (String.ofList value))
        | value => s.openFlag flag (some (String.ofList value))
      else do
        let s ← s.switchFlag flag
        s.shortArgument cs

/-- An argument that is no flag: the awaited value, or one too many. -/
def word (s : State) (arg : String) : Except Stop State :=
  match s.awaiting with
  | some flag => .ok { s with pending := some ⟨flag, some arg⟩ }
  | none => .error (.unknownArgument arg)

def step (s : State) (arg : String) : Except Stop State :=
  if s.flagsEnded then .error (.unknownArgument arg)
  else if s.takesAnything then s.word arg
  else
    match arg.toList with
    | ['-', '-'] => .ok { s with flagsEnded := true }
    | '-' :: '-' :: body => s.longArgument body
    | ['-'] => s.word arg
    | '-' :: letters => s.shortArgument letters
    | _ => s.word arg

end State

def read (args : List String) : Except Stop Options := do
  let s ← args.foldlM State.step {}
  return (← s.settle).options

end Passbook.CommandLine
