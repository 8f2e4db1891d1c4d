import Passbook.Decimal.Printer
import Passbook.Decimal.Reader
import Passbook.Document.Mismatch

/-! # Failures and what to do about them

Every failure of the program is one of a few causes. A cause has a message, a shorter friendly
message, a suggestion, a category and a severity; the severity fixes the exit status.
-/
namespace Passbook

open Text

/-- Why a file could not be read or written. -/
inductive FileFault
  | missing
  | isDirectory
  | notDirectory
  | exists
  | nameTooLong
  | nulInName
  | notUtf8
  | stated (text : String)
deriving DecidableEq, Repr

def FileFault.message : FileFault → String
  | .missing => "No such file or directory (os error 2)"
  | .isDirectory => "Is a directory (os error 21)"
  | .notDirectory => "Not a directory (os error 20)"
  | .exists => "File exists (os error 17)"
  | .nameTooLong => "File name too long (os error 36)"
  | .nulInName => "file name contained an unexpected NUL byte"
  | .notUtf8 => "stream did not contain valid UTF-8"
  | .stated text => text

/-- Why a text is no operation, or an operation cannot be carried out. -/
inductive OperationFault
  | amountMissing (name : String)
  | amountInvalid (raw : String) (cause : Decimal.ReadError)
  | amountUnwanted
  | unknownName (name : String)
  | balanceOverflow
  | stated (text : String)
deriving DecidableEq, Repr

def OperationFault.message : OperationFault → String
  | .amountMissing name => "'" ++ name ++ "' requires an amount"
  | .amountInvalid raw cause => "invalid amount '" ++ raw ++ "': " ++ cause.message
  | .amountUnwanted => "'balance' takes no amount"
  | .unknownName name => "unknown operation '" ++ name ++ "'"
  | .balanceOverflow => "amount overflows balance"
  | .stated text => text

/-- Why the value of a setting is refused. -/
inductive SettingFault
  | emptyPath
  | nulInPath
  | blank
  | notAllowed (allowed : List String)
  | unknownFormat (known : List String)
  | unknownPolicy
  | stated (text : String)
deriving DecidableEq, Repr

def SettingFault.message : SettingFault → String
  | .emptyPath => "Path cannot be empty"
  | .nulInPath => "Path contains null bytes"
  | .blank => "Value cannot be empty or whitespace-only"
  | .notAllowed allowed => "Unsupported value. Allowed values: " ++ join ", " allowed
  | .unknownFormat known => "Unsupported format. Valid formats: " ++ join ", " known
  | .unknownPolicy => "Expected 'abort' or 'continue'"
  | .stated text => text

/-- Why a session file could not be used. -/
inductive LoadFault
  | malformed
  | mismatch (cause : Document.Mismatch)
  | stated (text : String)

def LoadFault.message : LoadFault → String
  | .malformed => "TOML parsing error: <syntax>"
  | .mismatch cause => "TOML parsing error: " ++ cause.message .toml
  | .stated text => text

inductive BankError
  | insufficientFunds (requested available : Decimal)
  | file (fault : FileFault)
  | csv (text : String)
  | serialization (text : String)
  | config (text : String)
  | configValidation (field : String) (fault : LoadFault)
  | invalidSetting (field value : String) (fault : SettingFault)
  | missingSetting (field : String)
  | invalidOperation (input : String) (fault : OperationFault)

inductive Category
  | domain
  | configuration
  | input
  | system
deriving DecidableEq, Repr

def Category.name : Category → String
  | .domain => "Domain"
  | .configuration => "Configuration"
  | .input => "Input"
  | .system => "System"

inductive Severity
  | low
  | medium
  | high
  | critical
deriving DecidableEq, Repr

def Severity.name : Severity → String
  | .low => "Low"
  | .medium => "Medium"
  | .high => "High"
  | .critical => "Critical"

def Severity.exitCode : Severity → Nat
  | .low => 0
  | .medium => 2
  | .high => 1
  | .critical => 3

def Category.severity : Category → Severity
  | .domain => .medium
  | .configuration => .high
  | .input => .high
  | .system => .critical

namespace BankError

def message : BankError → String
  | .insufficientFunds requested available =>
    "Insufficient funds: requested " ++ requested.text ++ ", available " ++ available.text
  | .file fault => "IO error: " ++ fault.message
  | .csv text => "CSV processing error: " ++ text
  | .serialization text => "Serialization error: " ++ text
  | .config text => "Configuration error: " ++ text
  | .configValidation field fault =>
    "Configuration validation failed for '" ++ field ++ "': " ++ fault.message
  | .invalidSetting field value fault =>
    "Invalid value '" ++ value ++ "' for '" ++ field ++ "': " ++ fault.message
  | .missingSetting field => "Missing required configuration: " ++ field
  | .invalidOperation input fault => "Invalid operation '" ++ input ++ "': " ++ fault.message

def category : BankError → Category
  | .insufficientFunds .. => .domain
  | .file _ | .csv _ | .serialization _ => .system
  | .config _ | .configValidation .. | .invalidSetting .. | .missingSetting _ => .configuration
  | .invalidOperation .. => .input

def severity (e : BankError) : Severity := e.category.severity

def exitCode (e : BankError) : Nat := e.severity.exitCode

def isInsufficientFunds : BankError → Bool
  | .insufficientFunds .. => true
  | _ => false

/-- The advice that is shown with the failure. -/
def suggestion : BankError → String
  | .insufficientFunds _ available =>
    "Withdraw at most " ++ available.text ++ " or deposit more funds first"
  | .file _ => "Check that the path exists and that you have permission to write it"
  | .csv _ | .serialization _ =>
    "The statement could not be rendered; re-run with --verbose for details"
  | .config _ | .configValidation .. =>
    "Check the configuration file syntax against the documented layout"
  | .invalidSetting field _ _ => "Fix the value of '" ++ field ++ "' and try again"
  | .missingSetting field => "Add '" ++ field ++ "' to the configuration"
  | .invalidOperation .. => "Use deposit:<amount>, withdraw:<amount> or balance"

/-- The message for people. -/
def friendly : BankError → String
  | .insufficientFunds requested available =>
    "Cannot withdraw " ++ requested.text ++ ": only " ++ available.text ++ " available"
  | .file fault => "File operation failed: " ++ fault.message
  | .missingSetting field => "Required setting '" ++ field ++ "' is missing"
  | e => e.message

end BankError

end Passbook
