import Passbook.Event
import Passbook.Operation

/-! # Checks on settings

Settings are checked one by one, and the first that fails is reported under its name. A deposit
of a negative amount passes, with a warning.
-/
namespace Passbook.Settings

open Text

def checkPath (field value : String) : Except BankError Unit :=
  if value.isEmpty then .error (.invalidSetting field value .emptyPath)
  else if Char.ofNat 0 ∈ value.toList then .error (.invalidSetting field value .nulInPath)
  else .ok ()

def checkFilled (field value : String) : Except BankError Unit :=
  if isBlankText value then .error (.invalidSetting field value .blank) else .ok ()

def required {α : Type} (field : String) : Option α → Except BankError α
  | some a => .ok a
  | none => .error (.missingSetting field)

/-- Is a text one of the allowed ones, apart from blanks around it and letter case? -/
def isAllowed (allowed : List String) (value : String) : Bool :=
  (allowed.map fun a => String.ofList (lower a.toList)).contains (keyword value)

def checkAllowed (field : String) (allowed : List String) : List String → Except BankError Unit
  | [] => .ok ()
  | value :: values =>
    if isAllowed allowed value then checkAllowed field allowed values
    else .error (.invalidSetting field value (.notAllowed allowed))

def negativeWarning (field : String) (amount : Decimal) : List Event :=
  if amount.isNegative then
    [⟨.warn, "⚠️ " ++ field ++ " is negative (" ++ amount.text ++ "); it will be applied as given"⟩]
  else []

/-- The warning for one operation, if it deposits a negative amount. -/
def operationWarning (field : String) : Operation → List Event
  | .deposit amount => negativeWarning field amount
  | _ => []

/-- Warnings for all negative deposits; `label` names the operation at a position. -/
def depositWarnings (label : Nat → String) (ops : List Operation) : List Event :=
  ops.zipIdx.flatMap fun e => operationWarning (label e.2) e.1

end Passbook.Settings
