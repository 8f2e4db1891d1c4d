import Passbook.Account

/-! # Sessions

A session carries out operations one after the other. A withdrawal above the balance is
rejected; whether it also ends the session is a matter of policy. Any other failure ends it. The
account after a failure is the one that the failing operation met.
-/
namespace Passbook

open Text

structure Summary where
  applied : Nat
  rejected : List BankError
  finalBalance : Decimal

structure Run where
  account : Account
  outcome : Except BankError Summary
  console : List String := []
  events : List Event := []

namespace Session

def started (position : Nat) (op : Operation) : Event :=
  ⟨.debug, "Operation #" ++ digitsText position ++ ": " ++ op.text⟩

def rejection (position : Nat) (op : Operation) (e : BankError) : Event :=
  ⟨.warn, "⚠️ Operation #" ++ digitsText position ++ " (" ++ op.text ++ ") rejected: " ++ e.message⟩

def failure (position : Nat) (op : Operation) (e : BankError) : Event :=
  ⟨.error, "❌ Operation #" ++ digitsText position ++ " (" ++ op.text ++ ") failed: " ++ e.message⟩

def isPassedOver (policy : Policy) (e : BankError) : Bool :=
  e.isInsufficientFunds && policy == .proceed

/-- Operations numbered from `position` on. -/
def runFrom (clock : Clock) (policy : Policy) (position : Nat) (a : Account) : List Operation → Run
  | [] => { account := a, outcome := .ok ⟨0, [], a.balance⟩ }
  | op :: ops =>
    let before := started position op :: a.events op (a.apply clock op)
    match a.apply clock op with
    | .ok after =>
      let rest := runFrom clock policy (position + 1) after ops
      { account := rest.account
        outcome := rest.outcome.map fun s => { s with applied := s.applied + 1 }
        console := a.lines op ++ rest.console
        events := before ++ rest.events }
    | .error e =>
      if isPassedOver policy e then
        let rest := runFrom clock policy (position + 1) a ops
        { account := rest.account
          outcome := rest.outcome.map fun s => { s with rejected := e :: s.rejected }
          console := rest.console
          events := before ++ rejection position op e :: rest.events }
      else
        { account := a, outcome := .error e, events := before ++ [failure position op e] }

/-- All operations, the first of them having number one. -/
def run (clock : Clock) (policy : Policy) (a : Account) (ops : List Operation) : Run :=
  runFrom clock policy 1 a ops

end Session

end Passbook
