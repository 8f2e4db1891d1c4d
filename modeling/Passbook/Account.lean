import Passbook.Decimal.Arithmetic
import Passbook.Decimal.Currency
import Passbook.Event
import Passbook.Operation

/-! # The account

An account is its owner, its number, a balance and the history of what changed the balance. An
operation either yields the account after it or fails and yields none, so a failure cannot leave
anything behind. What an operation prints and logs is a function of the account it met and of
its result.
-/
namespace Passbook

inductive TransactionKind
  | deposit
  | withdrawal
deriving DecidableEq, Repr

namespace TransactionKind

def name : TransactionKind → String
  | .deposit => "deposit"
  | .withdrawal => "withdrawal"

def names : List String := ["deposit", "withdrawal"]

def ofName? (s : String) : Option TransactionKind :=
  if s = "deposit" then some .deposit else if s = "withdrawal" then some .withdrawal else none

theorem ofName?_name (kind : TransactionKind) : ofName? kind.name = some kind := by
  cases kind <;> rfl

end TransactionKind

structure Transaction where
  timestamp : Instant
  kind : TransactionKind
  amount : Decimal
  balanceAfter : Decimal
deriving DecidableEq, Repr

/-- An account; the history is in the order of the changes. -/
structure Account where
  owner : String
  number : String
  balance : Decimal
  history : List Transaction := []
deriving DecidableEq, Repr

namespace Account

/-- The balance becomes `balance`, and the history says why. -/
def record (clock : Clock) (kind : TransactionKind) (amount balance : Decimal) (a : Account) : Account :=
  { a with
    balance := balance
    history := a.history ++ [⟨clock a.history.length, kind, amount, balance⟩] }

def overflow (op : Operation) : BankError := .invalidOperation op.text .balanceOverflow

/-- A deposit adds any amount, a negative one too. -/
def deposit (clock : Clock) (amount : Decimal) (a : Account) : Except BankError Account :=
  match a.balance.add? amount with
  | some balance => .ok (a.record clock .deposit amount balance)
  | none => .error (overflow (.deposit amount))

def withdraw (clock : Clock) (amount : Decimal) (a : Account) : Except BankError Account :=
  if a.balance < amount then .error (.insufficientFunds amount a.balance)
  else
    match a.balance.sub? amount with
    | some balance => .ok (a.record clock .withdrawal amount balance)
    | none => .error (overflow (.withdraw amount))

def apply (clock : Clock) (op : Operation) (a : Account) : Except BankError Account :=
  match op with
  | .deposit amount => a.deposit clock amount
  | .withdraw amount => a.withdraw clock amount
  | .reportBalance => .ok a

def balanceLine (a : Account) : String :=
  a.owner ++ "'s account balance: $" ++ a.balance.currency

def withdrawalLine (amount : Decimal) (a : Account) : String :=
  "Withdrew " ++ amount.text ++ " from " ++ a.owner ++ "'s account."

/-- The console lines of an operation that succeeds on the account. -/
def lines (op : Operation) (a : Account) : List String :=
  match op with
  | .deposit _ => []
  | .withdraw amount => [a.withdrawalLine amount]
  | .reportBalance => [a.balanceLine]

def opened (a : Account) : Event :=
  ⟨.debug, "Opened account " ++ a.number ++ " for " ++ a.owner ++ " with balance " ++ a.balance.text⟩

def events (op : Operation) (a : Account) (result : Except BankError Account) : List Event :=
  match op, result with
  | .deposit amount, .ok after =>
    [⟨.debug, "Deposited " ++ amount.text ++ " into " ++ a.number ++ "; balance is now " ++
      after.balance.text⟩]
  | .withdraw amount, .error (.insufficientFunds ..) =>
    [⟨.debug, "Refused withdrawal of " ++ amount.text ++ " from " ++ a.number ++ ": balance " ++
      a.balance.text⟩]
  | _, _ => []

end Account

end Passbook
