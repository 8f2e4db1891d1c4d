import Passbook.Account

/-! # What one operation does to an account

Every operation is described once: a success leaves the account as it was or posts one entry,
a failure is either the refusal of a withdrawal above the balance or an overflow. Time stamps
have no influence on either; with all of them erased, two clocks give the same account.
-/
namespace Passbook

namespace Account
variable {clock : Clock} {op : Operation} {a b : Account} {e : BankError}

/-- The account that stands after a call with this result: a failed call changes nothing. -/
def settle (a : Account) : Except BankError Account → Account
  | .ok after => after
  | .error _ => a

@[simp] theorem settle_ok (a b : Account) : a.settle (.ok b) = b := rfl
@[simp] theorem settle_error (a : Account) (e : BankError) : a.settle (.error e) = a := rfl

/-- The failure of a withdrawal above the balance, for any other operation nothing. -/
def refusal? (a : Account) : Operation → Option BankError
  | .withdraw amount => if a.balance < amount then some (.insufficientFunds amount a.balance) else none
  | _ => none

theorem refusal?_eq_some (h : a.refusal? op = some e) :
    ∃ amount, op = .withdraw amount ∧ a.balance < amount ∧ e = .insufficientFunds amount a.balance := by
  cases op with
  | deposit amount => simp [refusal?] at h
  | reportBalance => simp [refusal?] at h
  | withdraw amount =>
    by_cases hlt : a.balance < amount
    · simp only [refusal?, if_pos hlt, Option.some.injEq] at h
      exact ⟨amount, rfl, hlt, h.symm⟩
    · simp [refusal?, hlt] at h

/-- A success reports, or it posts what the arithmetic gives. -/
theorem apply_ok_cases (h : a.apply clock op = .ok b) :
    (op = .reportBalance ∧ b = a) ∨
    (∃ amount balance, op = .deposit amount ∧ a.balance.add? amount = some balance ∧
      b = a.record clock .deposit amount balance) ∨
    (∃ amount balance, op = .withdraw amount ∧ ¬ a.balance < amount ∧
      a.balance.sub? amount = some balance ∧ b = a.record clock .withdrawal amount balance) := by
  cases op with
  | reportBalance =>
    simp only [apply, Except.ok.injEq] at h
    exact Or.inl ⟨rfl, h.symm⟩
  | deposit amount =>
    simp only [apply, deposit] at h
    cases hs : a.balance.add? amount with
    | none => simp [hs] at h
    | some balance =>
      simp only [hs, Except.ok.injEq] at h
      exact Or.inr (Or.inl ⟨amount, balance, rfl, hs, h.symm⟩)
  | withdraw amount =>
    simp only [apply, withdraw] at h
    by_cases hlt : a.balance < amount
    · simp [hlt] at h
    · simp only [if_neg hlt] at h
      cases hs : a.balance.sub? amount with
      | none => simp [hs] at h
      | some balance =>
        simp only [hs, Except.ok.injEq] at h
        exact Or.inr (Or.inr ⟨amount, balance, rfl, hlt, hs, h.symm⟩)

/-- A failure is a refusal or an overflow, never both. -/
theorem apply_error_cases (h : a.apply clock op = .error e) :
    a.refusal? op = some e ∨ (a.refusal? op = none ∧ e = overflow op) := by
  cases op with
  | reportBalance => simp [apply] at h
  | deposit amount =>
    simp only [apply, deposit] at h
    cases hs : a.balance.add? amount with
    | some balance => simp [hs] at h
    | none =>
      simp only [hs, Except.error.injEq] at h
      exact Or.inr ⟨rfl, h.symm⟩
  | withdraw amount =>
    simp only [apply, withdraw] at h
    by_cases hlt : a.balance < amount
    · simp only [if_pos hlt, Except.error.injEq] at h
      exact Or.inl (by simp [refusal?, hlt, h])
    · simp only [if_neg hlt] at h
      cases hs : a.balance.sub? amount with
      | some balance => simp [hs] at h
      | none =>
        simp only [hs, Except.error.injEq] at h
        exact Or.inr ⟨by simp [refusal?, hlt], h.symm⟩

theorem apply_of_refusal? (clock : Clock) (h : a.refusal? op = some e) :
    a.apply clock op = .error e := by
  obtain ⟨amount, rfl, hlt, rfl⟩ := refusal?_eq_some h
  simp [apply, withdraw, hlt]

theorem refusal?_of_apply_ok (h : a.apply clock op = .ok b) : a.refusal? op = none := by
  cases hr : a.refusal? op with
  | none => rfl
  | some e => rw [apply_of_refusal? clock hr] at h; cases h

theorem isInsufficientFunds_of_refusal? (h : a.refusal? op = some e) :
    e.isInsufficientFunds = true := by
  obtain ⟨amount, -, -, rfl⟩ := refusal?_eq_some h
  rfl

@[simp] theorem isInsufficientFunds_overflow (op : Operation) :
    (overflow op).isInsufficientFunds = false := rfl

/-- An operation logs nothing above the level of debugging. -/
theorem events_level (op : Operation) (a : Account) (result : Except BankError Account) :
    ∀ event ∈ a.events op result, event.level = .debug := by
  intro event h
  unfold events at h
  split at h <;> simp at h <;> simp [h]

end Account

/-- The clock that always shows the same instant. -/
def Clock.still : Clock := fun _ => default

def Transaction.untimed (t : Transaction) : Transaction := { t with timestamp := default }

namespace Account

def untimed (a : Account) : Account := { a with history := a.history.map Transaction.untimed }

@[simp] theorem untimed_balance (a : Account) : a.untimed.balance = a.balance := rfl

@[simp] theorem untimed_lines (a : Account) (op : Operation) : a.untimed.lines op = a.lines op := by
  cases op <;> rfl

theorem untimed_record (clock : Clock) (kind : TransactionKind) (amount balance : Decimal) (a : Account) :
    (a.record clock kind amount balance).untimed = a.untimed.record .still kind amount balance := by
  simp [untimed, record, Transaction.untimed, Clock.still]

/-- Erasing the times before an operation or after it comes to the same. -/
theorem untimed_apply (clock : Clock) (op : Operation) (a : Account) :
    a.untimed.apply .still op = (a.apply clock op).map untimed := by
  cases op with
  | reportBalance => rfl
  | deposit amount =>
    simp only [apply, deposit, untimed_balance]
    cases a.balance.add? amount with
    | none => rfl
    | some balance => simp [untimed_record, Except.map]
  | withdraw amount =>
    simp only [apply, withdraw, untimed_balance]
    by_cases hlt : a.balance < amount
    · simp only [hlt, ↓reduceIte, Except.map]
    · simp only [hlt, ↓reduceIte]
      cases a.balance.sub? amount with
      | none => rfl
      | some balance => simp [untimed_record, Except.map]

theorem untimed_apply_ok {clock : Clock} {op : Operation} {a b : Account} (h : a.apply clock op = .ok b) :
    a.untimed.apply .still op = .ok b.untimed := by
  rw [untimed_apply clock, h]
  rfl

theorem untimed_apply_error {clock : Clock} {op : Operation} {a : Account} {e : BankError}
    (h : a.apply clock op = .error e) : a.untimed.apply .still op = .error e := by
  rw [untimed_apply clock, h]
  rfl

theorem untimed_events (a : Account) (op : Operation) (result : Except BankError Account) :
    a.untimed.events op (result.map untimed) = a.events op result := by
  cases result with
  | ok b => cases op <;> rfl
  | error e => cases op <;> cases e <;> rfl

end Account

end Passbook
