import Passbook.Proofs.Decimal.Sum
import Passbook.Proofs.Ledger

/-! # Withdrawals never overdraw

A withdrawal is allowed by comparing exact values, and the subtraction behind it may round; even
so the balance it leaves is not negative, whatever the balance was before. Only deposits can make
a balance negative: an account that starts without debt and is given no negative deposit never
has any.

What an operation keeps is kept by every sequence of calls. This is proved once and for all.
-/
namespace Passbook

/-- The operations that a call attempts, unless it ends early. -/
def Call.operations : Call → List Operation
  | .deposit amount => [.deposit amount]
  | .withdraw amount => [.withdraw amount]
  | .reportBalance => [.reportBalance]
  | .run _ ops => ops

section Invariant
variable {clock : Clock} {P : Account → Prop} {allowed : Operation → Prop}
variable (step : ∀ a b op, allowed op → P a → a.apply clock op = .ok b → P b)
include step

theorem Account.settle_keeps {a : Account} {op : Operation} (hop : allowed op) (ha : P a) :
    P (a.settle (a.apply clock op)) := by
  cases h : a.apply clock op with
  | ok b => exact step a b op hop ha h
  | error e => exact ha

theorem Session.foldl_step_keeps {ops : List Operation} (hops : ∀ op ∈ ops, allowed op)
    (s : Session.State) (hs : P s.account) : P (ops.foldl (Session.State.step clock) s).account := by
  refine List.foldlRecOn (motive := fun s : State => P s.account) ops _ hs fun s hs op hop => ?_
  rw [State.step_account]
  exact Account.settle_keeps step (hops op hop) hs

theorem Session.run_keeps {ops : List Operation} (hops : ∀ op ∈ ops, allowed op) (policy : Policy)
    {a : Account} (ha : P a) : P (Session.run clock policy a ops).account := by
  rw [Session.run_account]
  exact Session.foldl_step_keeps step (fun op h => hops op (List.mem_of_mem_take h)) ⟨a, []⟩ ha

theorem Call.perform_keeps {call : Call} (hops : ∀ op ∈ call.operations, allowed op) {a : Account}
    (ha : P a) : P (call.perform clock a) := by
  cases call with
  | deposit amount => exact Account.settle_keeps step (hops (.deposit amount) (by simp [operations])) ha
  | withdraw amount => exact Account.settle_keeps step (hops (.withdraw amount) (by simp [operations])) ha
  | reportBalance => exact ha
  | run policy ops => exact Session.run_keeps step hops policy ha

theorem Call.performAll_keeps {calls : List Call} (hops : ∀ call ∈ calls, ∀ op ∈ call.operations, allowed op)
    {a : Account} (ha : P a) : P (performAll clock a calls) :=
  List.foldlRecOn calls _ ha fun _ ha call hcall => perform_keeps step (hops call hcall) ha

end Invariant

namespace Account
variable {clock : Clock} {op : Operation} {a b : Account}

/-- No withdrawal has left a negative balance. -/
def Covered (a : Account) : Prop :=
  ∀ t ∈ a.history, t.kind = .withdrawal → Decimal.zero ≤ t.balanceAfter

/-- The balance is not negative and never has been. -/
structure Solvent (a : Account) : Prop where
  balance : Decimal.zero ≤ a.balance
  history : ∀ t ∈ a.history, Decimal.zero ≤ t.balanceAfter

theorem mem_record {kind : TransactionKind} {amount balance : Decimal} {t : Transaction}
    (h : t ∈ (a.record clock kind amount balance).history) :
    t ∈ a.history ∨ (t.kind = kind ∧ t.balanceAfter = balance) := by
  rcases List.mem_append.mp h with h | h
  · exact Or.inl h
  · obtain rfl := List.mem_singleton.mp h
    exact Or.inr ⟨rfl, rfl⟩

theorem Solvent.record (ha : a.Solvent) {kind : TransactionKind} {amount balance : Decimal}
    (hb : Decimal.zero ≤ balance) : (a.record clock kind amount balance).Solvent := by
  refine ⟨hb, fun t ht => ?_⟩
  rcases mem_record ht with ht | ⟨-, ht⟩
  · exact ha.history t ht
  · rw [ht]
    exact hb

theorem covered_apply (ha : a.Covered) (h : a.apply clock op = .ok b) : b.Covered := by
  obtain ⟨-, rfl⟩ | ⟨amount, balance, -, -, rfl⟩ | ⟨amount, balance, -, hle, hs, rfl⟩ := apply_ok_cases h
  · exact ha
  · intro t ht hk
    rcases mem_record ht with ht | ⟨hd, -⟩
    · exact ha t ht hk
    · rw [hd] at hk
      cases hk
  · intro t ht hk
    rcases mem_record ht with ht | ⟨-, hb⟩
    · exact ha t ht hk
    · rw [hb, Decimal.zero_le_iff]
      exact Decimal.sub?_nonneg hs (Decimal.not_lt_iff.mp hle)

theorem Solvent.apply (ha : a.Solvent) (hop : ∀ amount, op = .deposit amount → Decimal.zero ≤ amount)
    (h : a.apply clock op = .ok b) : b.Solvent := by
  obtain ⟨-, rfl⟩ | ⟨amount, balance, hd, hs, rfl⟩ | ⟨amount, balance, -, hle, hs, rfl⟩ := apply_ok_cases h
  · exact ha
  · apply ha.record
    rw [Decimal.zero_le_iff]
    have hx := Decimal.zero_le_iff.mp ha.balance
    have hy := Decimal.zero_le_iff.mp (hop amount hd)
    exact Decimal.add?_nonneg hs (add_nonneg hx hy)
  · apply ha.record
    rw [Decimal.zero_le_iff]
    exact Decimal.sub?_nonneg hs (Decimal.not_lt_iff.mp hle)

end Account

namespace Call

/-- A withdrawal never leaves a negative balance behind; without negative deposits and without
debt at the start, nothing does. -/
theorem performAll_never_overdraws (clock : Clock) (owner number : String) (initial : Decimal)
    (calls : List Call) :
    let opened : Account := { owner := owner, number := number, balance := initial }
    (∀ t ∈ (performAll clock opened calls).history, t.kind = .withdrawal → Decimal.zero ≤ t.balanceAfter) ∧
    (Decimal.zero ≤ initial →
      (∀ call ∈ calls, ∀ amount, .deposit amount ∈ call.operations → Decimal.zero ≤ amount) →
      ∀ n, Decimal.zero ≤ (performAll clock opened (calls.take n)).balance ∧
        ∀ t ∈ (performAll clock opened (calls.take n)).history, Decimal.zero ≤ t.balanceAfter) := by
  intro opened
  constructor
  · have hc : opened.Covered := by simp [Account.Covered, opened]
    exact performAll_keeps (fun a b op (_ : True) => Account.covered_apply) (fun _ _ _ _ => trivial) hc
  · intro hi hd n
    have hs : opened.Solvent := ⟨hi, by simp [opened]⟩
    have hn : (performAll clock opened (calls.take n)).Solvent := by
      refine performAll_keeps (fun a b op hop ha => ha.apply hop) ?_ hs
      rintro call hcall _ hop amount rfl
      exact hd call (List.mem_of_mem_take hcall) amount hop
    exact ⟨hn.balance, hn.history⟩

/-- A withdrawal of the whole balance, one that is refused and one of a negative amount, all on an
account without debt. -/
theorem performAll_never_overdraws_solvent :
    let opened : Account := { owner := "Ada", number := "1", balance := ⟨150, 2, by decide, by decide⟩ }
    let calls : List Call := [.withdraw ⟨15, 1, by decide, by decide⟩,
      .run .proceed [.withdraw ⟨1, 28, by decide, by decide⟩, .withdraw ⟨-3, 0, by decide, by decide⟩],
      .deposit ⟨1, 28, by decide, by decide⟩]
    let a := performAll .still opened calls
    a.history.map Transaction.kind = [.withdrawal, .withdrawal, .deposit] ∧ Decimal.zero ≤ a.balance ∧
    ∀ t ∈ a.history, Decimal.zero ≤ t.balanceAfter := by
  intro opened calls a
  have hd : ∀ call ∈ calls, ∀ amount, .deposit amount ∈ call.operations → Decimal.zero ≤ amount := by
    intro call hcall amount hop
    simp only [calls, List.mem_cons, List.not_mem_nil, or_false] at hcall
    rcases hcall with rfl | rfl | rfl <;> simp [operations] at hop
    rw [hop]
    decide
  exact ⟨by decide, (performAll_never_overdraws .still "Ada" "1" opened.balance calls).2 (by decide) hd 3⟩

end Call

end Passbook
