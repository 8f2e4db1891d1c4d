import Passbook.Proofs.Session.Progress

/-! # The history explains the balance

Entries are posted when each of them follows from the balance before it by its own arithmetic.
Every call on an account, a whole session included, posts entries behind the ones that are there
and touches neither owner nor number. Failed calls and sessions that end early are no exception,
so that any sequence of calls leaves a history from which the balance can be computed again.
-/
namespace Passbook

/-- What an entry of this kind and amount makes of the balance before it. -/
def Transaction.result? (t : Transaction) (before : Decimal) : Option Decimal :=
  match t.kind with
  | .deposit => before.add? t.amount
  | .withdrawal => before.sub? t.amount

/-- The entries lead from one balance to another. -/
inductive Posting : Decimal → List Transaction → Decimal → Prop
  | nil (balance : Decimal) : Posting balance [] balance
  | cons {before after : Decimal} {t : Transaction} {ts : List Transaction}
      (head : t.result? before = some t.balanceAfter) (tail : Posting t.balanceAfter ts after) :
      Posting before (t :: ts) after

namespace Posting
variable {x y z : Decimal} {ts us : List Transaction} {t u : Transaction}

theorem append (h : Posting x ts y) (h' : Posting y us z) : Posting x (ts ++ us) z := by
  induction h with
  | nil => exact h'
  | cons head _ ih => exact .cons head (ih h')

theorem singleton (h : t.result? x = some t.balanceAfter) : Posting x [t] t.balanceAfter :=
  .cons h (.nil _)

theorem first (h : Posting x ts y) (ht : ts[0]? = some t) : t.result? x = some t.balanceAfter := by
  cases h with
  | nil => simp at ht
  | cons head tail =>
    cases ht
    exact head

theorem next (h : Posting x ts y) {i : Nat} (ht : ts[i]? = some t) (hu : ts[i + 1]? = some u) :
    u.result? t.balanceAfter = some u.balanceAfter := by
  induction h generalizing i with
  | nil => simp at ht
  | cons head tail ih =>
    cases i with
    | zero =>
      cases ht
      exact tail.first hu
    | succ i => exact ih (by simpa using ht) (by simpa using hu)

theorem last (h : Posting x ts y) :
    y = match ts.getLast? with
      | none => x
      | some t => t.balanceAfter := by
  induction h with
  | nil => rfl
  | @cons _ _ t ts head tail ih =>
    rw [ih, List.getLast?_cons]
    cases ts.getLast? <;> rfl

end Posting

namespace Account
variable {clock : Clock} {op : Operation} {a b c : Account}

/-- The second account is the first one with further entries posted. -/
structure Continues (a b : Account) : Prop where
  owner : b.owner = a.owner
  number : b.number = a.number
  posted : ∃ entries, b.history = a.history ++ entries ∧ Posting a.balance entries b.balance

theorem Continues.refl (a : Account) : Continues a a :=
  ⟨rfl, rfl, [], by simp, .nil _⟩

theorem Continues.trans (h : Continues a b) (h' : Continues b c) : Continues a c := by
  obtain ⟨ts, hts, hp⟩ := h.posted
  obtain ⟨us, hus, hq⟩ := h'.posted
  refine ⟨h'.owner.trans h.owner, h'.number.trans h.number, ts ++ us, ?_, hp.append hq⟩
  rw [hus, hts, List.append_assoc]

theorem Continues.history (h : Continues a b) : a.history <+: b.history := by
  obtain ⟨ts, hts, _⟩ := h.posted
  exact ⟨ts, hts.symm⟩

theorem continues_record (clock : Clock) {kind : TransactionKind} {amount balance : Decimal}
    (h : Transaction.result? ⟨clock a.history.length, kind, amount, balance⟩ a.balance = some balance) :
    Continues a (a.record clock kind amount balance) :=
  ⟨rfl, rfl, _, rfl, .singleton h⟩

theorem continues_apply (h : a.apply clock op = .ok b) : Continues a b := by
  obtain ⟨_, rfl⟩ | ⟨amount, balance, _, hs, rfl⟩ | ⟨amount, balance, _, _, hs, rfl⟩ := apply_ok_cases h
  · exact .refl _
  · exact continues_record clock hs
  · exact continues_record clock hs

theorem continues_settle (clock : Clock) (op : Operation) (a : Account) :
    Continues a (a.settle (a.apply clock op)) := by
  cases h : a.apply clock op with
  | ok b => exact continues_apply h
  | error e => exact .refl a

end Account

namespace Session

theorem continues_step (clock : Clock) (s : State) (op : Operation) :
    s.account.Continues (s.step clock op).account := by
  rw [State.step_account]
  exact s.account.continues_settle clock op

theorem continues_foldl_step (clock : Clock) (s : State) (ops : List Operation) :
    s.account.Continues (ops.foldl (State.step clock) s).account := by
  induction ops generalizing s with
  | nil => exact .refl _
  | cons op ops ih => exact (continues_step clock s op).trans (ih (s.step clock op))

theorem continues_run (clock : Clock) (policy : Policy) (a : Account) (ops : List Operation) :
    a.Continues (run clock policy a ops).account := by
  rw [run_account]
  exact continues_foldl_step clock ⟨a, []⟩ _

end Session

/-- Whatever can be asked of an account. -/
inductive Call
  | deposit (amount : Decimal)
  | withdraw (amount : Decimal)
  | reportBalance
  | run (policy : Policy) (ops : List Operation)

namespace Call

/-- The account after a call, whether the call succeeds or fails. -/
def perform (clock : Clock) (a : Account) : Call → Account
  | .deposit amount => a.settle (a.deposit clock amount)
  | .withdraw amount => a.settle (a.withdraw clock amount)
  | .reportBalance => a
  | .run policy ops => (Session.run clock policy a ops).account

def performAll (clock : Clock) (a : Account) (calls : List Call) : Account :=
  calls.foldl (perform clock) a

theorem continues_perform (clock : Clock) (a : Account) (call : Call) :
    a.Continues (call.perform clock a) := by
  cases call with
  | deposit amount => exact a.continues_settle clock (.deposit amount)
  | withdraw amount => exact a.continues_settle clock (.withdraw amount)
  | reportBalance => exact .refl a
  | run policy ops => exact Session.continues_run clock policy a ops

theorem continues_performAll (clock : Clock) (a : Account) (calls : List Call) :
    a.Continues (performAll clock a calls) := by
  induction calls generalizing a with
  | nil => exact .refl a
  | cons call calls ih => exact (continues_perform clock a call).trans (ih (call.perform clock a))

theorem continues_performAll_take (clock : Clock) (a : Account) (calls : List Call) {i j : Nat} (h : i ≤ j) :
    (performAll clock a (calls.take i)).Continues (performAll clock a (calls.take j)) := by
  have ht : calls.take i = (calls.take j).take i := by rw [List.take_take, Nat.min_eq_left h]
  have hs : calls.take j = calls.take i ++ (calls.take j).drop i := by rw [ht, List.take_append_drop]
  rw [hs, performAll, performAll, List.foldl_append]
  exact continues_performAll clock _ _

/-- From a new account on, the entries and the balance follow from each other by exact replay. -/
theorem performAll_replays (clock : Clock) (owner number : String) (initial : Decimal) (calls : List Call) :
    let opened : Account := { owner := owner, number := number, balance := initial }
    let a := performAll clock opened calls
    (∀ t, a.history[0]? = some t → t.result? initial = some t.balanceAfter) ∧
    (∀ i t u, a.history[i]? = some t → a.history[i + 1]? = some u →
      u.result? t.balanceAfter = some u.balanceAfter) ∧
    (a.balance = match a.history.getLast? with
      | none => initial
      | some t => t.balanceAfter) ∧
    a.owner = owner ∧ a.number = number ∧
    ∀ i j, i ≤ j →
      (performAll clock opened (calls.take i)).history <+: (performAll clock opened (calls.take j)).history := by
  intro opened a
  have hc : opened.Continues a := continues_performAll clock opened calls
  obtain ⟨ts, hts, hp⟩ := hc.posted
  have hh : a.history = ts := hts
  rw [hh]
  refine ⟨fun t => hp.first, fun i t u => hp.next, hp.last, hc.owner, hc.number, ?_⟩
  intro i j hij
  exact (continues_performAll_take clock opened calls hij).history

/-- Refused, overflowing and aborted calls in between do not break the chain. -/
theorem performAll_replays_past_failures :
    let opened : Account := { owner := "Ada", number := "1", balance := ⟨1000, 2, by decide, by decide⟩ }
    let three : Decimal := ⟨3, 0, by decide, by decide⟩
    let most : Decimal := ⟨79228162514264337593543950335, 0, by decide, by decide⟩
    let calls : List Call := [.deposit three, .withdraw most, .deposit most,
      .run .abort [.reportBalance, .withdraw three, .withdraw most, .deposit three], .reportBalance]
    let a := performAll .still opened calls
    a.history.map Transaction.kind = [.deposit, .withdrawal] ∧
    ∀ i t u, a.history[i]? = some t → a.history[i + 1]? = some u →
      u.result? t.balanceAfter = some u.balanceAfter := by
  intro opened three most calls a
  exact ⟨by decide, (performAll_replays .still "Ada" "1" opened.balance calls).2.1⟩

end Call

end Passbook
