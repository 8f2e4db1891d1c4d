import Passbook.Proofs.Session.Progress

/-! # What a completed session accounts for

The summary, the warnings and the history of a completed session describe one and the same
division of the operations: those that were carried out, and the withdrawals that exceeded the
balance they met. Which withdrawals these are is read off the states that the operations reach,
not off the run.
-/
namespace Passbook

def Run.logged (level : Level) (r : Run) : List Event := r.events.filter (·.level = level)

namespace Account
variable {clock : Clock} {op : Operation} {a b : Account}

theorem apply_history (h : a.apply clock op = .ok b) :
    ∃ entries, b.history = a.history ++ entries ∧ entries.length + [op].countP Operation.isReport = 1 := by
  obtain ⟨rfl, rfl⟩ | ⟨amount, balance, rfl, _, rfl⟩ | ⟨amount, balance, rfl, _, _, rfl⟩ := apply_ok_cases h
  · exact ⟨[], by simp, rfl⟩
  · exact ⟨_, rfl, rfl⟩
  · exact ⟨_, rfl, rfl⟩

end Account

namespace Session

/-- The warning about a refusal, in a session whose operations are numbered from `position` on. -/
def Refusal.warning (position : Nat) (r : Refusal) : Event := rejection (r.index + position) r.op r.error

theorem Refusal.warning_later (position : Nat) (r : Refusal) :
    r.later.warning position = r.warning (position + 1) := by
  rw [warning, warning, later, Nat.add_right_comm, Nat.add_assoc]

/-- A session that comes to its end: every operation is applied or passed over. -/
inductive Completes (clock : Clock) (policy : Policy) : Account → List Operation → Summary → Account → Prop
  | nil (a : Account) : Completes clock policy a [] ⟨0, [], a.balance⟩ a
  | applied {a b c : Account} {op : Operation} {ops : List Operation} {s : Summary}
      (head : a.apply clock op = .ok b) (tail : Completes clock policy b ops s c) :
      Completes clock policy a (op :: ops) { s with applied := s.applied + 1 } c
  | rejected {a c : Account} {op : Operation} {ops : List Operation} {s : Summary} {e : BankError}
      (head : a.apply clock op = .error e) (passed : isPassedOver policy e = true)
      (tail : Completes clock policy a ops s c) :
      Completes clock policy a (op :: ops) { s with rejected := e :: s.rejected } c

theorem completes_runFrom (clock : Clock) (policy : Policy) (position : Nat) (a : Account)
    (ops : List Operation) : ∀ s, (runFrom clock policy position a ops).outcome = .ok s →
      Completes clock policy a ops s (runFrom clock policy position a ops).account := by
  fun_induction runFrom clock policy position a ops with
  | case1 =>
    intro s h
    cases h
    exact .nil _
  | case2 position a op ops before b hb rest ih =>
    intro s h
    obtain ⟨s, hs, rfl⟩ := map_eq_ok_iff.mp h
    exact .applied hb (ih s hs)
  | case3 position a op ops before e he hp rest ih =>
    intro s h
    obtain ⟨s, hs, rfl⟩ := map_eq_ok_iff.mp h
    exact .rejected he hp (ih s hs)
  | case4 =>
    intro s h
    cases h

namespace Completes
variable {clock : Clock} {policy : Policy} {a b : Account} {ops : List Operation} {s : Summary}

theorem finalBalance (h : Completes clock policy a ops s b) : s.finalBalance = b.balance := by
  induction h with
  | nil => rfl
  | applied _ _ ih => exact ih
  | rejected _ _ _ ih => exact ih

theorem history (h : Completes clock policy a ops s b) :
    ∃ entries, b.history = a.history ++ entries ∧
      entries.length + ops.countP Operation.isReport = s.applied := by
  induction h with
  | nil => exact ⟨[], by simp, rfl⟩
  | applied head _ ih =>
    obtain ⟨ts, hts, ht⟩ := Account.apply_history head
    obtain ⟨us, hus, hu⟩ := ih
    refine ⟨ts ++ us, by rw [hus, hts, List.append_assoc], ?_⟩
    rw [← List.singleton_append, List.countP_append, List.length_append]
    simp only
    omega
  | rejected head passed _ ih =>
    -- what is passed over is a withdrawal, and so no report
    obtain ⟨amount, rfl, -, -⟩ := Account.refusal?_eq_some (refusal?_of_passed head passed)
    simpa [Operation.isReport] using ih

end Completes

theorem filter_before {level : Level} (hl : level ≠ .debug) (position : Nat) (op : Operation) (a : Account)
    (result : Except BankError Account) :
    (started position op :: a.events op result).filter (fun event => event.level = level) = [] := by
  rw [List.filter_eq_nil_iff]
  intro event h
  rw [level_before position op a result event h]
  exact fun hd => hl (of_decide_eq_true hd).symm

/-- The warnings of a run, whether it completes or not, are about the refusals before its end. -/
theorem runFrom_warnings (clock : Clock) (policy : Policy) (position : Nat) (a : Account)
    (ops : List Operation) :
    (runFrom clock policy position a ops).logged .warn =
      (refusals clock a (ops.take (reach clock policy a ops))).map (Refusal.warning position) := by
  have hw : Level.warn ≠ .debug := by decide
  fun_induction runFrom clock policy position a ops with
  | case1 => rfl
  | case2 position a op ops before b hb rest ih =>
    rw [reach_cons_ok policy hb, List.take_succ_cons, refusals_cons_ok hb, List.map_map]
    simp only [Run.logged, List.filter_append, before, filter_before hw, List.nil_append,
      Function.comp_def, Refusal.warning_later]
    exact ih
  | case3 position a op ops before e he hp rest ih =>
    have h0 : Refusal.warning position ⟨0, op, e⟩ = rejection position op e := by
      rw [Refusal.warning, Nat.zero_add]
    rw [reach_cons_passed he hp, List.take_succ_cons, refusals_cons_refused (refusal?_of_passed he hp),
      List.map_cons, List.map_map, h0]
    simp only [Run.logged, List.filter_append, before, filter_before hw, List.nil_append,
      Function.comp_def, Refusal.warning_later]
    exact congrArg (rejection position op e :: ·) ih
  | case4 position a op ops before e he hp =>
    rw [reach_cons_failed he hp, Run.logged, List.filter_append, filter_before hw]
    rfl

end Session

end Passbook
