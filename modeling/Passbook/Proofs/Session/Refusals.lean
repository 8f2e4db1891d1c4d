import Passbook.Proofs.Session.Accounting

/-! # Refusals leave no trace

A session that passes over refused withdrawals does what the strict session does with those
withdrawals taken out of its list. Given the whole list, the strict session stops where the
first refusal is met, and without refusals the two are the same. Sessions held at different
times are compared with all time stamps erased.
-/
namespace Passbook

namespace Session
variable {clock : Clock} {op : Operation} {a b : Account} {e : BankError}

/-- The withdrawals that are refused before the end of a session that passes over refusals. -/
def refused (clock : Clock) (a : Account) (ops : List Operation) : List Refusal :=
  refusals clock a (ops.take (reach clock .proceed a ops))

def kept (clock : Clock) (a : Account) (ops : List Operation) : List Operation :=
  (List.range ops.length).filterMap fun i =>
    if (refused clock a ops).any (·.index == i) then none else ops[i]?

/-- Two sessions come to the same end: as many operations applied and the same balance, or the
same failure, which then is not a refusal. -/
def SameEnd : Except BankError Summary → Except BankError Summary → Prop
  | .ok s, .ok t => s.applied = t.applied ∧ s.finalBalance = t.finalBalance
  | .error e, .error f => e = f ∧ ∃ input fault, e = .invalidOperation input fault
  | _, _ => False

theorem refused_cons_ok (h : a.apply clock op = .ok b) (ops : List Operation) :
    refused clock a (op :: ops) = (refused clock b ops).map Refusal.later := by
  rw [refused, reach_cons_ok _ h, List.take_succ_cons, refusals_cons_ok h, refused]

theorem refused_cons_passed (h : a.apply clock op = .error e) (hp : isPassedOver .proceed e = true)
    (ops : List Operation) :
    refused clock a (op :: ops) = ⟨0, op, e⟩ :: (refused clock a ops).map Refusal.later := by
  rw [refused, reach_cons_passed h hp, List.take_succ_cons,
    refusals_cons_refused (refusal?_of_passed h hp), refused]

theorem refused_cons_failed (h : a.apply clock op = .error e) (hp : ¬ isPassedOver .proceed e = true)
    (ops : List Operation) : refused clock a (op :: ops) = [] := by
  rw [refused, reach_cons_failed h hp]
  rfl

theorem any_later_zero (rs : List Refusal) : (rs.map Refusal.later).any (·.index == 0) = false := by
  simp [Refusal.later]

theorem any_later_succ (rs : List Refusal) (i : Nat) :
    (rs.map Refusal.later).any (·.index == i + 1) = rs.any (·.index == i) := by
  rw [List.any_map]
  congr 1
  funext r
  simp [Refusal.later]

theorem kept_cons_ok (h : a.apply clock op = .ok b) (ops : List Operation) :
    kept clock a (op :: ops) = op :: kept clock b ops := by
  rw [kept, refused_cons_ok h, List.length_cons, filterMap_range_succ]
  simp only [any_later_zero, any_later_succ]
  rfl

theorem kept_cons_passed (h : a.apply clock op = .error e) (hp : isPassedOver .proceed e = true)
    (ops : List Operation) : kept clock a (op :: ops) = kept clock a ops := by
  rw [kept, refused_cons_passed h hp, List.length_cons, filterMap_range_succ]
  simp only [List.any_cons, any_later_succ]
  rfl

theorem kept_cons_failed (h : a.apply clock op = .error e) (hp : ¬ isPassedOver .proceed e = true)
    (ops : List Operation) : kept clock a (op :: ops) = op :: ops := by
  rw [kept, refused_cons_failed h hp]
  exact filterMap_range_getElem? (op :: ops)

theorem SameEnd.applied {x y : Except BankError Summary} (h : SameEnd x y) :
    SameEnd (x.map fun s => { s with applied := s.applied + 1 })
      (y.map fun s => { s with applied := s.applied + 1 }) := by
  cases x with
  | error e => cases y <;> exact h
  | ok s =>
    cases y with
    | error f => exact h
    | ok t => exact ⟨congrArg (· + 1) h.1, h.2⟩

theorem SameEnd.rejected {x y : Except BankError Summary} (h : SameEnd x y) (e : BankError) :
    SameEnd (x.map fun s => { s with rejected := e :: s.rejected }) y := by
  cases x <;> cases y <;> exact h

/-- The strict session on what is kept goes through the same states to the same end. -/
theorem runFrom_kept (clock : Clock) (position : Nat) (a : Account) (ops : List Operation) :
    ∀ position', let strict := runFrom clock .abort position' a (kept clock a ops)
      strict.state = (runFrom clock .proceed position a ops).state ∧
      SameEnd (runFrom clock .proceed position a ops).outcome strict.outcome := by
  fun_induction runFrom clock .proceed position a ops with
  | case1 position a =>
    intro position'
    exact ⟨rfl, rfl, rfl⟩
  | case2 position a op ops before b hb rest ih =>
    intro position'
    obtain ⟨hs, he⟩ := ih (position' + 1)
    rw [kept_cons_ok hb, runFrom]
    simp only [hb, Run.state, State.mk.injEq] at hs ⊢
    exact ⟨⟨hs.1, by rw [hs.2]⟩, he.applied⟩
  | case3 position a op ops before e he hp rest ih =>
    intro position'
    obtain ⟨hs, ho⟩ := ih position'
    rw [kept_cons_passed he hp]
    exact ⟨hs, ho.rejected e⟩
  | case4 position a op ops before e he hp =>
    intro position'
    rw [kept_cons_failed he hp, runFrom]
    simp only [he, isPassedOver_abort]
    exact ⟨rfl, rfl, invalidOperation_of_failed he hp⟩

/-- On the whole list the strict session stops at the first refusal, if there is one. -/
theorem runFrom_abort (clock : Clock) (position : Nat) (a : Account) (ops : List Operation) :
    match (refused clock a ops).head? with
    | some r =>
      (runFrom clock .abort position a ops).outcome = .error r.error ∧
      (runFrom clock .abort position a ops).state = reached clock a (ops.take r.index)
    | none => runFrom clock .abort position a ops = runFrom clock .proceed position a ops := by
  induction ops generalizing position a with
  | nil => rfl
  | cons op ops ih =>
    cases h : a.apply clock op with
    -- the first refusal of the rest, if any, comes one place later here
    | ok b =>
      have hb := ih (position + 1) b
      rw [refused_cons_ok h, List.head?_map, runFrom, runFrom]
      cases hr : (refused clock b ops).head? with
      | none =>
        simp only [hr] at hb
        simp only [h, hb, Option.map_none]
      | some r =>
        simp only [hr] at hb
        obtain ⟨ho, hs⟩ := hb
        simp only [h, ho, Option.map_some, Except.map, Refusal.later, true_and, List.take_succ_cons,
          reached_cons_ok h, ← hs, Run.state]
    | error e =>
      by_cases hp : isPassedOver .proceed e = true
      · rw [refused_cons_passed h hp, runFrom]
        simp only [h, isPassedOver_abort]
        exact ⟨rfl, rfl⟩
      · rw [refused_cons_failed h hp, runFrom, runFrom]
        simp only [h, isPassedOver_abort, hp]
        rfl

end Session

def Session.State.untimed (s : Session.State) : Session.State := { s with account := s.account.untimed }

def Run.untimed (r : Run) : Run := { r with account := r.account.untimed }

namespace Session

/-- A run with its times erased is the run on the untimed account by the clock that stands still. -/
theorem runFrom_untimed (clock : Clock) (policy : Policy) (position : Nat) (a : Account)
    (ops : List Operation) :
    (runFrom clock policy position a ops).untimed = runFrom .still policy position a.untimed ops := by
  fun_induction runFrom clock policy position a ops with
  | case1 => rfl
  | case2 position a op ops before b hb rest ih =>
    have hv : a.untimed.events op (.ok b.untimed) = a.events op (.ok b) := a.untimed_events op (.ok b)
    rw [runFrom]
    simp only [Account.untimed_apply_ok hb, hv, ← ih, Account.untimed_lines, before, hb]
    rfl
  | case3 position a op ops before e he hp rest ih =>
    have hv : a.untimed.events op (.error e) = a.events op (.error e) := a.untimed_events op (.error e)
    rw [runFrom]
    simp only [Account.untimed_apply_error he, hv, ← ih, hp, before, he]
    rfl
  | case4 position a op ops before e he hp =>
    have hv : a.untimed.events op (.error e) = a.events op (.error e) := a.untimed_events op (.error e)
    rw [runFrom]
    simp only [Account.untimed_apply_error he, hv, hp, before, he]
    rfl

theorem run_untimed_eq (clock clock' : Clock) (policy : Policy) (a : Account) (ops : List Operation) :
    (run clock policy a ops).untimed = (run clock' policy a ops).untimed :=
  (runFrom_untimed clock policy 1 a ops).trans (runFrom_untimed clock' policy 1 a ops).symm

theorem run_state_untimed (clock clock' : Clock) (policy : Policy) (a : Account) (ops : List Operation) :
    (run clock policy a ops).state.untimed = (run clock' policy a ops).state.untimed := by
  have h := run_untimed_eq clock clock' policy a ops
  exact congrArg (fun r => State.mk r.account r.console) h

theorem run_outcome_eq (clock clock' : Clock) (policy : Policy) (a : Account) (ops : List Operation) :
    (run clock policy a ops).outcome = (run clock' policy a ops).outcome := by
  have h := congrArg Run.outcome (run_untimed_eq clock clock' policy a ops)
  exact h

/-- Passing over refusals is the same as never asking for what is refused. -/
theorem refusals_leave_no_trace (clock clock' : Clock) (a : Account) (ops : List Operation) :
    let lenient := run clock .proceed a ops
    let spared := run clock' .abort a (kept clock a ops)
    let strict := run clock' .abort a ops
    lenient.logged .warn = (refused clock a ops).map (fun r => rejection (r.index + 1) r.op r.error) ∧
    (spared.state.untimed = lenient.state.untimed ∧ SameEnd lenient.outcome spared.outcome) ∧
    match (refused clock a ops).head? with
    | some r =>
      strict.outcome = .error r.error ∧
      strict.state.untimed = (reached clock a (ops.take r.index)).untimed
    | none => strict.untimed = lenient.untimed := by
  intro lenient spared strict
  obtain ⟨hs, he⟩ := runFrom_kept clock 1 a ops 1
  refine ⟨runFrom_warnings clock .proceed 1 a ops, ⟨?_, ?_⟩, ?_⟩
  · exact (run_state_untimed clock' clock .abort a _).trans (congrArg State.untimed hs)
  · rw [show spared.outcome = _ from run_outcome_eq clock' clock .abort a _]
    exact he
  · have h := runFrom_abort clock 1 a ops
    cases hr : (refused clock a ops).head? with
    | some r =>
      simp only [hr] at h
      exact ⟨(run_outcome_eq clock' clock .abort a ops).trans h.1,
        (run_state_untimed clock' clock .abort a ops).trans (congrArg State.untimed h.2)⟩
    | none =>
      simp only [hr] at h
      exact (run_untimed_eq clock' clock .abort a ops).trans (congrArg Run.untimed h)

end Session

end Passbook
