import Passbook.Proofs.Account.Step
import Passbook.Proofs.Basic
import Passbook.Session

/-! # How far a session gets

The state of a session is its account together with the lines printed so far. A session goes
through the states that its operations reach one after the other, failed operations leaving the
state alone, up to the first failure that the policy does not pass over. That place is found
here without running the session; the run is then shown to end in the state reached there.
-/
namespace Passbook

namespace Session
variable {clock : Clock} {policy : Policy} {op : Operation} {a b : Account} {e : BankError}

/-- An account and what the operations on it have printed. -/
structure State where
  account : Account
  console : List String := []

/-- A failed operation changes nothing and prints nothing. -/
def State.step (clock : Clock) (s : State) (op : Operation) : State :=
  match s.account.apply clock op with
  | .ok after => ⟨after, s.console ++ s.account.lines op⟩
  | .error _ => s

/-- The state after all of the operations, each attempted where the former one left off. -/
def reached (clock : Clock) (a : Account) (ops : List Operation) : State :=
  ops.foldl (State.step clock) ⟨a, []⟩

/-- The account that the operation with index `i` meets; the first one has index zero. -/
def metAt (clock : Clock) (a : Account) (ops : List Operation) (i : Nat) : Account :=
  (reached clock a (ops.take i)).account

/-- Does the operation put an end to the session? -/
def ends (clock : Clock) (policy : Policy) (a : Account) (op : Operation) : Bool :=
  match a.apply clock op with
  | .ok _ => false
  | .error e => !isPassedOver policy e

def endsAt (clock : Clock) (policy : Policy) (a : Account) (ops : List Operation) (i : Nat) : Bool :=
  ops[i]?.any (ends clock policy (metAt clock a ops i))

/-- The index of the operation that ends the session, or else the number of operations. -/
def reach (clock : Clock) (policy : Policy) (a : Account) (ops : List Operation) : Nat :=
  (List.range ops.length).findIdx (endsAt clock policy a ops)

/-- A withdrawal above the balance among the operations of a session. -/
structure Refusal where
  index : Nat
  op : Operation
  error : BankError

def refusalAt? (clock : Clock) (a : Account) (ops : List Operation) (i : Nat) : Option Refusal :=
  ops[i]?.bind fun op => ((metAt clock a ops i).refusal? op).map (Refusal.mk i op)

/-- The withdrawals that exceed the balance they meet, in the order of the operations. -/
def refusals (clock : Clock) (a : Account) (ops : List Operation) : List Refusal :=
  (List.range ops.length).filterMap (refusalAt? clock a ops)

theorem State.step_account (clock : Clock) (s : State) (op : Operation) :
    (s.step clock op).account = s.account.settle (s.account.apply clock op) := by
  unfold State.step
  cases s.account.apply clock op <;> rfl

@[simp] theorem reached_nil (clock : Clock) (a : Account) : reached clock a [] = ⟨a, []⟩ := rfl

theorem foldl_step (clock : Clock) (a : Account) (lines : List String) (ops : List Operation) :
    ops.foldl (State.step clock) ⟨a, lines⟩ =
      ⟨(reached clock a ops).account, lines ++ (reached clock a ops).console⟩ := by
  induction ops generalizing a lines with
  | nil => simp
  | cons op ops ih =>
    rw [reached, List.foldl_cons, List.foldl_cons]
    cases h : a.apply clock op with
    | error e =>
      simp only [State.step, h]
      exact ih a lines
    | ok b =>
      simp only [State.step, h, List.nil_append]
      rw [ih b (lines ++ a.lines op), ih b (a.lines op), List.append_assoc]

theorem reached_cons_ok (h : a.apply clock op = .ok b) (ops : List Operation) :
    reached clock a (op :: ops) =
      ⟨(reached clock b ops).account, a.lines op ++ (reached clock b ops).console⟩ := by
  rw [reached, List.foldl_cons, State.step, h]
  exact foldl_step clock b (a.lines op) ops

theorem reached_cons_error (h : a.apply clock op = .error e) (ops : List Operation) :
    reached clock a (op :: ops) = reached clock a ops := by
  rw [reached, List.foldl_cons, State.step, h, reached]

@[simp] theorem metAt_zero (clock : Clock) (a : Account) (ops : List Operation) :
    metAt clock a ops 0 = a := rfl

@[simp] theorem metAt_cons_succ (clock : Clock) (a : Account) (op : Operation) (ops : List Operation)
    (i : Nat) :
    metAt clock a (op :: ops) (i + 1) = metAt clock (a.settle (a.apply clock op)) ops i := by
  cases h : a.apply clock op with
  | ok b => simp [metAt, reached_cons_ok h]
  | error e => simp [metAt, reached_cons_error h]

@[simp] theorem endsAt_cons_zero (clock : Clock) (policy : Policy) (a : Account) (op : Operation)
    (ops : List Operation) : endsAt clock policy a (op :: ops) 0 = ends clock policy a op := rfl

@[simp] theorem endsAt_cons_succ (clock : Clock) (policy : Policy) (a : Account) (op : Operation)
    (ops : List Operation) (i : Nat) :
    endsAt clock policy a (op :: ops) (i + 1) = endsAt clock policy (a.settle (a.apply clock op)) ops i := by
  simp [endsAt]

theorem metAt_succ {ops : List Operation} {i : Nat} (h : ops[i]? = some op) :
    metAt clock a ops (i + 1) = (metAt clock a ops i).settle ((metAt clock a ops i).apply clock op) := by
  rw [metAt, List.take_add_one, h, reached, List.foldl_append]
  exact State.step_account clock _ op

/-- Operations from index `k` on have no part in what those before it meet. -/
theorem metAt_take {i k : Nat} (h : i ≤ k) (clock : Clock) (a : Account) (ops : List Operation) :
    metAt clock a (ops.take k) i = metAt clock a ops i := by
  rw [metAt, metAt, List.take_take, Nat.min_eq_left h]

theorem endsAt_take {i k : Nat} (h : i < k) (clock : Clock) (policy : Policy) (a : Account)
    (ops : List Operation) : endsAt clock policy a (ops.take k) i = endsAt clock policy a ops i := by
  rw [endsAt, endsAt, List.getElem?_take_of_lt h, metAt_take (Nat.le_of_lt h)]

/-- The refusal seen from a session with one more operation in front. -/
def Refusal.later (r : Refusal) : Refusal := { r with index := r.index + 1 }

theorem refusalAt?_cons_succ (clock : Clock) (a : Account) (op : Operation) (ops : List Operation) (i : Nat) :
    refusalAt? clock a (op :: ops) (i + 1) =
      (refusalAt? clock (a.settle (a.apply clock op)) ops i).map Refusal.later := by
  simp only [refusalAt?, metAt_cons_succ, List.getElem?_cons_succ]
  cases ops[i]? with
  | none => rfl
  | some op' => simp [Function.comp_def, Refusal.later]

theorem refusals_cons (clock : Clock) (a : Account) (op : Operation) (ops : List Operation) :
    refusals clock a (op :: ops) = ((a.refusal? op).map (Refusal.mk 0 op)).toList ++
      (refusals clock (a.settle (a.apply clock op)) ops).map Refusal.later := by
  rw [refusals, List.length_cons, filterMap_range_succ]
  simp only [refusalAt?_cons_succ, ← List.map_filterMap]
  rfl

theorem refusals_cons_ok (h : a.apply clock op = .ok b) (ops : List Operation) :
    refusals clock a (op :: ops) = (refusals clock b ops).map Refusal.later := by
  rw [refusals_cons, Account.refusal?_of_apply_ok h, h]
  rfl

theorem refusals_cons_refused (h : a.refusal? op = some e) (ops : List Operation) :
    refusals clock a (op :: ops) = ⟨0, op, e⟩ :: (refusals clock a ops).map Refusal.later := by
  rw [refusals_cons, h, Account.apply_of_refusal? clock h]
  rfl

theorem reach_le (clock : Clock) (policy : Policy) (a : Account) (ops : List Operation) :
    reach clock policy a ops ≤ ops.length := by
  have h : (List.range ops.length).findIdx (endsAt clock policy a ops) ≤ (List.range ops.length).length :=
    List.findIdx_le_length
  simpa [reach] using h

theorem endsAt_reach {ops : List Operation} (h : reach clock policy a ops < ops.length) :
    endsAt clock policy a ops (reach clock policy a ops) = true := by
  have hr : (List.range ops.length).findIdx (endsAt clock policy a ops) < (List.range ops.length).length := by
    simpa [reach] using h
  simpa [reach] using List.findIdx_getElem (w := hr)

theorem endsAt_of_lt_reach {ops : List Operation} {i : Nat} (h : i < reach clock policy a ops) :
    endsAt clock policy a ops i = false := by
  simpa using List.not_of_lt_findIdx h

theorem le_reach {ops : List Operation} {k : Nat} (hk : k ≤ ops.length)
    (h : ∀ i < k, endsAt clock policy a ops i = false) : k ≤ reach clock policy a ops := by
  refine Nat.le_of_not_lt fun hlt => ?_
  have he : endsAt clock policy a ops (reach clock policy a ops) = true :=
    endsAt_reach (Nat.lt_of_lt_of_le hlt hk)
  rw [h _ hlt] at he
  cases he

/-- Cut off before its end, a session goes through. -/
theorem reach_take {ops : List Operation} {k : Nat} (h : k ≤ reach clock policy a ops) :
    reach clock policy a (ops.take k) = (ops.take k).length := by
  apply Nat.le_antisymm (reach_le clock policy a _)
  apply le_reach (Nat.le_refl _)
  intro i hi
  have hik : i < k := Nat.lt_of_lt_of_le hi (List.length_take_le k ops)
  rw [endsAt_take hik]
  exact endsAt_of_lt_reach (Nat.lt_of_lt_of_le hik h)

theorem reach_cons (clock : Clock) (policy : Policy) (a : Account) (op : Operation) (ops : List Operation) :
    reach clock policy a (op :: ops) =
      if ends clock policy a op then 0 else reach clock policy (a.settle (a.apply clock op)) ops + 1 := by
  simp only [reach, List.length_cons, List.range_succ_eq_map, List.findIdx_cons, List.findIdx_map,
    endsAt_cons_zero, Function.comp_def, Nat.succ_eq_add_one, endsAt_cons_succ]
  cases ends clock policy a op <;> rfl

theorem reach_cons_ok (policy : Policy) (h : a.apply clock op = .ok b) (ops : List Operation) :
    reach clock policy a (op :: ops) = reach clock policy b ops + 1 := by
  simp [reach_cons, ends, h]

theorem reach_cons_passed (h : a.apply clock op = .error e) (hp : isPassedOver policy e = true)
    (ops : List Operation) : reach clock policy a (op :: ops) = reach clock policy a ops + 1 := by
  simp [reach_cons, ends, h, hp]

theorem reach_cons_failed (h : a.apply clock op = .error e) (hp : ¬ isPassedOver policy e = true)
    (ops : List Operation) : reach clock policy a (op :: ops) = 0 := by
  simp [reach_cons, ends, h, hp]

end Session

def Run.state (r : Run) : Session.State := ⟨r.account, r.console⟩

namespace Session
variable {clock : Clock} {policy : Policy} {a : Account} {ops : List Operation} {e : BankError}

/-- What is logged before the verdict on an operation is there for debugging only. -/
theorem level_before (position : Nat) (op : Operation) (a : Account) (result : Except BankError Account) :
    ∀ event ∈ started position op :: a.events op result, event.level = .debug := by
  intro event h
  rcases List.mem_cons.mp h with rfl | h
  · rfl
  · exact Account.events_level op a result event h

theorem refusal?_of_passed {op : Operation} (h : a.apply clock op = .error e)
    (hp : isPassedOver policy e = true) : a.refusal? op = some e := by
  rcases Account.apply_error_cases h with hr | ⟨_, rfl⟩
  · exact hr
  · simp [isPassedOver] at hp

theorem isPassedOver_abort (e : BankError) : isPassedOver .abort e = false := by
  simp [isPassedOver]

/-- A failure that is not passed over for being a refusal is an invalid operation. -/
theorem invalidOperation_of_failed {op : Operation} (h : a.apply clock op = .error e)
    (hp : ¬ isPassedOver .proceed e = true) : ∃ input fault, e = .invalidOperation input fault := by
  rcases Account.apply_error_cases h with hr | ⟨_, rfl⟩
  · exact absurd (by simp [isPassedOver, Account.isInsufficientFunds_of_refusal? hr]) hp
  · exact ⟨_, _, rfl⟩

/-- A run ends in the state reached where the session ends. -/
theorem runFrom_state (clock : Clock) (policy : Policy) (position : Nat) (a : Account)
    (ops : List Operation) :
    (runFrom clock policy position a ops).state = reached clock a (ops.take (reach clock policy a ops)) := by
  fun_induction runFrom clock policy position a ops with
  | case1 => rfl
  | case2 position a op ops before b h rest ih =>
    rw [reach_cons_ok policy h, List.take_succ_cons, reached_cons_ok h, ← ih]
    rfl
  | case3 position a op ops before e h hp rest ih =>
    rw [reach_cons_passed h hp, List.take_succ_cons, reached_cons_error h, ← ih]
    rfl
  | case4 position a op ops before e h hp =>
    rw [reach_cons_failed h hp]
    rfl

theorem run_account (clock : Clock) (policy : Policy) (a : Account) (ops : List Operation) :
    (run clock policy a ops).account = metAt clock a ops (reach clock policy a ops) :=
  congrArg State.account (runFrom_state clock policy 1 a ops)

theorem runFrom_ok_iff (clock : Clock) (policy : Policy) (position : Nat) (a : Account)
    (ops : List Operation) :
    (∃ s, (runFrom clock policy position a ops).outcome = .ok s) ↔ reach clock policy a ops = ops.length := by
  fun_induction runFrom clock policy position a ops with
  | case1 => simp [reach]
  | case2 position a op ops before b h rest ih =>
    rw [reach_cons_ok policy h, List.length_cons, Nat.add_right_cancel_iff, ← ih]
    cases rest.outcome <;> simp [Except.map]
  | case3 position a op ops before e h hp rest ih =>
    rw [reach_cons_passed h hp, List.length_cons, Nat.add_right_cancel_iff, ← ih]
    cases rest.outcome <;> simp [Except.map]
  | case4 position a op ops before e h hp =>
    rw [reach_cons_failed h hp]
    simp

end Session

end Passbook
