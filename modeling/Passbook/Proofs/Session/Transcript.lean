import Passbook.Proofs.Session.Progress

/-! # The console and the history tell the same story

An operation that succeeds either posts an entry or reports the balance. The acts of a session, in
the order of its operations, determine the entries that it adds to the history and the lines that
it prints, so that each can be checked against the other. What fails is no act and shows in
neither, whether the session goes on after it or ends there.
-/
namespace Passbook

namespace Session

/-- What an operation does when it succeeds. -/
inductive Act
  | posted (entry : Transaction)
  | reported

namespace Act

def entry? : Act → Option Transaction
  | .posted entry => some entry
  | .reported => none

def operation : Act → Operation
  | .posted entry =>
    match entry.kind with
    | .deposit => .deposit entry.amount
    | .withdrawal => .withdraw entry.amount
  | .reported => .reportBalance

def balanceAfter (before : Decimal) : Act → Decimal
  | .posted entry => entry.balanceAfter
  | .reported => before

/-- A withdrawal is confirmed and a report shows the balance; a deposit goes without a word. -/
def lines (owner : String) (balance : Decimal) : Act → List String
  | .posted entry =>
    match entry.kind with
    | .deposit => []
    | .withdrawal => ["Withdrew " ++ entry.amount.text ++ " from " ++ owner ++ "'s account."]
  | .reported => [owner ++ "'s account balance: $" ++ balance.currency]

end Act

def entries (acts : List Act) : List Transaction := acts.filterMap Act.entry?

/-- The lines of acts that start from a balance; a report shows the balance after the latest entry. -/
def transcript (owner : String) : Decimal → List Act → List String
  | _, [] => []
  | balance, act :: acts => act.lines owner balance ++ transcript owner (act.balanceAfter balance) acts

def carriedAt? (clock : Clock) (a : Account) (ops : List Operation) (i : Nat) : Option Operation :=
  ops[i]?.filter fun op => ((metAt clock a ops i).apply clock op).isOk

/-- The operations that succeed before the session ends. -/
def carried (clock : Clock) (policy : Policy) (a : Account) (ops : List Operation) : List Operation :=
  (List.range (reach clock policy a ops)).filterMap (carriedAt? clock a ops)

section Step
variable {clock : Clock} {policy : Policy} {op : Operation} {a b : Account} {e : BankError}

theorem exists_act (h : a.apply clock op = .ok b) : ∃ act : Act, act.operation = op ∧
    b.owner = a.owner ∧ b.balance = act.balanceAfter a.balance ∧
    b.history = a.history ++ act.entry?.toList ∧ a.lines op = act.lines a.owner a.balance := by
  obtain ⟨rfl, rfl⟩ | ⟨amount, balance, rfl, -, rfl⟩ | ⟨amount, balance, rfl, -, -, rfl⟩ :=
    Account.apply_ok_cases h
  · exact ⟨.reported, rfl, rfl, rfl, (List.append_nil _).symm, rfl⟩
  · exact ⟨.posted ⟨clock a.history.length, .deposit, amount, balance⟩, rfl, rfl, rfl, rfl, rfl⟩
  · exact ⟨.posted ⟨clock a.history.length, .withdrawal, amount, balance⟩, rfl, rfl, rfl, rfl, rfl⟩

theorem carriedAt?_cons_succ (clock : Clock) (a : Account) (op : Operation) (ops : List Operation) (i : Nat) :
    carriedAt? clock a (op :: ops) (i + 1) = carriedAt? clock (a.settle (a.apply clock op)) ops i := by
  simp only [carriedAt?, metAt_cons_succ, List.getElem?_cons_succ]

theorem carried_cons_ok (policy : Policy) (h : a.apply clock op = .ok b) (ops : List Operation) :
    carried clock policy a (op :: ops) = op :: carried clock policy b ops := by
  have h0 : carriedAt? clock a (op :: ops) 0 = some op := by
    simp [carriedAt?, h, Except.isOk, Except.toBool]
  rw [carried, reach_cons_ok policy h, filterMap_range_succ, h0]
  simp only [carriedAt?_cons_succ, h, Account.settle_ok]
  rfl

theorem carried_cons_passed (h : a.apply clock op = .error e) (hp : isPassedOver policy e = true)
    (ops : List Operation) : carried clock policy a (op :: ops) = carried clock policy a ops := by
  have h0 : carriedAt? clock a (op :: ops) 0 = none := by
    simp [carriedAt?, h, Except.isOk, Except.toBool]
  rw [carried, reach_cons_passed h hp, filterMap_range_succ, h0]
  simp only [carriedAt?_cons_succ, h, Account.settle_error]
  rfl

theorem carried_cons_failed (h : a.apply clock op = .error e) (hp : ¬ isPassedOver policy e = true)
    (ops : List Operation) : carried clock policy a (op :: ops) = [] := by
  rw [carried, reach_cons_failed h hp]
  rfl

theorem not_isReport_of_error (h : a.apply clock op = .error e) : op.isReport = false := by
  cases op with
  | reportBalance => cases h
  | deposit amount => rfl
  | withdraw amount => rfl

end Step

theorem entries_cons (act : Act) (acts : List Act) :
    entries (act :: acts) = act.entry?.toList ++ entries acts := by
  rw [entries, List.filterMap_cons]
  cases act.entry? <;> rfl

theorem length_lines (owner : String) (balance : Decimal) (act : Act) :
    (act.lines owner balance).length =
      act.entry?.toList.countP (·.kind == .withdrawal) + if act.operation.isReport then 1 else 0 := by
  cases act with
  | reported => rfl
  | posted entry =>
    obtain ⟨timestamp, kind, amount, after⟩ := entry
    cases kind <;> rfl

theorem length_transcript (owner : String) (balance : Decimal) (acts : List Act) :
    (transcript owner balance acts).length =
      (entries acts).countP (·.kind == .withdrawal) + (acts.map Act.operation).countP Operation.isReport := by
  induction acts generalizing balance with
  | nil => rfl
  | cons act acts ih =>
    rw [transcript, List.length_append, length_lines, ih, entries_cons, List.countP_append, List.map_cons,
      List.countP_cons]
    omega

/-- Every report that the session gets to is carried out. -/
theorem countP_carried (clock : Clock) (policy : Policy) (a : Account) (ops : List Operation) :
    (carried clock policy a ops).countP Operation.isReport =
      (ops.take (reach clock policy a ops)).countP Operation.isReport := by
  induction ops generalizing a with
  | nil => rfl
  | cons op ops ih =>
    cases h : a.apply clock op with
    | ok b =>
      rw [carried_cons_ok policy h, reach_cons_ok policy h, List.take_succ_cons, List.countP_cons,
        List.countP_cons, ih b]
    | error e =>
      by_cases hp : isPassedOver policy e = true
      · rw [carried_cons_passed h hp, reach_cons_passed h hp, List.take_succ_cons, List.countP_cons,
          not_isReport_of_error h, ih a]
        rfl
      · rw [carried_cons_failed h hp, reach_cons_failed h hp]
        rfl

theorem runFrom_acts (clock : Clock) (policy : Policy) (position : Nat) (a : Account) (ops : List Operation) :
    ∃ acts : List Act, acts.map Act.operation = carried clock policy a ops ∧
      (runFrom clock policy position a ops).account.history = a.history ++ entries acts ∧
      (runFrom clock policy position a ops).console = transcript a.owner a.balance acts := by
  fun_induction runFrom clock policy position a ops with
  | case1 position a => exact ⟨[], rfl, (List.append_nil _).symm, rfl⟩
  | case2 position a op ops before b hb rest ih =>
    obtain ⟨act, hop, howner, hbalance, hhistory, hlines⟩ := exists_act hb
    obtain ⟨acts, hops, hentries, hconsole⟩ := ih
    refine ⟨act :: acts, ?_, ?_, ?_⟩
    · rw [List.map_cons, hop, hops, carried_cons_ok policy hb]
    · rw [entries_cons, ← List.append_assoc, ← hhistory]
      exact hentries
    · rw [transcript, ← hlines, ← hbalance, ← howner]
      exact congrArg (a.lines op ++ ·) hconsole
  | case3 position a op ops before e he hp rest ih =>
    rw [carried_cons_passed he hp]
    exact ih
  | case4 position a op ops before e he hp =>
    refine ⟨[], ?_, (List.append_nil _).symm, rfl⟩
    rw [carried_cons_failed he hp]
    rfl

/-- The lines of a session are those of the entries it posted and of the reports it came to. -/
theorem run_console_mirrors_history (clock : Clock) (policy : Policy) (a : Account) (ops : List Operation) :
    let r := run clock policy a ops
    ∃ acts : List Act,
      acts.map Act.operation = carried clock policy a ops ∧
      r.account.history = a.history ++ entries acts ∧
      r.console = transcript a.owner a.balance acts ∧
      r.console.length = (entries acts).countP (·.kind == .withdrawal) +
        (ops.take (reach clock policy a ops)).countP Operation.isReport := by
  intro r
  obtain ⟨acts, hops, hhistory, hconsole⟩ := runFrom_acts clock policy 1 a ops
  refine ⟨acts, hops, hhistory, hconsole, ?_⟩
  have hlength := length_transcript a.owner a.balance acts
  rw [hops, countP_carried, ← hconsole] at hlength
  exact hlength

end Session

end Passbook
