import Passbook.Proofs.Session.Refusals

/-! # Sessions one after the other

A list of operations may be cut anywhere and carried out in two sessions. A failure in the first
part is the end of the whole; otherwise the second session goes on where the first one stopped,
and the two summaries add up to the one of the whole. Only the numbers in the log tell the
difference, since the second session counts from one again.
-/
namespace Passbook

/-- The summary of a session that is carried on by another one. -/
def Summary.append (s t : Summary) : Summary :=
  ⟨s.applied + t.applied, s.rejected ++ t.rejected, t.finalBalance⟩

namespace Summary
variable (s : Summary) (x : Except BankError Summary)

theorem map_append_empty (balance : Decimal) : x.map (append ⟨0, [], balance⟩) = x := by
  cases x <;> simp [Except.map, append]

theorem map_append_applied :
    (x.map s.append).map (fun t => { t with applied := t.applied + 1 }) =
      x.map (append { s with applied := s.applied + 1 }) := by
  cases x <;> simp [Except.map, append, Nat.add_right_comm]

theorem map_append_rejected (e : BankError) :
    (x.map s.append).map (fun t => { t with rejected := e :: t.rejected }) =
      x.map (append { s with rejected := e :: s.rejected }) := by
  cases x <;> simp [Except.map, append]

end Summary

namespace Session

theorem runFrom_append_error {clock : Clock} {policy : Policy} {position : Nat} {a : Account}
    {xs : List Operation} {e : BankError} (h : (runFrom clock policy position a xs).outcome = .error e)
    (ys : List Operation) :
    runFrom clock policy position a (xs ++ ys) = runFrom clock policy position a xs := by
  fun_induction runFrom clock policy position a xs with
  | case1 => cases h
  | case2 position a op ops before b hb rest ih =>
    rw [List.cons_append, runFrom]
    simp only [hb, ih (map_eq_error_iff.mp h), before, rest]
  | case3 position a op ops before e' he hp rest ih =>
    rw [List.cons_append, runFrom]
    simp only [he, hp, ih (map_eq_error_iff.mp h), before, rest, ↓reduceIte]
  | case4 position a op ops before e' he hp =>
    rw [List.cons_append, runFrom]
    simp only [he, hp, before]
    rfl

/-- A session that completes is carried on from the account it leaves. -/
theorem runFrom_append_ok (clock : Clock) (policy : Policy) (position : Nat) (a : Account)
    (xs ys : List Operation) : ∀ s, (runFrom clock policy position a xs).outcome = .ok s →
      let first := runFrom clock policy position a xs
      let second := runFrom clock policy (position + xs.length) first.account ys
      runFrom clock policy position a (xs ++ ys) =
        ⟨second.account, second.outcome.map s.append, first.console ++ second.console,
          first.events ++ second.events⟩ := by
  have hn (n : Nat) (op : Operation) (ops : List Operation) : n + (op :: ops).length = n + 1 + ops.length := by
    rw [List.length_cons]
    omega
  fun_induction runFrom clock policy position a xs with
  | case1 position a =>
    intro s h
    cases h
    simp only [List.length_nil, Nat.add_zero, List.nil_append, Summary.map_append_empty]
  | case2 position a op ops before b hb rest ih =>
    intro s h
    obtain ⟨s, hs, rfl⟩ := map_eq_ok_iff.mp h
    intro first second
    rw [List.cons_append, runFrom]
    simp only [hb, ih s hs, first, second, rest, before, hn, List.append_assoc, Summary.map_append_applied]
  | case3 position a op ops before e he hp rest ih =>
    intro s h
    obtain ⟨s, hs, rfl⟩ := map_eq_ok_iff.mp h
    intro first second
    rw [List.cons_append, runFrom]
    simp only [he, hp, ih s hs, first, second, rest, before, hn, List.append_assoc, List.cons_append,
      Summary.map_append_rejected, ↓reduceIte]
  | case4 =>
    intro s h
    cases h

theorem runFrom_outcome_eq (clock : Clock) (policy : Policy) (position position' : Nat) (a : Account)
    (ops : List Operation) :
    (runFrom clock policy position a ops).outcome = (runFrom clock policy position' a ops).outcome := by
  induction ops generalizing position position' a with
  | nil => rfl
  | cons op ops ih =>
    rw [runFrom, runFrom]
    cases h : a.apply clock op with
    | ok b => simp only [ih (position + 1) (position' + 1) b]
    | error e =>
      by_cases hp : isPassedOver policy e = true
      · simp only [hp, ↓reduceIte, ih (position + 1) (position' + 1) a]
      · simp only [hp]
        rfl

theorem run_append_ok {clock : Clock} {policy : Policy} {a : Account} {xs : List Operation} {s : Summary}
    (h : (run clock policy a xs).outcome = .ok s) (ys : List Operation) :
    let first := run clock policy a xs
    let second := run clock policy first.account ys
    (run clock policy a (xs ++ ys)).state = ⟨second.account, first.console ++ second.console⟩ ∧
    (run clock policy a (xs ++ ys)).outcome = second.outcome.map s.append := by
  intro first second
  have hw := runFrom_append_ok clock policy 1 a xs ys s h
  have hs : (runFrom clock policy (1 + xs.length) first.account ys).state = second.state := by
    rw [runFrom_state]
    exact (runFrom_state clock policy 1 first.account ys).symm
  have ho := runFrom_outcome_eq clock policy (1 + xs.length) 1 first.account ys
  simp only [Run.state, State.mk.injEq] at hs
  rw [run, hw]
  simp only [Run.state]
  exact ⟨by rw [← hs.1, ← hs.2]; rfl, congrArg _ ho⟩

/-- Carrying out a list of operations is carrying out its parts one after the other. The three runs
may take place at different times. -/
theorem run_composes (clock clock₁ clock₂ : Clock) (policy : Policy) (a : Account) (xs ys : List Operation) :
    let first := run clock₁ policy a xs
    let second := run clock₂ policy first.account ys
    let whole := run clock policy a (xs ++ ys)
    match first.outcome with
    | .error e => whole.outcome = .error e ∧ whole.state.untimed = first.state.untimed
    | .ok s =>
      whole.state.untimed = State.untimed ⟨second.account, first.console ++ second.console⟩ ∧
      match second.outcome with
      | .error e => whole.outcome = .error e
      | .ok t => whole.outcome =
          .ok ⟨s.applied + t.applied, s.rejected ++ t.rejected, t.finalBalance⟩ := by
  intro first second whole
  -- with the times erased, all three runs go by the clock that stands still
  have h₁ : first.untimed = run .still policy a.untimed xs := runFrom_untimed clock₁ policy 1 a xs
  have h₂ : second.untimed = run .still policy first.untimed.account ys := runFrom_untimed clock₂ policy 1 _ ys
  have hw : whole.untimed = run .still policy a.untimed (xs ++ ys) := runFrom_untimed clock policy 1 a _
  cases ho : first.outcome with
  | error e =>
    have he : (run .still policy a.untimed xs).outcome = .error e := by
      rw [← h₁]
      exact ho
    have hx : run .still policy a.untimed (xs ++ ys) = run .still policy a.untimed xs :=
      runFrom_append_error he ys
    rw [hx, ← h₁] at hw
    exact ⟨(congrArg Run.outcome hw).trans ho, congrArg Run.state hw⟩
  | ok s =>
    have hs : (run .still policy a.untimed xs).outcome = .ok s := by
      rw [← h₁]
      exact ho
    obtain ⟨hstate, hout⟩ := run_append_ok hs ys
    rw [← h₁, ← h₂, ← hw] at hstate hout
    refine ⟨hstate, ?_⟩
    cases ht : second.outcome with
    | error e => exact hout.trans (congrArg _ ht)
    | ok t => exact hout.trans (congrArg _ ht)

end Session

end Passbook
