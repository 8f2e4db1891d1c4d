import Passbook.Proofs.Account.Movement

/-! # Following the advice of a refusal

A refused withdrawal names the amount that is available and advises to take no more than that. The
advice is sound and complete: typed in as it is shown, the amount empties the account, a balance
below zero included, and a withdrawal is refused again exactly if it asks for more.
-/
namespace Passbook.Account
variable {clock : Clock} {a : Account} {amount requested available : Decimal}

theorem withdraw_eq_refusal (h : a.withdraw clock amount = .error (.insufficientFunds requested available)) :
    requested = amount ∧ available = a.balance ∧ a.balance.value < amount.value := by
  obtain ⟨hlt, he⟩ | ⟨-, -, he⟩ := withdraw_eq_error_iff.mp h
  · cases he
    exact ⟨rfl, rfl, hlt⟩
  · cases he

theorem refused_iff (clock : Clock) (a : Account) (amount : Decimal) :
    (∃ requested available, a.withdraw clock amount = .error (.insufficientFunds requested available)) ↔
      a.balance.value < amount.value := by
  constructor
  · rintro ⟨requested, available, h⟩
    exact (withdraw_eq_refusal h).2.2
  · intro hlt
    exact ⟨_, _, withdraw_eq_error_iff.mpr (Or.inl ⟨hlt, rfl⟩)⟩

/-- The whole balance can be taken out, whatever its sign and scale. -/
theorem exists_withdraw_balance (clock : Clock) (a : Account) :
    ∃ b, a.withdraw clock a.balance = .ok b ∧ b.balance.value = 0 := by
  have hfits : |a.balance.value - a.balance.value| * 10 ^ a.balance.scale < (Decimal.limit : ℚ) := by
    rw [sub_self, abs_zero, zero_mul]
    exact_mod_cast (by decide : 0 < Decimal.limit)
  obtain ⟨c, hc, -, hv⟩ := Decimal.sub?_exact a.balance.scale_le le_rfl le_rfl hfits
  refine ⟨_, withdraw_of_add? le_rfl hc, ?_⟩
  exact hv.trans (sub_self _)

/-- Whoever takes out the amount that the advice shows ends up with nothing on the account, and it
is the largest amount that is not refused. -/
theorem advice_empties_account (clock later : Clock) (a : Account) (amount requested available : Decimal)
    (h : a.withdraw clock amount = .error (.insufficientFunds requested available)) :
    let refusal := BankError.insufficientFunds requested available
    let left := a.settle (a.withdraw clock amount)
    (∃ shown op b, refusal.suggestion = "Withdraw at most " ++ shown ++ " or deposit more funds first" ∧
      Operation.read ("withdraw:" ++ shown) = .ok op ∧ left.apply later op = .ok b ∧ b.balance.value = 0) ∧
    ∀ other : Decimal,
      (∃ requested' available', left.withdraw later other = .error (.insufficientFunds requested' available')) ↔
        available.value < other.value := by
  intro refusal left
  have hleft : left = a := by rw [show left = a.settle (a.withdraw clock amount) from rfl, h, settle_error]
  obtain ⟨-, rfl, -⟩ := withdraw_eq_refusal h
  rw [hleft]
  constructor
  · obtain ⟨b, hb, hzero⟩ := exists_withdraw_balance later a
    exact ⟨a.balance.text, .withdraw a.balance, b, rfl, Operation.read_text (.withdraw a.balance), hb, hzero⟩
  · exact refused_iff later a

/-- In debt even a withdrawal of nothing is refused, and the advice is to pay the debt. -/
theorem advice_empties_account_in_debt :
    let debt : Decimal := ⟨-1500, 3, by decide, by decide⟩
    let a : Account := { owner := "Ada", number := "1", balance := debt }
    let refusal := BankError.insufficientFunds .zero debt
    a.withdraw .still .zero = .error refusal ∧
    (∃ shown op b, refusal.suggestion = "Withdraw at most " ++ shown ++ " or deposit more funds first" ∧
      Operation.read ("withdraw:" ++ shown) = .ok op ∧ a.apply .still op = .ok b ∧ b.balance.value = 0) ∧
    ∃ requested available,
      a.withdraw .still ⟨-1499, 3, by decide, by decide⟩ = .error (.insufficientFunds requested available) := by
  intro debt a refusal
  have h : a.withdraw .still .zero = .error refusal := rfl
  obtain ⟨hfollowed, hrefused⟩ := advice_empties_account .still .still a .zero .zero debt h
  exact ⟨h, hfollowed, (hrefused _).mpr (Decimal.value_lt_value.mpr (by decide))⟩

end Passbook.Account
