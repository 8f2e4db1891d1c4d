import Passbook.Proofs.Account.Step
import Passbook.Proofs.Decimal.Sum
import Passbook.Proofs.Operation

/-! # How far an operation moves the balance

Amounts are compared and added as exact values, while a balance has room for 96 bits only. An
operation fails when its exact result is out of range, a refused withdrawal apart. One that
succeeds moves the balance in the direction of its amount, even where digits of the old balance
are lost, and it moves the balance by the amount itself whenever some decimal has the exact
result; otherwise the result is rounded, at the largest scale that has room for it.
-/
namespace Passbook

namespace Account
variable {clock : Clock} {amount : Decimal} {a b : Account} {e : BankError}

theorem deposit_eq_ok_iff : a.deposit clock amount = .ok b ↔
    ∃ c, Decimal.IsSum a.balance amount c ∧ b = a.record clock .deposit amount c := by
  simp only [← Decimal.add?_eq_some_iff]
  unfold deposit
  cases hs : a.balance.add? amount with
  | none => simp
  | some c => simp [eq_comm]

theorem deposit_eq_error_iff : a.deposit clock amount = .error e ↔
    (2 : ℚ) ^ 96 - 1 / 2 ≤ |a.balance.value + amount.value| ∧ e = overflow (.deposit amount) := by
  rw [← Decimal.cast_limit, ← Decimal.add?_eq_none_iff]
  unfold deposit
  cases hs : a.balance.add? amount with
  | none => simp [eq_comm]
  | some c => simp

theorem withdraw_eq_ok_iff : a.withdraw clock amount = .ok b ↔ amount.value ≤ a.balance.value ∧
    ∃ c, Decimal.IsSum a.balance amount.neg c ∧ b = a.record clock .withdrawal amount c := by
  rw [Decimal.value_le_value, ← Decimal.not_lt_iff]
  simp only [← Decimal.add?_eq_some_iff]
  unfold withdraw
  by_cases hlt : a.balance < amount
  · simp [hlt]
  · rw [if_neg hlt, Decimal.sub?]
    cases hs : a.balance.add? amount.neg with
    | none => simp
    | some c => simp [hlt, eq_comm]

theorem deposit_of_add? {c : Decimal} (h : a.balance.add? amount = some c) :
    a.deposit clock amount = .ok (a.record clock .deposit amount c) :=
  deposit_eq_ok_iff.mpr ⟨c, Decimal.add?_eq_some_iff.mp h, rfl⟩

theorem withdraw_of_add? {c : Decimal} (hle : amount.value ≤ a.balance.value)
    (h : a.balance.add? amount.neg = some c) :
    a.withdraw clock amount = .ok (a.record clock .withdrawal amount c) :=
  withdraw_eq_ok_iff.mpr ⟨hle, c, Decimal.add?_eq_some_iff.mp h, rfl⟩

theorem withdraw_eq_error_iff : a.withdraw clock amount = .error e ↔
    (a.balance.value < amount.value ∧ e = .insufficientFunds amount a.balance) ∨
    (amount.value ≤ a.balance.value ∧ (2 : ℚ) ^ 96 - 1 / 2 ≤ a.balance.value - amount.value ∧
      e = overflow (.withdraw amount)) := by
  unfold withdraw
  by_cases hlt : a.balance < amount
  · have hv : a.balance.value < amount.value := Decimal.value_lt_value.mpr hlt
    simp [hlt, hv, not_le.mpr hv, eq_comm]
  · have hv : amount.value ≤ a.balance.value := Decimal.value_le_value.mpr (Decimal.not_lt_iff.mp hlt)
    have habs : |a.balance.value + amount.neg.value| = a.balance.value - amount.value := by
      rw [Decimal.value_neg, ← sub_eq_add_neg, abs_of_nonneg (by linarith)]
    have hnone := Decimal.add?_eq_none_iff (a := a.balance) (b := amount.neg)
    rw [habs, Decimal.cast_limit] at hnone
    rw [← hnone, if_neg hlt, Decimal.sub?]
    cases hs : a.balance.add? amount.neg with
    | none => simp [hv, not_lt.mpr hv, eq_comm]
    | some c => simp [not_lt.mpr hv]

theorem read_overflow (op : Operation) :
    ∃ input, overflow op = .invalidOperation input .balanceOverflow ∧ Operation.read input = .ok op :=
  ⟨op.text, rfl, op.read_text⟩

/-- Operations fail exactly at the edge of the range, and otherwise record the rounded result. -/
theorem operations_fail_out_of_range (clock : Clock) (a : Account) (amount : Decimal) :
    ((∃ e, a.deposit clock amount = .error e) ↔
      (2 : ℚ) ^ 96 - 1 / 2 ≤ |a.balance.value + amount.value|) ∧
    (∀ e, a.deposit clock amount = .error e → ∃ input, e = .invalidOperation input .balanceOverflow ∧
      Operation.read input = .ok (.deposit amount)) ∧
    (a.withdraw clock amount = .error (.insufficientFunds amount a.balance) ↔
      a.balance.value < amount.value) ∧
    ((∃ input fault, a.withdraw clock amount = .error (.invalidOperation input fault)) ↔
      amount.value ≤ a.balance.value ∧ (2 : ℚ) ^ 96 - 1 / 2 ≤ a.balance.value - amount.value) ∧
    (0 ≤ amount.value → ∀ input fault, a.withdraw clock amount ≠ .error (.invalidOperation input fault)) ∧
    (∀ e, a.withdraw clock amount = .error e → e = .insufficientFunds amount a.balance ∨
      ∃ input, e = .invalidOperation input .balanceOverflow ∧ Operation.read input = .ok (.withdraw amount)) ∧
    (∀ b, a.deposit clock amount = .ok b ↔
      ∃ c, Decimal.IsSum a.balance amount c ∧ b = a.record clock .deposit amount c) ∧
    (∀ b, a.withdraw clock amount = .ok b ↔ amount.value ≤ a.balance.value ∧
      ∃ c, Decimal.IsSum a.balance amount.neg c ∧ b = a.record clock .withdrawal amount c) := by
  have hinvalid : (∃ input fault, a.withdraw clock amount = .error (.invalidOperation input fault)) ↔
      amount.value ≤ a.balance.value ∧ (2 : ℚ) ^ 96 - 1 / 2 ≤ a.balance.value - amount.value := by
    constructor
    · rintro ⟨input, fault, h⟩
      obtain ⟨-, he⟩ | ⟨hle, hbound, -⟩ := withdraw_eq_error_iff.mp h
      · cases he
      · exact ⟨hle, hbound⟩
    · rintro ⟨hle, hbound⟩
      exact ⟨_, _, withdraw_eq_error_iff.mpr (Or.inr ⟨hle, hbound, rfl⟩)⟩
  refine ⟨?_, ?_, ?_, hinvalid, ?_, ?_, fun _ => deposit_eq_ok_iff, fun _ => withdraw_eq_ok_iff⟩
  · constructor
    · rintro ⟨e, h⟩
      exact (deposit_eq_error_iff.mp h).1
    · intro hbound
      exact ⟨_, deposit_eq_error_iff.mpr ⟨hbound, rfl⟩⟩
  · intro e h
    obtain ⟨-, rfl⟩ := deposit_eq_error_iff.mp h
    exact read_overflow _
  · constructor
    · intro h
      obtain ⟨hlt, -⟩ | ⟨-, -, he⟩ := withdraw_eq_error_iff.mp h
      · exact hlt
      · cases he
    · intro hlt
      exact withdraw_eq_error_iff.mpr (Or.inl ⟨hlt, rfl⟩)
  · intro hnonneg input fault h
    obtain ⟨-, hbound⟩ := hinvalid.mp ⟨input, fault, h⟩
    have hbalance := (le_abs_self _).trans_lt a.balance.abs_value_lt
    rw [Decimal.cast_limit] at hbalance
    linarith
  · intro e h
    obtain ⟨-, rfl⟩ | ⟨-, -, rfl⟩ := withdraw_eq_error_iff.mp h
    · exact Or.inl rfl
    · exact Or.inr (read_overflow _)

/-- One half is too much for the largest balance, a little less than one half is not. -/
theorem operations_fail_out_of_range_at_limit :
    let most : Decimal := ⟨79228162514264337593543950335, 0, by decide, by decide⟩
    let half : Decimal := ⟨5, 1, by decide, by decide⟩
    let a : Account := { owner := "Ada", number := "1", balance := most }
    (∃ input, a.deposit .still half = .error (.invalidOperation input .balanceOverflow) ∧
      Operation.read input = .ok (.deposit half)) ∧
    (∃ input fault, a.withdraw .still half.neg = .error (.invalidOperation input fault)) ∧
    ¬ (∃ e, a.deposit .still ⟨49, 2, by decide, by decide⟩ = .error e) ∧
    0 ≤ half.value ∧ ∀ input fault, a.withdraw .still half ≠ .error (.invalidOperation input fault) := by
  intro most half a
  have hmost : most.value = 79228162514264337593543950335 := by norm_num [most, Decimal.value]
  have hhalf : half.value = 1 / 2 := by norm_num [half, Decimal.value]
  have hneg : half.neg.value = -(1 / 2) := by rw [Decimal.value_neg, hhalf]
  have hless : Decimal.value ⟨49, 2, by decide, by decide⟩ = 49 / 100 := by norm_num [Decimal.value]
  obtain ⟨hdeposit, herror, -, -, hnever, -⟩ := operations_fail_out_of_range .still a half
  obtain ⟨-, -, -, hinvalid, -⟩ := operations_fail_out_of_range .still a half.neg
  obtain ⟨hless', -⟩ := operations_fail_out_of_range .still a ⟨49, 2, by decide, by decide⟩
  have hnonneg : 0 ≤ half.value := by
    rw [hhalf]
    norm_num
  refine ⟨?_, ?_, ?_, hnonneg, hnever hnonneg⟩
  · obtain ⟨e, he⟩ := hdeposit.mpr (by rw [show a.balance = most from rfl, hmost, hhalf]; norm_num)
    obtain ⟨input, rfl, hread⟩ := herror e he
    exact ⟨input, he, hread⟩
  · exact hinvalid.mpr (by rw [show a.balance = most from rfl, hmost, hneg]; norm_num)
  · rw [hless', show a.balance = most from rfl, hmost, hless]
    norm_num

/-- Rounding never turns a balance around: it grows with what is paid in and falls with what is
taken out, and a withdrawal does not take it below zero. -/
theorem balance_moves_with_amount (clock : Clock) (a b : Account) (amount : Decimal) :
    (a.deposit clock amount = .ok b →
      (0 ≤ amount.value → a.balance.value ≤ b.balance.value) ∧
      (amount.value ≤ 0 → b.balance.value ≤ a.balance.value)) ∧
    (a.withdraw clock amount = .ok b →
      (0 ≤ amount.value → 0 ≤ b.balance.value ∧ b.balance.value ≤ a.balance.value) ∧
      (amount.value ≤ 0 → a.balance.value ≤ b.balance.value ∧ 0 ≤ b.balance.value)) := by
  constructor
  · intro h
    obtain ⟨c, hc, rfl⟩ := deposit_eq_ok_iff.mp h
    exact ⟨hc.le_value, hc.value_le⟩
  · intro h
    obtain ⟨hle, c, hc, rfl⟩ := withdraw_eq_ok_iff.mp h
    have hneg : amount.neg.value = -amount.value := amount.value_neg
    have hnonneg : 0 ≤ c.value :=
      Decimal.sub?_nonneg (Decimal.add?_eq_some_iff.mpr hc) (Decimal.value_le_value.mp hle)
    constructor
    · intro hpaid
      exact ⟨hnonneg, hc.value_le (by linarith)⟩
    · intro hpaid
      exact ⟨hc.le_value (by linarith), hnonneg⟩

/-- A deposit and a negative withdrawal of the last digit make a balance of 29 digits grow, although
one digit of it is lost. -/
theorem balance_moves_with_amount_across_scales :
    let old : Decimal := ⟨79228162514264337593543950335, 28, by decide, by decide⟩
    let last : Decimal := ⟨1, 28, by decide, by decide⟩
    let a : Account := { owner := "Ada", number := "1", balance := old }
    (∃ b, a.deposit .still last = .ok b ∧ b.balance.scale = 27 ∧ a.balance.value ≤ b.balance.value) ∧
    ∃ b, a.withdraw .still last.neg = .ok b ∧ b.balance.scale = 27 ∧ a.balance.value ≤ b.balance.value ∧
      0 ≤ b.balance.value := by
  intro old last a
  let rounded : Decimal := ⟨7922816251426433759354395034, 27, by decide, by decide⟩
  have hadd : old.add? last = some rounded := by decide +kernel
  have hsub : old.add? last.neg.neg = some rounded := by decide +kernel
  have hle : last.neg.value ≤ old.value := Decimal.value_le_value.mpr (by decide)
  have hlast : 0 ≤ last.value := Decimal.value_nonneg (by decide)
  have hneg : last.neg.value ≤ 0 := by
    rw [Decimal.value_neg]
    linarith
  have hdeposit : a.deposit .still last = .ok (a.record .still .deposit last rounded) := deposit_of_add? hadd
  have hwithdraw : a.withdraw .still last.neg = .ok (a.record .still .withdrawal last.neg rounded) :=
    withdraw_of_add? hle hsub
  exact ⟨⟨_, hdeposit, rfl, ((balance_moves_with_amount .still a _ last).1 hdeposit).1 hlast⟩,
    ⟨_, hwithdraw, rfl, ((balance_moves_with_amount .still a _ last.neg).2 hwithdraw).2 hneg⟩⟩

/-- An operation moves the balance by its amount if any decimal has the exact result, and else to
the exact result rounded half to even, of which no digit is lost that there is room for. -/
theorem balance_moves_by_amount_if_decimal (clock : Clock) (a b : Account) (amount : Decimal) :
    (a.deposit clock amount = .ok b →
      (b.balance.value = a.balance.value + amount.value ↔
        ∃ d : Decimal, d.value = a.balance.value + amount.value) ∧
      IsNearest ((a.balance.value + amount.value) * 10 ^ b.balance.scale) b.balance.coefficient ∧
      b.balance.scale ≤ max a.balance.scale amount.scale ∧
      (b.balance.value ≠ a.balance.value + amount.value →
        ∀ s, b.balance.scale < s → s ≤ max a.balance.scale amount.scale →
          (2 : ℚ) ^ 96 - 1 / 2 ≤ |a.balance.value + amount.value| * 10 ^ s)) ∧
    (a.withdraw clock amount = .ok b →
      (b.balance.value = a.balance.value - amount.value ↔
        ∃ d : Decimal, d.value = a.balance.value - amount.value) ∧
      IsNearest ((a.balance.value - amount.value) * 10 ^ b.balance.scale) b.balance.coefficient ∧
      b.balance.scale ≤ max a.balance.scale amount.scale ∧
      (b.balance.value ≠ a.balance.value - amount.value →
        ∀ s, b.balance.scale < s → s ≤ max a.balance.scale amount.scale →
          (2 : ℚ) ^ 96 - 1 / 2 ≤ |a.balance.value - amount.value| * 10 ^ s)) := by
  constructor
  · intro h
    obtain ⟨c, hc, rfl⟩ := deposit_eq_ok_iff.mp h
    exact ⟨hc.value_eq_iff, hc.roundsTo.nearest, hc.scale_le, fun hne _ => hc.no_room hne⟩
  · intro h
    obtain ⟨-, c, hc, rfl⟩ := withdraw_eq_ok_iff.mp h
    have he : a.balance.value - amount.value = a.balance.value + amount.neg.value := by
      rw [Decimal.value_neg, sub_eq_add_neg]
    rw [he]
    exact ⟨hc.value_eq_iff, hc.roundsTo.nearest, hc.scale_le, fun hne _ => hc.no_room hne⟩

/-- The first results have no room at the scale of the amount, and are exact all the same. The others
have no room at the 28 places of the amount, and are rounded to 27. -/
theorem balance_moves_by_amount_if_decimal_elsewhere :
    let old : Decimal := ⟨79228162514264337593543950330, 0, by decide, by decide⟩
    let five : Decimal := ⟨50, 1, by decide, by decide⟩
    let a : Account := { owner := "Ada", number := "1", balance := old }
    let tiny : Decimal := ⟨16, 28, by decide, by decide⟩
    let c : Account := { owner := "Ada", number := "1", balance := ⟨1049, 2, by decide, by decide⟩ }
    (∃ b, a.deposit .still five = .ok b ∧ b.balance.value = a.balance.value + five.value) ∧
    (∃ b, a.withdraw .still five = .ok b ∧ b.balance.value = a.balance.value - five.value) ∧
    (∃ b, c.deposit .still tiny = .ok b ∧ b.balance.scale = 27 ∧
      b.balance.value ≠ c.balance.value + tiny.value ∧
      (2 : ℚ) ^ 96 - 1 / 2 ≤ |c.balance.value + tiny.value| * 10 ^ 28) ∧
    ∃ b, c.withdraw .still tiny = .ok b ∧ b.balance.scale = 27 ∧
      b.balance.value ≠ c.balance.value - tiny.value ∧
      (2 : ℚ) ^ 96 - 1 / 2 ≤ |c.balance.value - tiny.value| * 10 ^ 28 := by
  intro old five a tiny c
  let more : Decimal := ⟨79228162514264337593543950335, 0, by decide, by decide⟩
  let less : Decimal := ⟨79228162514264337593543950325, 0, by decide, by decide⟩
  let above : Decimal := ⟨10490000000000000000000000002, 27, by decide, by decide⟩
  let below : Decimal := ⟨10489999999999999999999999998, 27, by decide, by decide⟩
  have hadd : old.add? five = some more := by decide +kernel
  have hsub : old.add? five.neg = some less := by decide +kernel
  have hle : five.value ≤ old.value := Decimal.value_le_value.mpr (by decide)
  have hmore : more.value = old.value + five.value := by norm_num [more, old, five, Decimal.value]
  have hless : less.value = old.value - five.value := by norm_num [less, old, five, Decimal.value]
  have hdeposit : a.deposit .still five = .ok (a.record .still .deposit five more) := deposit_of_add? hadd
  have hwithdraw : a.withdraw .still five = .ok (a.record .still .withdrawal five less) := withdraw_of_add? hle hsub
  have habove : c.balance.add? tiny = some above := by decide +kernel
  have hbelow : c.balance.add? tiny.neg = some below := by decide +kernel
  have htiny : tiny.value ≤ c.balance.value := Decimal.value_le_value.mpr (by decide)
  have hup : above.value ≠ c.balance.value + tiny.value := by norm_num [above, c, tiny, Decimal.value]
  have hdown : below.value ≠ c.balance.value - tiny.value := by norm_num [below, c, tiny, Decimal.value]
  have hdeposit' : c.deposit .still tiny = .ok (c.record .still .deposit tiny above) := deposit_of_add? habove
  have hwithdraw' : c.withdraw .still tiny = .ok (c.record .still .withdrawal tiny below) :=
    withdraw_of_add? htiny hbelow
  obtain ⟨-, -, -, hroom⟩ := (balance_moves_by_amount_if_decimal .still c _ tiny).1 hdeposit'
  obtain ⟨-, -, -, hroom'⟩ := (balance_moves_by_amount_if_decimal .still c _ tiny).2 hwithdraw'
  exact ⟨⟨_, hdeposit, ((balance_moves_by_amount_if_decimal .still a _ five).1 hdeposit).1.mpr ⟨more, hmore⟩⟩,
    ⟨_, hwithdraw, ((balance_moves_by_amount_if_decimal .still a _ five).2 hwithdraw).1.mpr ⟨less, hless⟩⟩,
    ⟨_, hdeposit', rfl, hup, hroom hup 28 (by decide) (by decide)⟩,
    ⟨_, hwithdraw', rfl, hdown, hroom' hdown 28 (by decide) (by decide)⟩⟩

/-- The smallest amount is lost on a balance of 10, whether it is paid in or taken out. -/
theorem smallest_amount_is_lost :
    let ten : Decimal := ⟨10, 0, by decide, by decide⟩
    let last : Decimal := ⟨1, 28, by decide, by decide⟩
    let a : Account := { owner := "X", number := "1", balance := ten }
    ∃ b c, a.deposit .still last = .ok b ∧ a.withdraw .still last = .ok c ∧
      b.balance.value ≠ a.balance.value + last.value ∧ c.balance.value ≠ a.balance.value - last.value := by
  intro ten last a
  let unmoved : Decimal := ⟨10000000000000000000000000000, 27, by decide, by decide⟩
  have hadd : ten.add? last = some unmoved := by decide +kernel
  have hsub : ten.add? last.neg = some unmoved := by decide +kernel
  have hle : last.value ≤ ten.value := Decimal.value_le_value.mpr (by decide)
  have hunmoved : unmoved.value = ten.value := by norm_num [unmoved, ten, Decimal.value]
  have hlast : last.value ≠ 0 := by norm_num [last, Decimal.value]
  refine ⟨a.record .still .deposit last unmoved, a.record .still .withdrawal last unmoved,
    deposit_of_add? hadd, withdraw_of_add? hle hsub, ?_, ?_⟩
  · intro h
    have hmoved : ten.value + last.value = ten.value := h.symm.trans hunmoved
    exact hlast (by linarith)
  · intro h
    have hmoved : ten.value - last.value = ten.value := h.symm.trans hunmoved
    exact hlast (by linarith)

end Account

end Passbook
