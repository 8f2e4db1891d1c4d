import Mathlib.Algebra.Order.BigOperators.Group.List
import Passbook.Proofs.Decimal.Sum
import Passbook.Proofs.Session.Progress

/-! # Money is conserved

As long as everything that a session moves, taken together, fits at a scale which all its amounts
keep to, no operation overflows and none rounds. The balance is then, as an exact number, what
was there at the start with the deposits added and the accepted withdrawals taken off.
-/
namespace Passbook

/-- What an operation can change the balance by, at most. -/
def Operation.size (op : Operation) : ℚ := op.amount?.elim 0 (|·.value|)

theorem Operation.size_nonneg (op : Operation) : 0 ≤ op.size := by
  cases op <;> simp [size, amount?]

def Operation.deposit? : Operation → Option Decimal
  | .deposit amount => some amount
  | _ => none

/-- The amount that an operation pays out, if it is a withdrawal that succeeds. -/
def Account.payout? (clock : Clock) (a : Account) : Operation → Option Decimal
  | .withdraw amount => (a.withdraw clock amount).toOption.map fun _ => amount
  | _ => none

def Decimal.total (amounts : List Decimal) : ℚ := (amounts.map value).sum

theorem Decimal.total_append (xs ys : List Decimal) : total (xs ++ ys) = total xs + total ys := by
  simp [total]

namespace Session
variable {clock : Clock} {a b : Account} {op : Operation} {ops : List Operation} {x y : Decimal} {s : Nat}

/-- All amounts keep to a scale, and all of them together fit at that scale. -/
structure InRange (s : Nat) (initial : Decimal) (ops : List Operation) : Prop where
  scale_le : s ≤ 28
  initial_scale : initial.scale ≤ s
  amount_scale : ∀ op ∈ ops, ∀ amount, op.amount? = some amount → amount.scale ≤ s
  total_lt : (|initial.value| + (ops.map Operation.size).sum) * 10 ^ s < 2 ^ 96

/-- The withdrawals that succeed among the first `i` operations. -/
def payouts (clock : Clock) (a : Account) (ops : List Operation) (i : Nat) : List Decimal :=
  (List.range i).filterMap fun j => ops[j]?.bind ((metAt clock a ops j).payout? clock)

def deposits (ops : List Operation) : List Decimal := ops.filterMap Operation.deposit?

namespace InRange

theorem tail (h : InRange s x (op :: ops)) (hs : y.scale ≤ s) (hy : |y.value| ≤ |x.value| + op.size) :
    InRange s y ops := by
  refine ⟨h.scale_le, hs, fun op' h' => h.amount_scale op' (List.mem_cons_of_mem op h'), ?_⟩
  have ht := h.total_lt
  rw [List.map_cons, List.sum_cons, ← add_assoc] at ht
  refine lt_of_le_of_lt ?_ ht
  gcongr

theorem fits (h : InRange s x (op :: ops)) {v : ℚ} (hv : |v| ≤ |x.value| + op.size) :
    |v| * 10 ^ s < Decimal.limit := by
  have hl : (Decimal.limit : ℚ) = 2 ^ 96 := by norm_num [Decimal.limit, pow2]
  have hn : 0 ≤ (ops.map Operation.size).sum := by
    apply List.sum_nonneg
    intro size hsize
    obtain ⟨op', -, rfl⟩ := List.mem_map.mp hsize
    exact op'.size_nonneg
  have ht := h.total_lt
  rw [List.map_cons, List.sum_cons] at ht
  rw [hl]
  refine lt_of_le_of_lt ?_ ht
  gcongr
  linarith

theorem deposit {amount : Decimal} (h : InRange s a.balance (.deposit amount :: ops)) (clock : Clock) :
    ∃ b, a.apply clock (.deposit amount) = .ok b ∧ InRange s b.balance ops ∧
      b.balance.value = a.balance.value + amount.value := by
  have hv : |a.balance.value + amount.value| ≤ |a.balance.value| + (Operation.deposit amount).size :=
    abs_add_le _ _
  have hs : amount.scale ≤ s := h.amount_scale _ List.mem_cons_self amount rfl
  obtain ⟨c, hc, hcs, hcv⟩ := Decimal.add?_exact h.scale_le h.initial_scale hs (h.fits hv)
  refine ⟨a.record clock .deposit amount c, ?_, h.tail hcs (hcv ▸ hv), hcv⟩
  simp [Account.apply, Account.deposit, hc]

theorem withdraw {amount : Decimal} (h : InRange s a.balance (.withdraw amount :: ops)) (clock : Clock)
    (hle : ¬ a.balance < amount) :
    ∃ b, a.withdraw clock amount = .ok b ∧ InRange s b.balance ops ∧
      b.balance.value = a.balance.value - amount.value := by
  have hv : |a.balance.value - amount.value| ≤ |a.balance.value| + (Operation.withdraw amount).size := by
    rw [sub_eq_add_neg]
    exact (abs_add_le _ _).trans_eq (by rw [abs_neg]; rfl)
  have hs : amount.scale ≤ s := h.amount_scale _ List.mem_cons_self amount rfl
  obtain ⟨c, hc, hcs, hcv⟩ := Decimal.sub?_exact h.scale_le h.initial_scale hs (h.fits hv)
  refine ⟨a.record clock .withdrawal amount c, ?_, h.tail hcs (hcv ▸ hv), hcv⟩
  simp [Account.withdraw, hle, hc]

/-- In the range an operation fails only by being refused. What it leaves is in the range again, and
differs from what was there by the money that went in or out. -/
theorem step (h : InRange s a.balance (op :: ops)) (clock : Clock) :
    (∀ e, a.apply clock op = .error e → a.refusal? op = some e) ∧
    InRange s (a.settle (a.apply clock op)).balance ops ∧
    (a.settle (a.apply clock op)).balance.value =
      a.balance.value + Decimal.total op.deposit?.toList - Decimal.total (a.payout? clock op).toList := by
  have hrest : InRange s a.balance ops :=
    h.tail h.initial_scale (le_add_of_nonneg_right op.size_nonneg)
  cases op with
  | reportBalance =>
    refine ⟨by simp [Account.apply], hrest, ?_⟩
    simp [Account.apply, Account.payout?, Operation.deposit?, Decimal.total]
  | deposit amount =>
    obtain ⟨b, hb, hr, hv⟩ := h.deposit clock
    refine ⟨by simp [hb], by rwa [hb], ?_⟩
    simp [hb, hv, Account.payout?, Operation.deposit?, Decimal.total]
  | withdraw amount =>
    by_cases hlt : a.balance < amount
    · have he : a.withdraw clock amount = .error (.insufficientFunds amount a.balance) := by
        simp [Account.withdraw, hlt]
      refine ⟨by simp [Account.apply, he, Account.refusal?, hlt], by rwa [Account.apply, he], ?_⟩
      simp [Account.apply, he, Account.payout?, Operation.deposit?, Decimal.total, Except.toOption]
    · obtain ⟨b, hb, hr, hv⟩ := h.withdraw clock hlt
      refine ⟨by simp [Account.apply, hb], by rwa [Account.apply, hb], ?_⟩
      simp [Account.apply, hb, hv, Account.payout?, Operation.deposit?, Decimal.total, Except.toOption]

theorem rest (h : InRange s a.balance ops) (clock : Clock) (i : Nat) :
    InRange s (metAt clock a ops i).balance (ops.drop i) := by
  induction i generalizing a ops with
  | zero => exact h
  | succ i ih =>
    cases ops with
    | nil => simpa [metAt] using h
    | cons op ops =>
      rw [metAt_cons_succ]
      exact ih (h.step clock).2.1

theorem rest_cons (h : InRange s a.balance ops) (clock : Clock) {i : Nat} (hop : ops[i]? = some op) :
    InRange s (metAt clock a ops i).balance (op :: ops.drop (i + 1)) := by
  have hi := h.rest clock i
  obtain ⟨hlt, rfl⟩ := List.getElem?_eq_some_iff.mp hop
  rwa [← List.drop_eq_getElem_cons hlt]

theorem reach_eq (h : InRange s a.balance ops) (clock : Clock) :
    reach clock .proceed a ops = ops.length := by
  apply Nat.le_antisymm (reach_le clock .proceed a ops)
  apply le_reach (Nat.le_refl _)
  intro i hi
  have hop : ops[i]? = some ops[i] := List.getElem?_eq_getElem hi
  obtain ⟨hr, -⟩ := (h.rest_cons clock hop).step clock
  cases he : (metAt clock a ops i).apply clock ops[i] with
  | ok b => simp [endsAt, ends, hop, he]
  | error e =>
    have hf := Account.isInsufficientFunds_of_refusal? (hr e he)
    simp [endsAt, ends, hop, he, isPassedOver, hf]

/-- After every operation the balance is the opening balance with what came in and what went out. -/
theorem metAt_value (h : InRange s a.balance ops) (clock : Clock) (i : Nat) :
    (metAt clock a ops i).balance.value =
      a.balance.value + Decimal.total (deposits (ops.take i)) - Decimal.total (payouts clock a ops i) := by
  induction i with
  | zero => simp [deposits, payouts, Decimal.total]
  | succ i ih =>
    have hd : deposits (ops.take (i + 1)) = deposits (ops.take i) ++ deposits ops[i]?.toList := by
      rw [deposits, List.take_add_one, List.filterMap_append]
      rfl
    have hp : payouts clock a ops (i + 1) = payouts clock a ops i ++
        (ops[i]?.bind ((metAt clock a ops i).payout? clock)).toList := by
      rw [payouts, List.range_succ, List.filterMap_append]
      rfl
    rw [hd, hp, Decimal.total_append, Decimal.total_append]
    cases hop : ops[i]? with
    | none =>
      have hm : metAt clock a ops (i + 1) = metAt clock a ops i := by
        simp [metAt, List.take_add_one, hop]
      rw [hm, ih]
      simp [deposits, Decimal.total]
    | some op =>
      obtain ⟨-, -, hv⟩ := (h.rest_cons clock hop).step clock
      have hs : deposits [op] = op.deposit?.toList := by
        cases op <;> rfl
      rw [metAt_succ hop, hv, ih, Option.toList_some, hs, Option.bind_some]
      ring

theorem perm {ops' : List Operation} (h : InRange s x ops) (hp : ops'.Perm ops) : InRange s x ops' := by
  refine ⟨h.scale_le, h.initial_scale, fun op hop => h.amount_scale op (hp.mem_iff.mp hop), ?_⟩
  rw [(hp.map Operation.size).sum_eq]
  exact h.total_lt

theorem run_take_account (h : InRange s a.balance ops) (clock : Clock) {i : Nat} (hi : i ≤ ops.length) :
    (run clock .proceed a (ops.take i)).account = metAt clock a ops i := by
  have hr : reach clock .proceed a (ops.take i) = (ops.take i).length :=
    reach_take (hi.trans_eq (h.reach_eq clock).symm)
  rw [run_account, hr, metAt, List.take_length, metAt]

end InRange

theorem payouts_deposits (clock : Clock) (a : Account) (amounts : List Decimal) (i : Nat) :
    payouts clock a (amounts.map .deposit) i = [] := by
  apply List.filterMap_eq_nil_iff.mpr
  intro j _
  rw [List.getElem?_map]
  cases amounts[j]? <;> rfl

theorem deposits_map (amounts : List Decimal) : deposits (amounts.map .deposit) = amounts := by
  rw [deposits, List.filterMap_map]
  exact List.filterMap_some

theorem run_deposits_value {amounts : List Decimal} (h : InRange s a.balance (amounts.map .deposit))
    (clock : Clock) :
    (run clock .proceed a (amounts.map .deposit)).account.balance.value =
      a.balance.value + Decimal.total amounts := by
  rw [run_account, h.metAt_value, payouts_deposits, h.reach_eq clock, List.take_length, deposits_map]
  simp [Decimal.total]

/-- In the safe range a session that passes over refusals completes, and no money is lost or created
on the way; the order in which money is paid in makes no difference. -/
theorem run_conserves_money (clock clock' : Clock) (h : InRange s a.balance ops) :
    (∃ summary, (run clock .proceed a ops).outcome = .ok summary) ∧
    (∀ i ≤ ops.length, (run clock .proceed a (ops.take i)).account = metAt clock a ops i ∧
      (metAt clock a ops i).balance.value =
        a.balance.value + Decimal.total (deposits (ops.take i)) - Decimal.total (payouts clock a ops i)) ∧
    ∀ amounts amounts' : List Decimal, ops = amounts.map .deposit → amounts'.Perm amounts →
      (run clock' .proceed a (amounts'.map .deposit)).account.balance.value =
        (run clock .proceed a ops).account.balance.value := by
  refine ⟨(runFrom_ok_iff clock .proceed 1 a ops).mpr (h.reach_eq clock), ?_, ?_⟩
  · intro i hi
    exact ⟨h.run_take_account clock hi, h.metAt_value clock i⟩
  · rintro amounts amounts' rfl hp
    rw [run_deposits_value h, run_deposits_value (h.perm (hp.map _)), Decimal.total, Decimal.total,
      (hp.map Decimal.value).sum_eq]

/-- A debt, amounts at three scales, one of them negative, and a refusal in between. -/
theorem run_conserves_money_past_refusal :
    let a : Account := { owner := "Ada", number := "1", balance := ⟨-25, 1, by decide, by decide⟩ }
    let ops : List Operation := [.deposit ⟨1005, 2, by decide, by decide⟩, .withdraw ⟨8, 0, by decide, by decide⟩,
      .withdraw ⟨-30, 1, by decide, by decide⟩, .reportBalance]
    (payouts .still a ops 4).map Decimal.coefficient = [-30] ∧
    (∃ summary, (run .still .proceed a ops).outcome = .ok summary) ∧
    (metAt .still a ops 4).balance.value =
      a.balance.value + Decimal.total (deposits (ops.take 4)) - Decimal.total (payouts .still a ops 4) := by
  intro a ops
  have h : InRange 2 a.balance ops := by
    refine ⟨by decide, by decide, by decide, ?_⟩
    norm_num [a, ops, Operation.size, Operation.amount?, Decimal.value]
  obtain ⟨hok, hval, -⟩ := run_conserves_money .still .still h
  exact ⟨by decide, hok, (hval 4 (by decide)).2⟩

end Session

end Passbook
