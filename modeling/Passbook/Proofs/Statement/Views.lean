import Passbook.Proofs.Decimal.Currency
import Passbook.Proofs.Ledger
import Passbook.Proofs.Plan.Files
import Passbook.Proofs.Session.Accounting
import Passbook.Proofs.Session.Composition
import Passbook.Proofs.Statement.Document
import Passbook.Proofs.Statement.Rows

/-! # One balance, several views

A balance is shown by reports, in the rows of a statement and in its JSON document. The views are
made from different fields by different writers; here they are read back from the texts and held
against each other. They agree since the balance of an account is the one after its last entry.
-/
namespace Passbook

namespace Statement

def fieldsOf (cs : List Char) : List String := (cs.splitOn ',').map String.ofList

/-- The fields of all rows but the heading. -/
def rowsOf (text : String) : List (List String) :=
  ((text.toList.splitOn '\n').dropLast.drop 1).map fieldsOf

theorem fieldsOf_line_row (tx : Transaction) : fieldsOf (line (row tx)) = row tx := by
  have hid : (String.ofList ∘ String.toList) = id := funext fun _ => String.ofList_toList
  rw [fieldsOf, splitOn_line_row, List.map_map, hid, List.map_id]

theorem map_fieldsOf (txs : List Transaction) : ((txs.map row).map line).map fieldsOf = txs.map row := by
  induction txs with
  | nil => rfl
  | cons tx txs ih => rw [List.map_cons, List.map_cons, List.map_cons, fieldsOf_line_row, ih]

theorem rowsOf_csv (a : Account) : rowsOf (csv a) = a.history.map row := by
  rw [rowsOf, splitOn_csv, List.dropLast_concat, lines, List.map_cons, List.drop_one, List.tail_cons,
    map_fieldsOf]

/-- A row and an entry of the document tell of the same transaction: kind and amount are the same
texts, and the row shows the cents of the balance that the entry has in full. -/
inductive Matches : List String → Value → Prop
  | intro {stamp kind amount balance : String} {after : Decimal} {item : Value}
      (kindIs : item.get? "kind" = some (.text kind)) (amountIs : item.get? "amount" = some (.text amount))
      (balanceIs : item.get? "balance_after" = some (.text balance)) (reads : Decimal.read balance = .ok after) :
      Matches [stamp, kind, amount, after.currency] item

theorem matches_entry (tx : Transaction) : Matches (row tx) (entry tx) :=
  .intro rfl rfl rfl tx.balanceAfter.read_text

theorem forall₂_matches (txs : List Transaction) : List.Forall₂ Matches (txs.map row) (txs.map entry) := by
  rw [List.forall₂_map_left_iff, List.forall₂_map_right_iff, List.forall₂_same]
  exact fun tx _ => matches_entry tx

end Statement

namespace Session
variable {clock : Clock} {policy : Policy} {a : Account} {ops : List Operation} {s : Summary}

theorem run_balance_of_last {tx : Transaction} (ha : a.history = [])
    (h : (run clock policy a ops).account.history.getLast? = some tx) :
    (run clock policy a ops).account.balance = tx.balanceAfter := by
  obtain ⟨entries, he, hp⟩ := (continues_run clock policy a ops).posted
  rw [ha, List.nil_append] at he
  have hlast := hp.last
  rw [← he, h] at hlast
  exact hlast

theorem run_report (h : (run clock policy a ops).outcome = .ok s) :
    (run clock policy a (ops ++ [.reportBalance])).console =
      (run clock policy a ops).console ++ [(run clock policy a ops).account.balanceLine] :=
  congrArg State.console (run_append_ok h [.reportBalance]).1

end Session

namespace Plan
open Statement

/-- Report, summary, rows and document of a completed session show one final balance, and the rows
and the document list the same transactions. -/
theorem views_agree {clock : Clock} {p : Plan} {s : Summary}
    (h : (Session.run clock p.policy p.account p.operations).outcome = .ok s) :
    let r := Session.run clock p.policy p.account p.operations
    let rows := rowsOf (render .csv r.account)
    ∃ (document : Value) (items : List Value), Json.read (render .json r.account) = some document ∧
      document.get? "balance" = some (.text s.finalBalance.currency) ∧
      (Session.run clock p.policy p.account (p.operations ++ [.reportBalance])).console =
        r.console ++ [p.owner ++ "'s account balance: $" ++ s.finalBalance.currency] ∧
      (r.account.history ≠ [] → ∃ fields, rows.getLast? = some fields ∧
        fields.getLast? = some s.finalBalance.currency) ∧
      document.get? "transactions" = some (.list items) ∧ List.Forall₂ Matches rows items ∧
      rows.length + p.operations.countP Operation.isReport = s.applied ∧
      ∀ tree report, (p.execute clock tree).result = .ok report → report.summary = s := by
  intro r rows
  have hc := Session.completes_runFrom clock p.policy 1 p.account p.operations s h
  have hrows : rows = r.account.history.map row := rowsOf_csv r.account
  have hbalance : s.finalBalance = r.account.balance := hc.finalBalance
  rw [hbalance]
  refine ⟨document r.account, r.account.history.map entry, read_json r.account, rfl, ?_, ?_, rfl, ?_, ?_, ?_⟩
  · have howner : r.account.owner = p.owner := (Session.continues_run clock p.policy p.account p.operations).owner
    rw [Session.run_report h, Account.balanceLine, howner]
  · intro hne
    have hlast := List.getLast?_eq_some_getLast hne
    refine ⟨row (r.account.history.getLast hne), ?_, ?_⟩
    · rw [hrows, List.getLast?_map, hlast]
      rfl
    · rw [Session.run_balance_of_last rfl hlast]
      rfl
  · rw [hrows]
    exact forall₂_matches r.account.history
  · obtain ⟨entries, he, hn⟩ := hc.history
    have hlength : rows.length = entries.length := by
      rw [hrows, List.length_map, show r.account.history = [] ++ entries from he, List.nil_append]
    rw [hlength, hn]
  · intro tree report hx
    rw [(execute_of_completed h tree).1] at hx
    obtain ⟨files, -, rfl⟩ := map_eq_ok_iff.mp hx
    rfl

/-- One withdrawal is refused and passed over, and the balance after the other has a tie to round. -/
theorem views_agree_past_refusal :
    let amount : Decimal := ⟨625, 3, by decide, by decide⟩
    let p : Plan := ⟨"Ada", "1", ⟨75, 2, by decide, by decide⟩,
      [.withdraw amount, .reportBalance, .withdraw amount], .proceed, none⟩
    let r := Session.run .still p.policy p.account p.operations
    ∃ s document, r.outcome = .ok s ∧ s.finalBalance = ⟨125, 3, by decide, by decide⟩ ∧ s.applied = 2 ∧
      (rowsOf (render .csv r.account)).length = 1 ∧ Json.read (render .json r.account) = some document ∧
      document.get? "balance" = some (.text s.finalBalance.currency) ∧
      ∃ fields, (rowsOf (render .csv r.account)).getLast? = some fields ∧
        fields.getLast? = some s.finalBalance.currency := by
  intro amount p r
  obtain ⟨s, h, hfinal, happlied⟩ : ∃ s, r.outcome = .ok s ∧
      s.finalBalance = ⟨125, 3, by decide, by decide⟩ ∧ s.applied = 2 := by
    dsimp only [r, p, amount]
    exact ⟨_, rfl, rfl, rfl⟩
  have hposted : r.account.history ≠ [] := by
    dsimp only [r, p, amount]
    decide
  have hreports : p.operations.countP Operation.isReport = 1 := rfl
  clear_value p
  obtain ⟨document, items, hread, hbalance, -, hlast, -, -, hcount, -⟩ := views_agree h
  refine ⟨s, document, h, hfinal, happlied, ?_, hread, hbalance, hlast hposted⟩
  rw [hreports, happlied] at hcount
  exact Nat.succ.inj hcount

end Plan

namespace Account
open Decimal Statement Text

/-- Wherever a balance is shown, it has its two places unless it is too large for them. -/
theorem cents_shown_iff_room (v : Decimal) (a : Account) :
    (ShowsCents v.currency ↔ |v.value| * 100 < 2 ^ 96 - 1 / 2) ∧
    (∃ shown, a.balanceLine = a.owner ++ "'s account balance: $" ++ shown ∧
      (ShowsCents shown ↔ |a.balance.value| * 100 < 2 ^ 96 - 1 / 2)) ∧
    (∃ document shown, Json.read (json a) = some document ∧ document.get? "balance" = some (.text shown) ∧
      (ShowsCents shown ↔ |a.balance.value| * 100 < 2 ^ 96 - 1 / 2)) ∧
    List.Forall₂ (fun fields tx => ∃ shown, fields.getLast? = some shown ∧
      (ShowsCents shown ↔ |tx.balanceAfter.value| * 100 < 2 ^ 96 - 1 / 2)) (rowsOf (csv a)) a.history := by
  have hcents (d : Decimal) : ShowsCents d.currency ↔ |d.value| * 100 < 2 ^ 96 - 1 / 2 := by
    rw [showsCents_currency_iff, cast_limit]
  refine ⟨hcents v, ⟨_, rfl, hcents _⟩, ⟨_, _, read_json a, rfl, hcents _⟩, ?_⟩
  rw [rowsOf_csv, List.forall₂_map_left_iff, List.forall₂_same]
  exact fun tx _ => ⟨_, rfl, hcents tx.balanceAfter⟩

/-- The first whole balance whose second place has no room. -/
theorem cents_not_shown_without_room :
    let v : Decimal := ⟨792281625142643375935439504, 0, by decide, by decide⟩
    let a : Account := { owner := "Ada", number := "1", balance := v }
    v.currency = "792281625142643375935439504.0" ∧ ¬ ShowsCents v.currency ∧
    a.balanceLine = "Ada's account balance: $792281625142643375935439504.0" := by
  intro v a
  have hrounded : v.rounded = ⟨7922816251426433759354395040, 1, by decide, by decide⟩ := by decide +kernel
  have htext : v.currency = "792281625142643375935439504.0" := by
    rw [currency, hrounded]
    simp [text, chars, magnitudeChars, padded, digits, digitChar]
  refine ⟨htext, ?_, ?_⟩
  · rw [currency, showsCents_text_iff, hrounded]
    decide
  · rw [balanceLine, htext]
    rfl

end Account

end Passbook
