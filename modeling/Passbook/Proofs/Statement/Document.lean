import Passbook.Proofs.Decimal.Text
import Passbook.Proofs.Document.Json
import Passbook.Statement

/-! # The statement as a JSON document

Whatever characters the owner and the number are made of, the text of a statement is JSON, and what
is read from it is the document that was written. Amounts and the balances after them stand in it as
exact decimal text; of the balance of the account the text keeps the cents alone.
-/
namespace Passbook.Statement

theorem denotes_entry (level : Nat) (tx : Transaction) :
    Json.Denotes 1 (Json.indentedChars level (entry tx)) (entry tx) := by
  refine Json.denotes_table 0 level (by simp) fun e he => ?_
  simp only [List.mem_cons, List.not_mem_nil, or_false] at he
  rcases he with rfl | rfl | rfl | rfl
  all_goals exact Json.denotes_text 0 _ _

theorem denotes_document (a : Account) : Json.Denotes 3 (json a).toList (document a) := by
  have htransactions : Json.Denotes 2 (Json.indentedChars 1 (.list (a.history.map entry)))
      (.list (a.history.map entry)) := by
    refine Json.denotes_list 1 1 fun v hv => ?_
    obtain ⟨tx, -, rfl⟩ := List.mem_map.mp hv
    exact denotes_entry 2 tx
  rw [json, Json.indented, String.toList_ofList]
  refine Json.denotes_table 2 0 (by simp) fun e he => ?_
  simp only [List.mem_cons, List.not_mem_nil, or_false] at he
  rcases he with rfl | rfl | rfl | rfl
  · exact Json.denotes_text 2 1 a.owner
  · exact Json.denotes_text 2 1 a.number
  · exact Json.denotes_text 2 1 a.balance.currency
  · exact htransactions

theorem read_json (a : Account) : Json.read (json a) = some (document a) :=
  Json.read_of_denotes (by decide) (denotes_document a)

/-- What an entry of a statement tells of a transaction. -/
def told (tx : Transaction) : TransactionKind × Decimal × Decimal := (tx.kind, tx.amount, tx.balanceAfter)

theorem told_eq_of_entry_eq {t u : Transaction} (h : entry t = entry u) : told t = told u := by
  simp only [entry, Value.table.injEq, List.cons.injEq, Prod.mk.injEq, Value.text.injEq, true_and,
    and_true] at h
  obtain ⟨-, hkind, hamount, hbalance⟩ := h
  have hsame : t.kind = u.kind := by
    have hname := t.kind.ofName?_name
    rw [hkind, TransactionKind.ofName?_name] at hname
    exact (Option.some.inj hname).symm
  rw [told, told, hsame, Decimal.text_injective hamount, Decimal.text_injective hbalance]

theorem told_eq_of_entries_eq {ts us : List Transaction} (h : ts.map entry = us.map entry) :
    ts.map told = us.map told := by
  induction ts generalizing us with
  | nil =>
    obtain rfl : us = [] := List.map_eq_nil_iff.mp h.symm
    rfl
  | cons t ts ih =>
    cases us with
    | nil => cases h
    | cons u us =>
      rw [List.map_cons, List.map_cons, List.cons.injEq] at h
      rw [List.map_cons, List.map_cons, told_eq_of_entry_eq h.1, ih h.2]

/-- The text of a statement is JSON and is read back with every name, amount and balance in place;
accounts with the same text have the same names, kinds, amounts and balances after each entry. -/
theorem json_reads_back (a : Account) :
    let transactions : List Value := a.history.map fun tx => .table [
      ("timestamp", .text tx.timestamp.textZ), ("kind", .text tx.kind.name),
      ("amount", .text tx.amount.text), ("balance_after", .text tx.balanceAfter.text)]
    let written : Value := .table [("owner", .text a.owner), ("number", .text a.number),
      ("balance", .text a.balance.currency), ("transactions", .list transactions)]
    Json.Denotes 3 (json a).toList written ∧ Json.read (json a) = some written ∧
    ∀ b : Account, json b = json a →
      b.owner = a.owner ∧ b.number = a.number ∧ b.balance.currency = a.balance.currency ∧
      b.history.map told = a.history.map told := by
  refine ⟨denotes_document a, read_json a, ?_⟩
  intro b h
  have hd : document b = document a := by
    have hb := read_json b
    rw [h, read_json a, Option.some.injEq] at hb
    exact hb.symm
  simp only [document, Value.table.injEq, List.cons.injEq, Prod.mk.injEq, Value.text.injEq,
    Value.list.injEq, true_and, and_true] at hd
  obtain ⟨howner, hnumber, hbalance, hentries⟩ := hd
  exact ⟨howner, hnumber, hbalance, told_eq_of_entries_eq hentries⟩

/-- The name of the owner holds a quote, a backslash and control characters; one of the two accounts
has a tenth of a cent more than the other. -/
theorem json_reads_back_escaped :
    let a : Account := {
      owner := "\"Ada\\\n\x01é", number := "", balance := ⟨10050, 2, by decide, by decide⟩
      history := [⟨default, .deposit, ⟨5, 1, by decide, by decide⟩, ⟨1005, 1, by decide, by decide⟩⟩] }
    let b : Account := { a with balance := ⟨100501, 3, by decide, by decide⟩ }
    json b = json a ∧ b.owner = a.owner ∧ b.history.map told = a.history.map told ∧
    ∃ entries, Json.read (json b) = some (.table (("owner", .text "\"Ada\\\n\x01é") :: entries)) := by
  intro a b
  have hcurrency : b.balance.currency = a.balance.currency := by
    dsimp only [a, b]
    exact congrArg Decimal.text (by decide)
  have hjson : json b = json a := by
    rw [json, json, document, document, hcurrency]
  obtain ⟨-, hread, -⟩ := json_reads_back b
  obtain ⟨-, -, hsame⟩ := json_reads_back a
  obtain ⟨howner, -, -, htold⟩ := hsame b hjson
  exact ⟨hjson, howner, htold, _, hread⟩

end Passbook.Statement
