import Passbook.Proofs.Decimal.Text
import Passbook.Statement

/-! # The rows of a statement

No field of a row ever holds a reserved character: time stamps and decimals are digits and a few
marks, kinds are words. So no field is quoted, the commas and the line breaks of the text are those
between fields and after rows, and cutting the text at them gives the fields back.
-/
namespace Passbook.Statement

open Text

/-- A field that is written as it is. -/
def Plain (cs : List Char) : Prop := ∀ c ∈ cs, isReserved c = false

theorem plain_nil : Plain [] := by
  intro c h
  cases h

theorem plain_cons {c : Char} {cs : List Char} : Plain (c :: cs) ↔ isReserved c = false ∧ Plain cs :=
  List.forall_mem_cons

theorem plain_append {cs ds : List Char} : Plain (cs ++ ds) ↔ Plain cs ∧ Plain ds :=
  List.forall_mem_append

theorem isReserved_of_isDigit {c : Char} (h : isDigit c = true) : isReserved c = false := by
  have hcomma : c ≠ ',' := ne_of_isDigit h rfl
  have hquote : c ≠ '"' := ne_of_isDigit h rfl
  have hfeed : c ≠ '\n' := ne_of_isDigit h rfl
  have hreturn : c ≠ '\r' := ne_of_isDigit h rfl
  simp [isReserved, hcomma, hquote, hfeed, hreturn]

theorem plain_padded (width n : Nat) : Plain (padded width n) := by
  intro c h
  exact isReserved_of_isDigit (isDigit_of_mem_padded h)

theorem plain_yearChars (y : Int) : Plain (Instant.yearChars y) := by
  unfold Instant.yearChars
  split
  · exact plain_padded 4 _
  · refine plain_cons.mpr ⟨?_, plain_padded 4 _⟩
    split <;> rfl

theorem plain_fractionChars (nanos : Nat) : Plain (Instant.fractionChars nanos) := by
  unfold Instant.fractionChars
  split
  · exact plain_nil
  split
  · exact plain_cons.mpr ⟨rfl, plain_padded 3 _⟩
  split
  · exact plain_cons.mpr ⟨rfl, plain_padded 6 _⟩
  · exact plain_cons.mpr ⟨rfl, plain_padded 9 _⟩

theorem plain_textOffset (t : Instant) : Plain t.textOffset.toList := by
  have hoffset : Plain "+00:00".toList := by simp [Plain, isReserved]
  rw [Instant.textOffset, String.toList_append, String.toList_ofList, plain_append]
  refine ⟨?_, hoffset⟩
  simp only [Instant.stampChars, plain_append, plain_cons, plain_padded, plain_yearChars,
    plain_fractionChars, and_true, true_and]
  decide

theorem plain_name (kind : TransactionKind) : Plain kind.name.toList := by
  cases kind <;> simp [Plain, TransactionKind.name, isReserved]

theorem plain_text (d : Decimal) : Plain d.text.toList := by
  intro c h
  rw [Decimal.text, String.toList_ofList] at h
  rcases Decimal.mem_chars h with h | rfl | rfl
  · exact isReserved_of_isDigit h
  · rfl
  · rfl

theorem plain_heading : ∀ field ∈ heading, Plain field.toList := by
  simp [heading, Plain, isReserved]

theorem plain_row (tx : Transaction) : ∀ field ∈ row tx, Plain field.toList := by
  intro field h
  simp only [row, List.mem_cons, List.not_mem_nil, or_false] at h
  rcases h with rfl | rfl | rfl | rfl
  · exact plain_textOffset tx.timestamp
  · exact plain_name tx.kind
  · exact plain_text tx.amount
  · exact plain_text tx.balanceAfter.rounded

theorem fieldText_of_plain {field : String} (h : Plain field.toList) : fieldText field = field := by
  have hany : field.toList.any isReserved = false := by
    rw [List.any_eq_false]
    intro c hc
    rw [h c hc]
    exact Bool.false_ne_true
  rw [fieldText, hany]
  rfl

/-- The characters of a row without its line break. -/
def line (fields : List String) : List Char := [','].intercalate (fields.map String.toList)

theorem toList_rowText {fields : List String} (h : ∀ field ∈ fields, Plain field.toList) :
    (rowText fields).toList = line fields ++ ['\n'] := by
  have hmap : fields.map fieldText = fields := by
    conv => rhs; rw [← List.map_id fields]
    exact List.map_congr_left fun field hf => fieldText_of_plain (h field hf)
  rw [rowText, hmap, join, String.toList_append, String.toList_intercalate, line]
  rfl

theorem line_singleton (field : String) : line [field] = field.toList := by
  rw [line, List.map_singleton, List.intercalate_singleton]

theorem line_cons_cons (field next : String) (fields : List String) :
    line (field :: next :: fields) = field.toList ++ ',' :: line (next :: fields) := by
  rw [line, List.map_cons, List.map_cons, List.intercalate_cons_cons, List.append_assoc]
  rfl

theorem comma_not_mem_of_plain {cs : List Char} (h : Plain cs) : ',' ∉ cs := by
  intro hc
  cases h ',' hc

/-- Of the reserved characters a row holds the commas alone. -/
theorem eq_comma_of_mem_line {fields : List String} (h : ∀ field ∈ fields, Plain field.toList) {c : Char}
    (hc : c ∈ line fields) (hr : isReserved c = true) : c = ',' := by
  have hplain : ∀ field ∈ fields, c ∉ field.toList := by
    intro field hf hcf
    rw [h field hf c hcf] at hr
    cases hr
  clear h
  induction fields with
  | nil => cases hc
  | cons field fields ih =>
    have hfirst : c ∉ field.toList := hplain field List.mem_cons_self
    cases fields with
    | nil =>
      rw [line_singleton] at hc
      exact absurd hc hfirst
    | cons next fields =>
      rw [line_cons_cons, List.mem_append, List.mem_cons] at hc
      rcases hc with hc | hc | hc
      · exact absurd hc hfirst
      · exact hc
      · exact ih hc fun x hx => hplain x (List.mem_cons_of_mem field hx)

theorem count_line (field : String) (fields : List String)
    (h : ∀ x ∈ field :: fields, Plain x.toList) : (line (field :: fields)).count ',' = fields.length := by
  induction fields generalizing field with
  | nil =>
    rw [line_singleton]
    exact List.count_eq_zero.mpr (comma_not_mem_of_plain (h field List.mem_cons_self))
  | cons next fields ih =>
    have hfirst : field.toList.count ',' = 0 :=
      List.count_eq_zero.mpr (comma_not_mem_of_plain (h field List.mem_cons_self))
    have hrest := ih next fun x hx => h x (List.mem_cons_of_mem field hx)
    rw [line_cons_cons, List.count_append, List.count_cons_self, hfirst, hrest, List.length_cons]
    omega

theorem splitOn_line {fields : List String} (hne : fields ≠ []) (h : ∀ field ∈ fields, Plain field.toList) :
    (line fields).splitOn ',' = fields.map String.toList := by
  refine List.splitOn_intercalate ',' ?_ ?_
  · intro cs hcs
    obtain ⟨field, hf, rfl⟩ := List.mem_map.mp hcs
    exact comma_not_mem_of_plain (h field hf)
  · exact fun hnil => hne (List.map_eq_nil_iff.mp hnil)

/-- The rows of a statement, the heading first. -/
def lines (a : Account) : List (List Char) := (heading :: a.history.map row).map line

/-- The heading and every row have four fields, and none of them is quoted. -/
theorem plain_of_mem {a : Account} {fields : List String} (h : fields ∈ heading :: a.history.map row) :
    fields.length = 4 ∧ ∀ field ∈ fields, Plain field.toList := by
  rcases List.mem_cons.mp h with rfl | h
  · exact ⟨rfl, plain_heading⟩
  · obtain ⟨tx, -, rfl⟩ := List.mem_map.mp h
    exact ⟨rfl, plain_row tx⟩

theorem not_mem_lines {a : Account} {cs : List Char} (h : cs ∈ lines a) {c : Char}
    (hr : isReserved c = true) (hne : c ≠ ',') : c ∉ cs := by
  obtain ⟨fields, hf, rfl⟩ := List.mem_map.mp h
  intro hc
  exact hne (eq_comma_of_mem_line (plain_of_mem hf).2 hc hr)

theorem count_comma_of_mem_lines {a : Account} {cs : List Char} (h : cs ∈ lines a) : cs.count ',' = 3 := by
  obtain ⟨fields, hf, rfl⟩ := List.mem_map.mp h
  obtain ⟨hl, hp⟩ := plain_of_mem hf
  obtain ⟨field, rest, rfl⟩ := List.exists_cons_of_length_eq_add_one hl
  rw [count_line field rest hp]
  exact Nat.succ.inj hl

theorem toList_csv (a : Account) : (csv a).toList = (lines a).flatMap (· ++ ['\n']) := by
  rw [csv, lines, String.toList_join, List.flatMap_map, List.flatMap_map, List.flatMap_def, List.flatMap_def]
  exact congrArg List.flatten (List.map_congr_left fun fields hf => toList_rowText (plain_of_mem hf).2)

/-- Pieces that are each ended by a mark come apart at the marks, with nothing after the last. -/
theorem splitOn_flatMap_ended {c : Char} {pieces : List (List Char)} (h : ∀ cs ∈ pieces, c ∉ cs) :
    (pieces.flatMap (· ++ [c])).splitOn c = pieces ++ [[]] := by
  induction pieces with
  | nil => exact List.splitOn_nil c
  | cons cs pieces ih =>
    have hfirst : cs.splitOn c = [cs] := by
      have hc : ∀ l ∈ [cs], c ∉ l := List.forall_mem_singleton.mpr (h cs List.mem_cons_self)
      have hs := List.splitOn_intercalate c hc (List.cons_ne_nil cs [])
      rw [List.intercalate_singleton] at hs
      exact hs
    rw [List.flatMap_cons, List.append_assoc, List.singleton_append, List.splitOn_append_cons_self, hfirst,
      ih fun x hx => h x (List.mem_cons_of_mem cs hx)]
    rfl

theorem splitOn_csv (a : Account) : (csv a).toList.splitOn '\n' = lines a ++ [[]] := by
  rw [toList_csv]
  exact splitOn_flatMap_ended fun cs hcs => not_mem_lines hcs rfl (by decide)

/-- The kind and the amount that a line tells of. -/
def readLine (cs : List Char) : Option (TransactionKind × Decimal) :=
  match cs.splitOn ',' with
  | [_, kind, amount, _] =>
    match TransactionKind.ofName? (String.ofList kind), Decimal.read (String.ofList amount) with
    | some kind, .ok amount => some (kind, amount)
    | _, _ => none
  | _ => none

/-- Kinds and amounts of all lines but the first; behind the last line break nothing is expected. -/
def readLines (text : String) : Option (List (TransactionKind × Decimal)) :=
  ((text.toList.splitOn '\n').dropLast.drop 1).mapM readLine

theorem line_heading : line heading = "timestamp,kind,amount,balance_after".toList := by
  simp [heading, line_cons_cons, line_singleton]

theorem splitOn_line_row (tx : Transaction) : (line (row tx)).splitOn ',' = (row tx).map String.toList :=
  splitOn_line (List.cons_ne_nil _ _) (plain_row tx)

theorem readLine_row (tx : Transaction) : readLine (line (row tx)) = some (tx.kind, tx.amount) := by
  rw [readLine, splitOn_line_row]
  simp only [row, List.map_cons, List.map_nil, String.ofList_toList, TransactionKind.ofName?_name,
    Decimal.read_text]

theorem mapM_readLine (txs : List Transaction) :
    ((txs.map row).map line).mapM readLine = some (txs.map fun tx => (tx.kind, tx.amount)) := by
  induction txs with
  | nil => rfl
  | cons tx txs ih =>
    rw [List.map_cons, List.map_cons, List.mapM_cons, readLine_row, ih]
    rfl

theorem readLines_csv (a : Account) : readLines (csv a) = some (a.history.map fun tx => (tx.kind, tx.amount)) := by
  rw [readLines, splitOn_csv, List.dropLast_concat, lines, List.map_cons, List.drop_one, List.tail_cons,
    mapM_readLine]

/-- The text of a statement is one line for the heading and one for each transaction; commas alone
divide it, and kinds and amounts are read back from it. -/
theorem csv_reads_back (a : Account) :
    ∃ lines : List (List Char),
      (csv a).toList = lines.flatMap (· ++ ['\n']) ∧ lines.length = a.history.length + 1 ∧
      (∀ cs ∈ lines, cs.count ',' = 3 ∧ '"' ∉ cs ∧ '\n' ∉ cs ∧ '\r' ∉ cs) ∧
      lines[0]? = some "timestamp,kind,amount,balance_after".toList ∧
      (∀ i tx, a.history[i]? = some tx → ∃ cs amount, lines[i + 1]? = some cs ∧
        cs.splitOn ',' = [tx.timestamp.textOffset.toList, tx.kind.name.toList, amount,
          tx.balanceAfter.currency.toList] ∧
        Decimal.read (String.ofList amount) = .ok tx.amount) ∧
      readLines (csv a) = some (a.history.map fun tx => (tx.kind, tx.amount)) := by
  refine ⟨lines a, toList_csv a, ?_, ?_, congrArg some line_heading, ?_, readLines_csv a⟩
  · rw [lines, List.length_map, List.length_cons, List.length_map]
  · intro cs hcs
    exact ⟨count_comma_of_mem_lines hcs, not_mem_lines hcs rfl (by decide), not_mem_lines hcs rfl (by decide),
      not_mem_lines hcs rfl (by decide)⟩
  · intro i tx h
    refine ⟨line (row tx), tx.amount.text.toList, ?_, splitOn_line_row tx, ?_⟩
    · rw [lines, List.map_cons, List.getElem?_cons_succ, List.getElem?_map, List.getElem?_map, h]
      rfl
    · rw [String.ofList_toList, Decimal.read_text]

/-- The largest decimal and the smallest, in an account of an owner with a comma and a line break. -/
theorem csv_reads_back_at_limits :
    let largest : Decimal := ⟨79228162514264337593543950335, 0, by decide, by decide⟩
    let smallest : Decimal := ⟨1, 28, by decide, by decide⟩
    let a : Account := {
      owner := "Ada,\n\"B\"", number := "1", balance := largest
      history := [⟨default, .deposit, largest, largest⟩, ⟨default, .withdrawal, smallest, largest⟩] }
    readLines (csv a) = some [(.deposit, largest), (.withdrawal, smallest)] ∧
    ∃ lines : List (List Char), (csv a).toList = lines.flatMap (· ++ ['\n']) ∧ lines.length = 3 ∧
      ∃ cs amount, lines[2]? = some cs ∧ cs.count ',' = 3 ∧ amount ∈ cs.splitOn ',' ∧
        Decimal.read (String.ofList amount) = .ok smallest := by
  intro largest smallest a
  obtain ⟨lines, htext, hlength, hlines, -, hrows, hread⟩ := csv_reads_back a
  obtain ⟨cs, amount, hcs, hsplit, hamount⟩ := hrows 1 ⟨default, .withdrawal, smallest, largest⟩ rfl
  have hcommas := (hlines cs (List.mem_of_getElem? hcs)).1
  refine ⟨hread, lines, htext, hlength, cs, amount, hcs, hcommas, ?_, hamount⟩
  rw [hsplit]
  simp

end Passbook.Statement
