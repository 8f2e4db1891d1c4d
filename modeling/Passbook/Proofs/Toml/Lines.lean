import Passbook.Proofs.Toml.Table
import Passbook.Proofs.Toml.Text

/-! # Documents of one table

A document with one table, each field of which is a quoted text on a line of its own, is read as that
table, provided that the texts are bare. If the text of the first field is not, it may reach further
than its line. All the same it is settled once it has been read: the lines that follow do not change it.
-/
namespace Passbook.Toml

variable {name table : String} {cs rest ending : List Char} {fuel : Nat}

theorem skipGap_cons {c : Char} (h : isGap c = false) (cs : List Char) : skipGap (c :: cs) = c :: cs := by
  simp [skipGap, h]

/-- A name that needs no quotes. -/
structure IsWord (name : String) : Prop where
  ne_nil : name.toList ≠ []
  chars : ∀ c ∈ name.toList, isNameChar c = true

theorem isWord_iff : IsWord name ↔ (!name.toList.isEmpty && name.toList.all isNameChar) = true := by
  rw [Bool.and_eq_true, List.all_eq_true, Bool.not_eq_true', List.isEmpty_eq_false_iff]
  exact ⟨fun h => ⟨h.ne_nil, h.chars⟩, fun h => ⟨h.1, h.2⟩⟩

instance (name : String) : Decidable (IsWord name) := decidable_of_iff' _ isWord_iff

namespace IsWord

theorem exists_cons (hw : IsWord name) : ∃ c cs, name.toList = c :: cs ∧ isNameChar c = true := by
  obtain ⟨c, cs, hc⟩ := List.exists_cons_of_ne_nil hw.ne_nil
  exact ⟨c, cs, hc, hw.chars c (by rw [hc]; exact List.mem_cons_self)⟩

/-- A word starts neither with a blank nor with anything else that means something there. -/
theorem start_ne {x : Char} (hw : IsWord name) (hx : isNameChar x = false) (cs : List Char) :
    (name.toList ++ rest) ≠ x :: cs := by
  obtain ⟨c, after, hc, hn⟩ := hw.exists_cons
  rw [hc, List.cons_append]
  intro he
  rw [(List.cons.inj he).1, hx] at hn
  cases hn

theorem skipGap (hw : IsWord name) (rest : List Char) : skipGap (name.toList ++ rest) = name.toList ++ rest := by
  obtain ⟨c, cs, hc, hn⟩ := hw.exists_cons
  have hg : isGap c = false := by
    by_contra hgap
    simp only [isGap, Bool.not_eq_false, Bool.or_eq_true, beq_iff_eq] at hgap
    rcases hgap with rfl | rfl <;> cases hn
  rw [hc, List.cons_append, skipGap_cons hg]

theorem readName (hw : IsWord name) (hr : ∀ c ∈ rest.head?, isNameChar c = false) :
    readName (name.toList ++ rest) = some (name, rest) := by
  have htake : (name.toList ++ rest).takeWhile isNameChar = name.toList := by
    rw [List.takeWhile_append_of_pos hw.chars]
    cases rest with
    | nil => simp
    | cons c cs => simp [hr c rfl]
  have hdrop : (name.toList ++ rest).dropWhile isNameChar = rest := by
    rw [List.dropWhile_append_of_pos hw.chars]
    cases rest with
    | nil => rfl
    | cons c cs => simp [hr c rfl]
  unfold Toml.readName
  split
  · rename_i he
    exact absurd he (hw.start_ne rfl _)
  · rename_i he
    exact absurd he (hw.start_ne rfl _)
  · simp only [htake, hdrop]
    simp [hw.ne_nil]

theorem readPath (hw : IsWord name) (hr : ∀ c ∈ rest.head?, isNameChar c = false)
    (hdot : ∀ cs, Toml.skipGap rest ≠ '.' :: cs) (fuel : Nat) :
    readPath (fuel + 1) (name.toList ++ rest) = some ([name], Toml.skipGap rest) := by
  unfold Toml.readPath
  rw [hw.skipGap, hw.readName hr]
  -- by `hdot` the path ends here
  simp only [Option.bind_eq_bind, Option.bind_some]
  rfl

end IsWord

/-- The line of a field, without its line break. -/
def fieldChars (e : String × String) : List Char :=
  e.1.toList ++ ' ' :: '=' :: ' ' :: '"' :: (e.2.toList ++ ['"'])

def Statement.field (e : String × String) : Statement := .assignment [e.1] (.text e.2)

theorem readStatement_header (hw : IsWord table) (rest : List Char) :
    readStatement ('[' :: (table.toList ++ ']' :: rest)) = some (some (.header [table]), rest) := by
  have hpath (fuel : Nat) : readPath (fuel + 1) (table.toList ++ ']' :: rest) = some ([table], ']' :: rest) :=
    hw.readPath (by simp; decide) (by simp [skipGap_cons (c := ']') rfl]) fuel
  have hheader : readHeader ('[' :: (table.toList ++ ']' :: rest)) = some (.header [table], rest) := by
    unfold readHeader
    split
    · rename_i he
      exact absurd (List.cons.inj he).2 (hw.start_ne rfl _)
    · rename_i he
      cases he
      rw [hpath]
      rfl
    · rename_i _ he
      exact absurd rfl (he _)
  simp [readStatement, hheader]

/-- The value of a field is the quoted text at the end of its line, wherever that text ends. -/
theorem readStatement_field (hw : IsWord name) (cs : List Char) :
    readStatement (name.toList ++ ' ' :: '=' :: ' ' :: '"' :: cs) =
      (readText ('"' :: cs)).map fun r => (some (.field (name, String.ofList r.1)), r.2) := by
  have hpath (fuel : Nat) : readPath (fuel + 1) (name.toList ++ ' ' :: '=' :: ' ' :: '"' :: cs) =
      some ([name], '=' :: ' ' :: '"' :: cs) :=
    hw.readPath (by simp; decide) (by simp [skipGap, isGap]) fuel
  have hvalue : readValue maxDepth (skipGap (' ' :: '"' :: cs)) =
      (readText ('"' :: cs)).map fun r => (.text (String.ofList r.1), r.2) := by
    have hgap : skipGap (' ' :: '"' :: cs) = '"' :: cs := by simp [skipGap, isGap]
    rw [hgap]
    unfold readValue
    rfl
  have hassignment : readAssignment (readValue maxDepth) (name.toList ++ ' ' :: '=' :: ' ' :: '"' :: cs) =
      (readText ('"' :: cs)).map fun r => (([name], .text (String.ofList r.1)), r.2) := by
    rw [readAssignment, hpath]
    simp only [Option.bind_eq_bind, Option.bind_some, hvalue]
    cases readText ('"' :: cs) <;> rfl
  have hbreak : lineBreak? (name.toList ++ ' ' :: '=' :: ' ' :: '"' :: cs) = none := by
    unfold lineBreak?
    split
    · rename_i he
      exact absurd he (hw.start_ne rfl _)
    · rename_i he
      exact absurd he (hw.start_ne rfl _)
    · rfl
  obtain ⟨c, after, hc, hn⟩ := hw.exists_cons
  have hne (x : Char) (hx : isNameChar x = false) : (c == x) = false := by
    rw [beq_eq_false_iff_ne]
    rintro rfl
    rw [hn] at hx
    cases hx
  rw [hc, List.cons_append] at hassignment hbreak ⊢
  simp only [readStatement, hne '[' rfl, hne '#' rfl, hbreak, hassignment, Option.map_map]
  rfl

theorem readLines_last {statement : Option Statement} (h : readStatement (skipGap cs) = some (statement, []))
    (fuel : Nat) : readLines (fuel + 1) cs = some statement.toList := by
  rw [readLines, h]
  rfl

theorem readLines_next {statement : Option Statement}
    (h : readStatement (skipGap cs) = some (statement, '\n' :: rest)) (fuel : Nat) :
    readLines (fuel + 1) cs = (readLines fuel rest).map (statement.toList ++ ·) := by
  rw [readLines, h]
  have hline : skipComment (skipGap ('\n' :: rest)) = '\n' :: rest := by simp [skipGap, isGap, skipComment]
  simp only [Option.bind_eq_bind, Option.bind_some, hline, lineBreak?]
  cases readLines fuel rest <;> rfl

/-- The text of a field is read before anything that follows it. -/
theorem readLines_field_eq_some {statements : List Statement} (hw : IsWord name)
    (h : readLines fuel (name.toList ++ ' ' :: '=' :: ' ' :: '"' :: cs) = some statements) :
    ∃ xs rest more, readText ('"' :: cs) = some (xs, rest) ∧
      statements = .field (name, String.ofList xs) :: more := by
  cases fuel with
  | zero => cases h
  | succ fuel =>
    rw [readLines, hw.skipGap, readStatement_field hw] at h
    cases ht : readText ('"' :: cs) with
    | none =>
      rw [ht] at h
      cases h
    | some r =>
      rw [ht] at h
      simp only [Option.map_some, Option.bind_eq_bind, Option.bind_some] at h
      split at h
      · cases h
        exact ⟨r.1, r.2, [], rfl, rfl⟩
      · obtain ⟨next, -, h⟩ := Option.bind_eq_some_iff.mp h
        obtain ⟨more, -, h⟩ := Option.bind_eq_some_iff.mp h
        cases h
        exact ⟨r.1, r.2, more, rfl, rfl⟩

/-- What follows the header: the fields, each on a new line, and perhaps a last line break. -/
def fieldLines (fields : List (String × String)) (ending : List Char) : List Char :=
  fields.flatMap (fun e => '\n' :: fieldChars e) ++ ending

def document (table : String) (fields : List (String × String)) (ending : List Char) : List Char :=
  '[' :: (table.toList ++ ']' :: fieldLines fields ending)

variable {fields : List (String × String)}

theorem fieldLines_cons (e : String × String) (fields : List (String × String)) (ending : List Char) :
    fieldLines (e :: fields) ending = '\n' :: (fieldChars e ++ fieldLines fields ending) := by
  simp [fieldLines]

theorem head?_fieldLines_ne (he : ending = [] ∨ ending = ['\n']) : (fieldLines fields ending).head? ≠ some '"' := by
  cases fields with
  | nil => rcases he with rfl | rfl <;> simp [fieldLines]
  | cons e fields => simp [fieldLines_cons]

theorem readLines_fieldLines (hf : ∀ e ∈ fields, IsWord e.1 ∧ ∀ c ∈ e.2.toList, isBare c = true)
    (he : ending = [] ∨ ending = ['\n']) {statement : Option Statement}
    (h : readStatement (skipGap (cs ++ fieldLines fields ending)) = some (statement, fieldLines fields ending))
    (fuel : Nat) :
    readLines (fuel + fields.length + 2) (cs ++ fieldLines fields ending) =
      some (statement.toList ++ fields.map Statement.field) := by
  induction fields generalizing cs statement with
  | nil =>
    rcases he with rfl | rfl
    · rw [readLines_last h]
      simp
    · have hend : readLines (fuel + 1) [] = some [] := rfl
      have hnext := readLines_next h (fuel + 1)
      rw [hend] at hnext
      simpa using hnext
  | cons e fields ih =>
    rw [List.forall_mem_cons] at hf
    have hfield : readStatement (skipGap (fieldChars e ++ fieldLines fields ending)) =
        some (some (.field e), fieldLines fields ending) := by
      have hhead : (fieldLines fields ending).head? ≠ some '"' := head?_fieldLines_ne he
      have htext := readText_bare hf.1.2 hhead
      have hchars : fieldChars e ++ fieldLines fields ending =
          e.1.toList ++ ' ' :: '=' :: ' ' :: '"' :: (e.2.toList ++ '"' :: fieldLines fields ending) := by
        simp [fieldChars]
      rw [hchars, hf.1.1.skipGap, readStatement_field hf.1.1, htext, Option.map_some, String.ofList_toList]
    rw [fieldLines_cons] at h
    have hnext := readLines_next h (fuel + fields.length + 2)
    rw [ih hf.2 hfield, ← fieldLines_cons] at hnext
    exact hnext

theorem length_le_length_fieldLines (fields : List (String × String)) (ending : List Char) :
    fields.length ≤ (fieldLines fields ending).length := by
  induction fields with
  | nil => exact Nat.zero_le _
  | cons e fields ih =>
    rw [fieldLines_cons, List.length_cons, List.length_cons, List.length_append]
    omega

theorem readChars_bracket (cs : List Char) :
    readChars ('[' :: cs) =
      (readLines (cs.length + 2) ('[' :: cs)).bind fun statements =>
        (Assembly.ofStatements statements).map Assembly.toValue := by
  have hmark : dropMark ('[' :: cs) = '[' :: cs := rfl
  rw [readChars, hmark]
  simp only [Option.bind_eq_bind, List.length_cons]
  congr 1
  funext statements
  cases Assembly.ofStatements statements <;> rfl

/-- A table of bare texts is read as it is written. -/
theorem readChars_document (hw : IsWord table) (hf : ∀ e ∈ fields, IsWord e.1 ∧ ∀ c ∈ e.2.toList, isBare c = true)
    (hn : (fields.map Prod.fst).Nodup) (he : ending = [] ∨ ending = ['\n']) :
    readChars (document table fields ending) =
      some (.table [(table, .table (fields.map fun e => (e.1, .text e.2)))]) := by
  have hlines : readLines ((table.toList ++ ']' :: fieldLines fields ending).length + 2)
      (document table fields ending) = some (.header [table] :: fields.map Statement.field) := by
    have hheader : readStatement (skipGap (document table fields ending)) =
        some (some (.header [table]), fieldLines fields ending) := by
      rw [document, skipGap_cons rfl, readStatement_header hw]
    obtain ⟨fuel, hfuel⟩ :
        ∃ fuel, (table.toList ++ ']' :: fieldLines fields ending).length = fuel + fields.length := by
      refine Nat.exists_eq_add_of_le' ?_
      rw [List.length_append, List.length_cons]
      have := length_le_length_fieldLines fields ending
      omega
    have hdoc : document table fields ending = ('[' :: (table.toList ++ [']'])) ++ fieldLines fields ending := by
      simp [document]
    rw [hfuel]
    rw [hdoc] at hheader ⊢
    exact readLines_fieldLines hf he hheader fuel
  have hnames : ((fields.map fun e => (e.1, Value.text e.2)).map Prod.fst).Nodup := by rwa [List.map_map]
  have hassembly := Assembly.ofStatements_fields table hnames
  have hfields : fields.map Statement.field =
      (fields.map fun e => (e.1, Value.text e.2)).map fun e => .assignment [e.1] e.2 := by
    rw [List.map_map]
    rfl
  rw [document, readChars_bracket, ← document, hlines, Option.bind_some, hfields, hassembly]
  simp [Assembly.toValue, entryValues_eq, Item.toValue]

/-- The lines after it do not change the text of the first field, even if it has swallowed some of them. -/
theorem readChars_first_field {v : Value} (hw : IsWord table) (hname : IsWord name)
    (h : readChars ('[' :: (table.toList ++ ']' :: '\n' ::
      (name.toList ++ ' ' :: '=' :: ' ' :: '"' :: cs))) = some v) :
    ∃ xs rest entries, readText ('"' :: cs) = some (xs, rest) ∧ v = .table entries ∧
      ∀ w, (table, w) ∈ entries → ∃ es, w = .table es ∧ ∀ u, (name, u) ∈ es → u = .text (String.ofList xs) := by
  have hheader := readStatement_header hw ('\n' :: (name.toList ++ ' ' :: '=' :: ' ' :: '"' :: cs))
  rw [← skipGap_cons rfl] at hheader
  rw [readChars_bracket, readLines_next hheader] at h
  obtain ⟨_, hlines, h⟩ := Option.bind_eq_some_iff.mp h
  obtain ⟨later, hlater, rfl⟩ := Option.map_eq_some_iff.mp hlines
  obtain ⟨xs, rest, more, htext, rfl⟩ := readLines_field_eq_some hname hlater
  obtain ⟨assembly, hassembly, rfl⟩ := Option.map_eq_some_iff.mp h
  -- after its first two lines the document holds the text, and the rest keeps it
  let first : Entries := [(table, .table false false [(name, .value (.text (String.ofList xs)))])]
  have hmore : more.foldlM Assembly.step ⟨first, [table]⟩ = some assembly := by
    let two : List Statement := [.header [table], .field (name, String.ofList xs)]
    have hnames : ([(name, Value.text (String.ofList xs))].map Prod.fst).Nodup := List.nodup_singleton name
    have hfirst : Assembly.ofStatements two = some ⟨first, [table]⟩ := Assembly.ofStatements_fields table hnames
    have hall : (two ++ more).foldlM Assembly.step {} = some assembly := hassembly
    rwa [List.foldlM_append, ← Assembly.ofStatements, hfirst] at hall
  have hhas : Entries.Has (Item.Holds (.text (String.ofList xs)) [name]) table first := by
    refine ⟨by simp [first], fun item hitem => ?_⟩
    cases List.mem_singleton.mp hitem
    refine ⟨_, _, _, rfl, by simp, fun item hitem => ?_⟩
    cases List.mem_singleton.mp hitem
    rfl
  have hkept := Assembly.keeps_foldlM hmore _ _ _ hhas
  refine ⟨xs, rest, _, htext, rfl, fun w hw => ?_⟩
  obtain ⟨item, ⟨implicit, dotted, es, rfl, hes⟩, rfl⟩ := hkept.mem_entryValues hw
  refine ⟨_, rfl, fun u hu => ?_⟩
  obtain ⟨item, rfl, rfl⟩ := hes.mem_entryValues hu
  rfl

end Passbook.Toml
