import Mathlib.Data.List.Nodup
import Passbook.Document.Json

/-! # JSON text and what it stands for

The grammar of JSON is stated apart from the writer and from the reader, for texts without numbers.
The indented form of a value is a text of the grammar, and every text of the grammar is read as the
value that it stands for, whatever blanks and escapes it is written with.
-/
namespace Passbook.Json

open Text

/-- Nothing but blanks, which may stand between any two parts of a text. -/
def Gap (cs : List Char) : Prop := ∀ c ∈ cs, isGap c = true

/-- The letters that may follow a backslash, and the characters they stand for. -/
def shortEscapes : List (Char × Char) :=
  [('"', '"'), ('\\', '\\'), ('/', '/'), ('b', Char.ofNat 0x8), ('f', Char.ofNat 0xC), ('n', '\n'), ('r', '\r'),
    ('t', '\t')]

/-- What stands between two quotes, and the text that it stands for. -/
inductive Quotes : List Char → List Char → Prop
  | nil : Quotes [] []
  | plain {c : Char} {cs s : List Char} (visible : 0x20 ≤ c.toNat) (noQuote : c ≠ '"') (noEscape : c ≠ '\\')
      (tail : Quotes cs s) : Quotes (c :: cs) (c :: s)
  | short {letter c : Char} {cs s : List Char} (known : (letter, c) ∈ shortEscapes) (tail : Quotes cs s) :
      Quotes ('\\' :: letter :: cs) (c :: s)
  | code {a b c d x : Char} {cs s : List Char} (value : hex4 a b c d = some x.toNat) (tail : Quotes cs s) :
      Quotes ('\\' :: 'u' :: a :: b :: c :: d :: cs) (x :: s)
  | pair {a b c d e f g h x : Char} {high low : Nat} {cs s : List Char} (first : hex4 a b c d = some high)
      (second : hex4 e f g h = some low) (isHigh : 0xD800 ≤ high ∧ high < 0xDC00)
      (isLow : 0xDC00 ≤ low ∧ low < 0xE000) (value : x.toNat = 0x10000 + (high - 0xD800) * 0x400 + (low - 0xDC00))
      (tail : Quotes cs s) :
      Quotes ('\\' :: 'u' :: a :: b :: c :: d :: '\\' :: 'u' :: e :: f :: g :: h :: cs) (x :: s)

/-- One part or several parts with commas between them. -/
inductive Separated {α : Type} (Part : List Char → α → Prop) : List Char → List α → Prop
  | one {cs : List Char} {x : α} (head : Part cs x) : Separated Part cs [x]
  | cons {cs rest : List Char} {x : α} {xs : List α} (head : Part cs x) (tail : Separated Part rest xs) :
      Separated Part (cs ++ ',' :: rest) (x :: xs)

inductive Item (Val : List Char → Value → Prop) : List Char → Value → Prop
  | mk {before core after : List Char} {v : Value} (left : Gap before) (value : Val core v) (right : Gap after) :
      Item Val (before ++ (core ++ after)) v

inductive Entry (Val : List Char → Value → Prop) : List Char → String × Value → Prop
  | mk {before key middle value : List Char} {name : String} {v : Value} (left : Gap before)
      (label : Quotes key name.toList) (right : Gap middle) (item : Item Val value v) :
      Entry Val (before ++ '"' :: (key ++ '"' :: (middle ++ ':' :: value))) (name, v)

inductive Scalar : List Char → Value → Prop
  | null : Scalar ['n', 'u', 'l', 'l'] .null
  | true : Scalar ['t', 'r', 'u', 'e'] (.bool true)
  | false : Scalar ['f', 'a', 'l', 's', 'e'] (.bool false)
  | text {cs : List Char} {s : String} (body : Quotes cs s.toList) : Scalar ('"' :: (cs ++ ['"'])) (.text s)

/-- Lists, and tables in which no name occurs twice. -/
inductive Container (Val : List Char → Value → Prop) : List Char → Value → Prop
  | emptyList {gap : List Char} (blank : Gap gap) : Container Val ('[' :: (gap ++ [']'])) (.list [])
  | list {body : List Char} {items : List Value} (parts : Separated (Item Val) body items) :
      Container Val ('[' :: (body ++ [']'])) (.list items)
  | emptyTable {gap : List Char} (blank : Gap gap) : Container Val ('{' :: (gap ++ ['}'])) (.table [])
  | table {body : List Char} {entries : List (String × Value)} (parts : Separated (Entry Val) body entries)
      (distinct : (entries.map Prod.fst).Nodup) : Container Val ('{' :: (body ++ ['}'])) (.table entries)

/-- The text stands for the value, with lists and tables nested at most so many levels deep. -/
def Denotes : Nat → List Char → Value → Prop
  | 0, cs, v => Scalar cs v
  | depth + 1, cs, v => Scalar cs v ∨ Container (Denotes depth) cs v

theorem gap_newline (level : Nat) : Gap (newline level) := by
  intro c hc
  rcases List.mem_cons.mp hc with rfl | hc
  · rfl
  · rw [List.eq_of_mem_replicate hc]
    rfl

theorem gap_nil : Gap [] := by
  intro c hc
  cases hc

theorem hex4_hexChar : ∀ n, n < 0x20 → hex4 '0' '0' (hexChar (n / 16)) (hexChar (n % 16)) = some n := by
  decide

theorem eq_ofNat_of_toNat {c : Char} {n : Nat} (h : c.toNat = n) : c = Char.ofNat n := by
  rw [← h, Char.ofNat_toNat]

theorem Quotes.escape (c : Char) {cs s : List Char} (h : Quotes cs s) : Quotes (escape c ++ cs) (c :: s) := by
  have hshort {letter c : Char} (hk : (letter, c) ∈ shortEscapes) : Quotes ('\\' :: letter :: cs) (c :: s) :=
    .short hk h
  rw [Json.escape]
  split_ifs with h1 h2 h3 h4 h5 h6 h7 h8
  · subst h1
    exact hshort (by decide)
  · subst h2
    exact hshort (by decide)
  · subst h3
    exact hshort (by decide)
  · subst h4
    exact hshort (by decide)
  · subst h5
    exact hshort (by decide)
  · rw [eq_ofNat_of_toNat h6]
    exact hshort (by decide)
  · rw [eq_ofNat_of_toNat h7]
    exact hshort (by decide)
  · exact .code (hex4_hexChar c.toNat h8) h
  · exact .plain (by omega) h1 h2 h

theorem quotes_flatMap_escape (s : List Char) : Quotes (s.flatMap escape) s := by
  induction s with
  | nil => exact .nil
  | cons c s ih =>
    rw [List.flatMap_cons]
    exact ih.escape c

theorem denotes_text (depth level : Nat) (s : String) : Denotes depth (indentedChars level (.text s)) (.text s) := by
  have hs : Scalar (indentedChars level (.text s)) (.text s) := by
    rw [indentedChars, scalar]
    · exact .text (quotes_flatMap_escape s.toList)
    all_goals simp
  cases depth with
  | zero => exact hs
  | succ depth => exact Or.inl hs

section Indented
variable {Val : List Char → Value → Prop} {level : Nat} {tail : List Char}

theorem separated_indentedItems (ht : Gap tail) {items : List Value} (hne : items ≠ [])
    (hv : ∀ v ∈ items, Val (indentedChars level v) v) :
    Separated (Item Val) (indentedItems level items ++ tail) items := by
  induction items with
  | nil => exact absurd rfl hne
  | cons v rest ih =>
    have hhead : Val (indentedChars level v) v := hv v List.mem_cons_self
    cases rest with
    | nil =>
      rw [indentedItems, List.append_assoc]
      exact .one (.mk (gap_newline level) hhead ht)
    | cons w rest =>
      have htail := ih (List.cons_ne_nil w rest) fun u hu => hv u (List.mem_cons_of_mem v hu)
      have hitem : Item Val (newline level ++ (indentedChars level v ++ [])) v :=
        .mk (gap_newline level) hhead gap_nil
      rw [indentedItems, List.append_assoc, List.cons_append]
      · rw [List.append_nil] at hitem
        exact .cons hitem htail
      · exact fun h => List.cons_ne_nil w rest h

theorem entry_indented (ht : Gap tail) (name : String) {v : Value} (hv : Val (indentedChars level v) v) :
    Entry Val (newline level ++ quoted name ++ ':' :: ' ' :: (indentedChars level v ++ tail)) (name, v) := by
  have hgap : Gap [' '] := by
    intro c hc
    rw [List.mem_singleton.mp hc]
    rfl
  have h : Entry Val _ (name, v) :=
    .mk (gap_newline level) (quotes_flatMap_escape name.toList) gap_nil (.mk hgap hv ht)
  simpa [quoted] using h

theorem separated_indentedEntries (ht : Gap tail) {entries : List (String × Value)} (hne : entries ≠ [])
    (hv : ∀ e ∈ entries, Val (indentedChars level e.2) e.2) :
    Separated (Entry Val) (indentedEntries level entries ++ tail) entries := by
  induction entries with
  | nil => exact absurd rfl hne
  | cons e rest ih =>
    obtain ⟨name, v⟩ := e
    have hhead : Val (indentedChars level v) v := hv (name, v) List.mem_cons_self
    cases rest with
    | nil =>
      have hentry := entry_indented ht name hhead
      rw [indentedEntries, List.append_assoc]
      exact .one hentry
    | cons e' rest =>
      have htail := ih (List.cons_ne_nil e' rest) fun u hu => hv u (List.mem_cons_of_mem _ hu)
      have hentry := entry_indented gap_nil name hhead
      rw [List.append_nil] at hentry
      have h := Separated.cons hentry htail
      rw [indentedEntries]
      · simpa using h
      · exact fun h => List.cons_ne_nil e' rest h

theorem denotes_list (depth level : Nat) {items : List Value}
    (h : ∀ v ∈ items, Denotes depth (indentedChars (level + 1) v) v) :
    Denotes (depth + 1) (indentedChars level (.list items)) (.list items) := by
  cases items with
  | nil =>
    rw [indentedChars]
    exact Or.inr (.emptyList gap_nil)
  | cons v rest =>
    rw [indentedChars]
    exact Or.inr (.list (separated_indentedItems (gap_newline level) (List.cons_ne_nil v rest) h))

theorem denotes_table (depth level : Nat) {entries : List (String × Value)}
    (hd : (entries.map Prod.fst).Nodup) (h : ∀ e ∈ entries, Denotes depth (indentedChars (level + 1) e.2) e.2) :
    Denotes (depth + 1) (indentedChars level (.table entries)) (.table entries) := by
  cases entries with
  | nil =>
    rw [indentedChars]
    exact Or.inr (.emptyTable gap_nil)
  | cons e rest =>
    rw [indentedChars]
    exact Or.inr (.table (separated_indentedEntries (gap_newline level) (List.cons_ne_nil e rest) h) hd)

end Indented

theorem skipGap_append {gap : List Char} (h : Gap gap) (cs : List Char) : skipGap (gap ++ cs) = skipGap cs :=
  List.dropWhile_append_of_pos h

theorem skipGap_cons {c : Char} (h : isGap c = false) (cs : List Char) : skipGap (c :: cs) = c :: cs := by
  rw [skipGap, List.dropWhile_cons, h]
  rfl

theorem skipGap_before {gap : List Char} (h : Gap gap) {c : Char} (hc : isGap c = false) (cs : List Char) :
    skipGap (gap ++ c :: cs) = c :: cs := by
  rw [skipGap_append h, skipGap_cons hc]

theorem charOf_toNat (x : Char) : charOf x.toNat = some x := by
  have hv : x.toNat.isValidChar := x.valid
  rw [charOf, if_pos hv, Char.ofNat_toNat]

theorem unescape_of_known {letter c : Char} (h : (letter, c) ∈ shortEscapes) :
    letter ≠ 'u' ∧ unescape letter = some c := by
  have hall : (shortEscapes.all fun e => decide (e.1 ≠ 'u' ∧ unescape e.1 = some e.2)) = true := by decide
  exact of_decide_eq_true (List.all_eq_true.mp hall _ h)

theorem readString_of_quotes {cs s : List Char} (h : Quotes cs s) (rest : List Char) :
    readString (cs ++ '"' :: rest) = some (s, rest) := by
  induction h with
  | nil => rw [List.nil_append, readString]
  | @plain c cs s visible noQuote noEscape tail ih =>
    have hv : ¬ c.toNat < 0x20 := by omega
    rw [List.cons_append, readString]
    · simp [hv, noEscape, ih]
    all_goals simp [noQuote, noEscape]
  | @short letter c cs s known tail ih =>
    obtain ⟨hu, hc⟩ := unescape_of_known known
    rw [List.cons_append, List.cons_append, readString]
    · simp [hc, ih]
    · simp [hu]
  | @code a b c d x cs s value tail ih =>
    simp [readString, value, charOf_toNat, ih]
  | @pair a b c d e f g h x high low cs s first second isHigh isLow value tail ih =>
    have hnone : charOf high = none := by
      rw [charOf, if_neg]
      simp only [Nat.isValidChar]
      omega
    have hpair : pairOf high low = some x := by
      rw [pairOf, ← value, charOf_toNat]
      simp [isHigh, isLow]
    simp [readString, first, hnone, second, hpair, ih]

/-- Parts are read one after the other if a part is read before a closing mark and before a comma. -/
theorem Separated.read_eq {α : Type} {Part : List Char → α → Prop} {close : Char}
    {readParts : Nat → List Char → Option (List α × List Char)}
    (hp : ∀ cs x, Part cs x → ∀ fuel rest,
      readParts (fuel + 1) (cs ++ close :: rest) = some ([x], rest) ∧
      readParts (fuel + 1) (cs ++ ',' :: rest) = (readParts fuel rest).map fun r => (x :: r.1, r.2))
    {body : List Char} {xs : List α} (h : Separated Part body xs) {fuel : Nat} (hf : body.length < fuel)
    (rest : List Char) : readParts fuel (body ++ close :: rest) = some (xs, rest) := by
  induction h generalizing fuel with
  | one head =>
    obtain ⟨fuel, rfl⟩ : ∃ n, fuel = n + 1 := Nat.exists_eq_succ_of_ne_zero (by omega)
    exact (hp _ _ head fuel rest).1
  | cons head tail ih =>
    obtain ⟨fuel, rfl⟩ : ∃ n, fuel = n + 1 := Nat.exists_eq_succ_of_ne_zero (by omega)
    -- the comma pays for the step
    rw [List.length_append, List.length_cons] at hf
    rw [List.append_assoc, List.cons_append, (hp _ _ head fuel _).2, ih (by omega), Option.map_some]

section Parts
variable {Val : List Char → Value → Prop} {read : List Char → Option (Value × List Char)}

/-- The reader takes in a value and the blanks before it, and leaves what follows. -/
def Reads (read : List Char → Option (Value × List Char)) (Val : List Char → Value → Prop) : Prop :=
  ∀ before core v rest, Gap before → Val core v → read (before ++ (core ++ rest)) = some (v, rest)

/-- A bracket ends the items, and a comma is followed by the rest of them. -/
theorem readItems_item (hr : Reads read Val) {cs : List Char} {v : Value} (h : Item Val cs v) (fuel : Nat)
    (rest : List Char) :
    readItems read (fuel + 1) (cs ++ ']' :: rest) = some ([v], rest) ∧
    readItems read (fuel + 1) (cs ++ ',' :: rest) = (readItems read fuel rest).map fun r => (v :: r.1, r.2) := by
  obtain ⟨left, value, right⟩ := h
  have hv (rest : List Char) := hr _ _ _ rest left value
  have hbracket := skipGap_before right (rfl : isGap ']' = false)
  have hcomma := skipGap_before right (rfl : isGap ',' = false)
  constructor
  · simp only [readItems, List.append_assoc, hv, Option.bind_eq_bind, Option.bind_some, hbracket]
    rfl
  · simp only [readItems, List.append_assoc, hv, Option.bind_eq_bind, Option.bind_some, hcomma]
    cases readItems read fuel rest <;> rfl

theorem readEntries_entry (hr : Reads read Val) {cs : List Char} {e : String × Value} (h : Entry Val cs e)
    (fuel : Nat) (rest : List Char) :
    readEntries read (fuel + 1) (cs ++ '}' :: rest) = some ([e], rest) ∧
    readEntries read (fuel + 1) (cs ++ ',' :: rest) = (readEntries read fuel rest).map fun r => (e :: r.1, r.2) := by
  obtain ⟨before, label, middle, ⟨left, value, right⟩⟩ := h
  have hquote := skipGap_before before (rfl : isGap '"' = false)
  have hcolon := skipGap_before middle (rfl : isGap ':' = false)
  have hv (rest : List Char) := hr _ _ _ rest left value
  have hbrace := skipGap_before right (rfl : isGap '}' = false)
  have hcomma := skipGap_before right (rfl : isGap ',' = false)
  constructor
  · simp only [readEntries, List.append_assoc, List.cons_append, hquote, readString_of_quotes label, hcolon, hv,
      Option.bind_eq_bind, Option.bind_some, hbrace, String.ofList_toList]
    rfl
  · simp only [readEntries, List.append_assoc, List.cons_append, hquote, readString_of_quotes label, hcolon, hv,
      Option.bind_eq_bind, Option.bind_some, hcomma, String.ofList_toList]
    cases readEntries read fuel rest <;> rfl

theorem readItems_of_separated (hr : Reads read Val) {body : List Char} {items : List Value}
    (h : Separated (Item Val) body items) {fuel : Nat} (hf : body.length < fuel) (rest : List Char) :
    readItems read fuel (body ++ ']' :: rest) = some (items, rest) :=
  h.read_eq (fun _ _ part => readItems_item hr part) hf rest

theorem readEntries_of_separated (hr : Reads read Val) {body : List Char} {entries : List (String × Value)}
    (h : Separated (Entry Val) body entries) {fuel : Nat} (hf : body.length < fuel) (rest : List Char) :
    readEntries read fuel (body ++ '}' :: rest) = some (entries, rest) :=
  h.read_eq (fun _ _ part => readEntries_entry hr part) hf rest

/-- The blanks in front of the first part are no part of the list. -/
theorem Separated.trim {α : Type} {Part : List Char → α → Prop} {Start : Char → Prop}
    (hs : ∀ cs x, Part cs x → ∃ gap c rest, Gap gap ∧ cs = gap ++ c :: rest ∧ Start c ∧ Part (c :: rest) x)
    {body : List Char} {xs : List α} (h : Separated Part body xs) :
    ∃ gap c rest, Gap gap ∧ body = gap ++ c :: rest ∧ Start c ∧ Separated Part (c :: rest) xs := by
  cases h with
  | one head =>
    obtain ⟨gap, c, rest, hgap, he, hc, hp⟩ := hs _ _ head
    exact ⟨gap, c, rest, hgap, he, hc, .one hp⟩
  | @cons cs more x xs head tail =>
    obtain ⟨gap, c, rest, hgap, rfl, hc, hp⟩ := hs _ _ head
    exact ⟨gap, c, rest ++ ',' :: more, hgap, by simp, hc, .cons hp tail⟩

end Parts

theorem put_of_not_mem {name : String} {v : Value} {entries : List (String × Value)}
    (h : name ∉ entries.map Prod.fst) : Value.put name v entries = entries ++ [(name, v)] := by
  induction entries with
  | nil => rfl
  | cons e rest ih =>
    rw [List.map_cons, List.mem_cons, not_or] at h
    rw [Value.put, if_neg (Ne.symm h.1), ih h.2, List.cons_append]

theorem foldl_put {before entries : List (String × Value)} (h : ((before ++ entries).map Prod.fst).Nodup) :
    entries.foldl (fun acc e => Value.put e.1 e.2 acc) before = before ++ entries := by
  induction entries generalizing before with
  | nil => simp
  | cons e rest ih =>
    have hm : e.1 ∉ before.map Prod.fst := by
      rw [List.map_append, List.nodup_append] at h
      intro hb
      exact h.2.2 e.1 hb e.1 (by simp) rfl
    rw [List.foldl_cons, put_of_not_mem hm, ih (by simpa using h)]
    simp

theorem latest_of_nodup {entries : List (String × Value)} (h : (entries.map Prod.fst).Nodup) :
    latest entries = entries := by
  have hf : latest entries = [] ++ entries := foldl_put h
  rw [hf, List.nil_append]

theorem readValue_gap {gap : List Char} (h : Gap gap) (depth : Nat) (cs : List Char) :
    readValue depth (gap ++ cs) = readValue depth cs := by
  rw [readValue, readValue, skipGap_append h]

theorem readValue_of_scalar {cs : List Char} {v : Value} (h : Scalar cs v) (depth : Nat) (rest : List Char) :
    readValue depth (cs ++ rest) = some (v, rest) := by
  cases h with
  | null => simp [readValue, skipGap_cons (show isGap 'n' = false from rfl), readWord, isDigit]
  | true => simp [readValue, skipGap_cons (show isGap 't' = false from rfl), readWord, isDigit]
  | false => simp [readValue, skipGap_cons (show isGap 'f' = false from rfl), readWord, isDigit]
  | @text cs s body =>
    have hr := readString_of_quotes body rest
    simp [readValue, skipGap_cons (show isGap '"' = false from rfl), hr]

theorem Entry.start {Val : List Char → Value → Prop} (cs : List Char) (e : String × Value) (h : Entry Val cs e) :
    ∃ gap c rest, Gap gap ∧ cs = gap ++ c :: rest ∧ c = '"' ∧ Entry Val (c :: rest) e := by
  obtain ⟨before, label, middle, item⟩ := h
  exact ⟨_, '"', _, before, rfl, rfl, .mk gap_nil label middle item⟩

/-- The text of a value starts with a character that neither is skipped nor ends a list. -/
def Headed (Val : List Char → Value → Prop) : Prop :=
  ∀ cs v, Val cs v → ∃ c rest, cs = c :: rest ∧ isGap c = false ∧ c ≠ ']'

theorem Item.start {Val : List Char → Value → Prop} (hs : Headed Val) (cs : List Char) (v : Value)
    (h : Item Val cs v) :
    ∃ gap c rest, Gap gap ∧ cs = gap ++ c :: rest ∧ (isGap c = false ∧ c ≠ ']') ∧ Item Val (c :: rest) v := by
  obtain ⟨left, value, right⟩ := h
  obtain ⟨c, rest, rfl, hc⟩ := hs _ _ value
  exact ⟨_, c, _, left, rfl, hc, .mk gap_nil value right⟩

theorem headed_denotes (depth : Nat) : Headed (Denotes depth) := by
  intro cs v h
  have hscalar (h : Scalar cs v) : ∃ c rest, cs = c :: rest ∧ isGap c = false ∧ c ≠ ']' := by
    cases h <;> exact ⟨_, _, rfl, rfl, by decide⟩
  cases depth with
  | zero => exact hscalar h
  | succ depth =>
    rcases h with h | h
    · exact hscalar h
    · cases h <;> exact ⟨_, _, rfl, rfl, by decide⟩

section Containers
variable {Val : List Char → Value → Prop} {depth : Nat} (hr : Reads (readValue depth) Val) {body : List Char}
include hr

theorem readValue_list (hs : Headed Val) {items : List Value} (parts : Separated (Item Val) body items)
    (rest : List Char) :
    readValue (depth + 1) ('[' :: (body ++ [']']) ++ rest) = some (.list items, rest) := by
  obtain ⟨gap, c, more, hgap, rfl, ⟨hc, hne⟩, hparts⟩ := parts.trim (Item.start hs)
  have hopen := skipGap_cons (show isGap '[' = false from rfl)
  have hskip := skipGap_before hgap hc (more ++ ']' :: rest)
  have hitems : readItems (readValue depth) ((c :: (more ++ ']' :: rest)).length + 1)
      (c :: (more ++ ']' :: rest)) = some (items, rest) := by
    refine readItems_of_separated hr hparts ?_ rest
    rw [List.length_cons, List.length_cons, List.length_append]
    omega
  have hunfold : readValue (depth + 1) ('[' :: (gap ++ c :: more ++ [']']) ++ rest) =
      (readItems (readValue depth) ((c :: (more ++ ']' :: rest)).length + 1) (c :: (more ++ ']' :: rest))).map
        fun r => (.list r.1, r.2) := by
    simp [readValue, hopen, hskip, hne]
  rw [hunfold, hitems]
  rfl

theorem readValue_table {entries : List (String × Value)} (parts : Separated (Entry Val) body entries)
    (distinct : (entries.map Prod.fst).Nodup) (rest : List Char) :
    readValue (depth + 1) ('{' :: (body ++ ['}']) ++ rest) = some (.table entries, rest) := by
  obtain ⟨gap, c, more, hgap, rfl, rfl, hparts⟩ := parts.trim Entry.start
  have hopen := skipGap_cons (show isGap '{' = false from rfl)
  have hskip := skipGap_before hgap (rfl : isGap '"' = false) (more ++ '}' :: rest)
  have hentries : readEntries (readValue depth) (('"' :: (more ++ '}' :: rest)).length + 1)
      ('"' :: (more ++ '}' :: rest)) = some (entries, rest) := by
    refine readEntries_of_separated hr hparts ?_ rest
    rw [List.length_cons, List.length_cons, List.length_append]
    omega
  have hunfold : readValue (depth + 1) ('{' :: (gap ++ '"' :: more ++ ['}']) ++ rest) =
      (readEntries (readValue depth) (('"' :: (more ++ '}' :: rest)).length + 1)
        ('"' :: (more ++ '}' :: rest))).map fun r => (.table (latest r.1), r.2) := by
    simp [readValue, hopen, hskip]
  rw [hunfold, hentries, Option.map_some, latest_of_nodup distinct]

theorem readValue_of_container (hs : Headed Val) {cs : List Char} {v : Value} (h : Container Val cs v)
    (rest : List Char) :
    readValue (depth + 1) (cs ++ rest) = some (v, rest) := by
  cases h with
  | emptyList blank =>
    have hclose := skipGap_before blank (rfl : isGap ']' = false) rest
    simp [readValue, skipGap_cons (show isGap '[' = false from rfl), hclose]
  | list parts => exact readValue_list hr hs parts rest
  | emptyTable blank =>
    have hclose := skipGap_before blank (rfl : isGap '}' = false) rest
    simp [readValue, skipGap_cons (show isGap '{' = false from rfl), hclose]
  | table parts distinct => exact readValue_table hr parts distinct rest

end Containers

theorem readValue_of_denotes {n depth : Nat} (hd : n ≤ depth) {cs : List Char} {v : Value} (h : Denotes n cs v)
    (rest : List Char) : readValue depth (cs ++ rest) = some (v, rest) := by
  induction n generalizing depth cs v rest with
  | zero => exact readValue_of_scalar h depth rest
  | succ n ih =>
    obtain ⟨depth, rfl⟩ : ∃ k, depth = k + 1 := Nat.exists_eq_succ_of_ne_zero (by omega)
    rcases h with h | h
    · exact readValue_of_scalar h _ rest
    · have hr : Reads (readValue depth) (Denotes n) := by
        intro before core v rest hb hv
        rw [readValue_gap hb]
        exact ih (Nat.le_of_succ_le_succ hd) hv rest
      exact readValue_of_container hr (headed_denotes n) h rest

/-- A text that stands for a value is read as that value. -/
theorem read_of_denotes {n : Nat} (hd : n ≤ maxDepth) {s : String} {v : Value} (h : Denotes n s.toList v) :
    read s = some v := by
  have hv := readValue_of_denotes hd h []
  rw [List.append_nil] at hv
  rw [read, hv]
  rfl

end Passbook.Json
