import Passbook.Proofs.Basic
import Passbook.Proofs.Document.Decode
import Passbook.Proofs.Document.Json
import Passbook.Proofs.Operation
import Passbook.Record

/-! # Operations as documents and as text

An operation can be given as a document and as a text, and the two are decoded by rules of their own.
They come to the same. A document is read back as the operation it was made from, its kind and amount
joined by a colon are a text for that operation, and an amount in either form is accepted if and only
if it is a decimal.
-/
namespace Passbook

open Document Decode Text

namespace Operation
variable {d : Dialect} {op : Operation} {name amount : String} {build : Decimal → Operation}

/-- The names of the operations that take an amount. -/
def valued : List (String × (Decimal → Operation)) := [("deposit", .deposit), ("withdraw", .withdraw)]

theorem mem_valued (h : (name, build) ∈ valued) :
    (name = "deposit" ∧ build = .deposit) ∨ (name = "withdraw" ∧ build = .withdraw) := by
  simpa [valued] using h

theorem cases_valued (op : Operation) :
    op = .reportBalance ∨ ∃ name build x, (name, build) ∈ valued ∧ op = build x := by
  cases op with
  | deposit x => exact Or.inr ⟨"deposit", .deposit, x, by simp [valued], rfl⟩
  | withdraw x => exact Or.inr ⟨"withdraw", .withdraw, x, by simp [valued], rfl⟩
  | reportBalance => exact Or.inl rfl

theorem decimal_text_eq_ok_iff {x : Decimal} : decimal d (.text amount) = .ok x ↔ Decimal.read amount = .ok x := by
  simp only [decimal]
  cases Decimal.read amount <;> simp

/-- The kind and the amount may stand in either order. -/
theorem ofValue_eq_ok_iff (h : (name, build) ∈ valued) {entries : List (String × Value)}
    (hp : entries.Perm [("type", .text name), ("amount", .text amount)]) :
    ofValue d (.table entries) = .ok op ↔ ∃ x, Decimal.read amount = .ok x ∧ op = build x := by
  obtain ⟨kind, hkind, hbuild⟩ :
      ∃ kind, OperationKind.ofName? name = some kind ∧ kind.withAmount? = some build := by
    obtain ⟨rfl, rfl⟩ | ⟨rfl, rfl⟩ := mem_valued h
    · exact ⟨.deposit, rfl, rfl⟩
    · exact ⟨.withdraw, rfl, rfl⟩
  have hsorted : Value.sorted entries = [("amount", .text amount), ("type", .text name)] :=
    Value.sorted_eq_of_perm (hp.trans (.swap _ _ _)) (by simp) (by simp)
  have hkindIn : kindIn d entries = .ok (some kind) := by
    have htype : OperationKind.ofValue d (.text name) = .ok kind := by
      cases d <;> simp [OperationKind.ofValue, named, hkind]
    simp only [kindIn, hsorted, List.foldlM_cons, List.foldlM_nil, htype]
    rfl
  have hfind : Value.find? "amount" entries = some (.text amount) := by
    refine Value.find?_of_mem ?_ (hp.mem_iff.mpr (by simp))
    rw [(hp.map Prod.fst).nodup_iff]
    simp
  have hread : ofValue d (.table entries) = (decimal d (.text amount)).map build := by
    simp only [ofValue, ofTable, hkindIn, hfind]
    simp only [required, bind, Except.bind, hbuild]
    cases decimal d (.text amount) <;> rfl
  simp only [hread, map_eq_ok_iff, decimal_text_eq_ok_iff]

theorem toValue_eq_of_valued (h : (name, build) ∈ valued) (x : Decimal) :
    (build x).toValue = .table [("type", .text name), ("amount", .text x.text)] := by
  obtain ⟨rfl, rfl⟩ | ⟨rfl, rfl⟩ := mem_valued h <;> rfl

theorem ofValue_toValue (d : Dialect) (op : Operation) : ofValue d op.toValue = .ok op := by
  obtain rfl | ⟨name, build, x, h, rfl⟩ := cases_valued op
  · cases d <;> simp [toValue, amount?, ofValue, ofTable, kindIn, Value.sorted]
    all_goals rfl
  · rw [toValue_eq_of_valued h, ofValue_eq_ok_iff h (.refl _)]
    exact ⟨x, x.read_text, rfl⟩

theorem denotes_toValue (op : Operation) : Json.Denotes 1 (Json.indented op.toValue).toList op.toValue := by
  rw [Json.indented, String.toList_ofList]
  obtain rfl | ⟨name, build, x, h, rfl⟩ := cases_valued op
  · refine Json.denotes_table 0 0 (by simp) fun e he => ?_
    obtain rfl := List.mem_singleton.mp he
    exact Json.denotes_text 0 _ _
  · rw [toValue_eq_of_valued h]
    refine Json.denotes_table 0 0 (by simp) fun e he => ?_
    rcases List.mem_pair.mp he with rfl | rfl
    all_goals exact Json.denotes_text 0 _ _

/-- The kind of an operation as documents name it, with its amount after a colon. -/
def tagged (op : Operation) : String :=
  match op.amount? with
  | some x => op.tag ++ ":" ++ x.text
  | none => op.tag

theorem spells_tagged (op : Operation) : op.Spells op.tagged.toList := by
  have hw : op.tag ∈ op.words := by cases op <;> simp [tag, words]
  cases hx : op.amount? with
  | none =>
    have h := Spells.bare hw (.refl _) hx blank_nil blank_nil
    simpa [tagged, hx] using h
  | some x =>
    have h := Spells.valued hw (.refl _) hx blank_nil blank_nil blank_nil blank_nil
    simpa [tagged, hx, Decimal.text] using h

theorem ofParts_valued (h : (name, build) ∈ valued) (cs : List Char) :
    ofParts name.toList (some cs) = (readAmount name.toList (some cs)).map build := by
  obtain ⟨rfl, rfl⟩ | ⟨rfl, rfl⟩ := mem_valued h <;> rfl

theorem readAmount_eq_ok_iff {cs : List Char} {x : Decimal} :
    readAmount name.toList (some cs) = .ok x ↔ Decimal.readChars cs = .ok x := by
  cases cs with
  | nil => simp [readAmount, Decimal.readChars, Decimal.readPlain]
  | cons c cs =>
    simp only [readAmount]
    cases Decimal.readChars (c :: cs) <;> simp

theorem readChars_joined (h : (name, build) ∈ valued) {cs : List Char}
    (hfirst : ∀ c ∈ cs.head?, isBlank c = false) (hlast : ∀ c ∈ cs.getLast?, isBlank c = false) :
    readChars (name.toList ++ ':' :: cs) = (readAmount name.toList (some cs)).map build := by
  have hw : name ∈ (build .zero).words := by
    obtain ⟨rfl, rfl⟩ | ⟨rfl, rfl⟩ := mem_valued h <;> exact List.mem_singleton_self _
  have hne : name.toList ≠ [] := name_ne_nil hw (.refl _)
  have hb := isBlank_name hw (.refl _)
  have hwhole : trim ([] ++ (name.toList ++ ':' :: cs) ++ []) = name.toList ++ ':' :: cs := by
    refine trim_surrounded blank_nil blank_nil (by simp) ?_ ?_
    · rw [List.head?_append_of_ne_nil _ hne]
      exact fun c hc => hb c (List.mem_of_mem_head? hc)
    · rw [List.getLast?_append_of_ne_nil _ (List.cons_ne_nil _ _), List.getLast?_cons]
      intro c hc
      -- the text ends with its colon if nothing follows
      cases hl : cs.getLast? with
      | none =>
        rw [hl] at hc
        obtain rfl := Option.some.inj hc
        rfl
      | some x =>
        rw [hl] at hc
        obtain rfl := Option.some.inj hc
        exact hlast _ hl
  have hname : trim ([] ++ name.toList ++ []) = name.toList := trim_word blank_nil blank_nil hne hb
  have hamount : trim cs = cs := by rw [trim, trimStart_eq_self hfirst, trimEnd_eq_self hlast]
  rw [List.nil_append, List.append_nil] at hwhole hname
  simp only [readChars, hwhole, splitFirst_append (colon_not_mem_name hw (.refl _)), hname, hamount, ofParts_valued h]

theorem read_joined_eq_ok_iff (h : (name, build) ∈ valued)
    (hfirst : ∀ c ∈ amount.toList.head?, isBlank c = false)
    (hlast : ∀ c ∈ amount.toList.getLast?, isBlank c = false) :
    read (name ++ ":" ++ amount) = .ok op ↔ ∃ x, Decimal.read amount = .ok x ∧ op = build x := by
  have hread : read (name ++ ":" ++ amount) = .ok op ↔ readChars (name.toList ++ ':' :: amount.toList) = .ok op := by
    have ht : (name ++ ":" ++ amount).toList = name.toList ++ ':' :: amount.toList := by simp
    rw [read, ht]
    cases readChars (name.toList ++ ':' :: amount.toList) <;> simp
  rw [hread, readChars_joined h hfirst hlast, map_eq_ok_iff]
  simp only [readAmount_eq_ok_iff, Decimal.read]

/-- A document and a text stand for the same operation if they say the same. -/
theorem forms_agree (d : Dialect) :
    (∀ op : Operation, ofValue d op.toValue = .ok op ∧ Json.read (Json.indented op.toValue) = some op.toValue ∧
      read op.tagged = .ok op) ∧
    ∀ name build, (name, build) ∈ valued → ∀ amount : String,
      (∀ c ∈ amount.toList.head?, isBlank c = false) → (∀ c ∈ amount.toList.getLast?, isBlank c = false) →
      ∀ entries, entries.Perm [("type", .text name), ("amount", .text amount)] → ∀ op,
        (ofValue d (.table entries) = .ok op ↔ read (name ++ ":" ++ amount) = .ok op) := by
  constructor
  · intro op
    exact ⟨ofValue_toValue d op, Json.read_of_denotes (by decide) op.denotes_toValue, read_of_spells op.spells_tagged⟩
  · intro name build h amount hfirst hlast entries hp op
    rw [ofValue_eq_ok_iff h hp, read_joined_eq_ok_iff h hfirst hlast]

/-- An amount with an underscore and an exponent, in a document that gives it before the kind. -/
theorem forms_agree_on_exponent :
    let amount := "1_2.50e1"
    let entries : List (String × Value) := [("amount", .text amount), ("type", .text "withdraw")]
    let op : Operation := .withdraw ⟨1250, 1, by decide, by decide⟩
    read ("withdraw" ++ ":" ++ amount) = .ok op ∧ ofValue .toml (.table entries) = .ok op := by
  intro amount entries op
  have hvalued : ("withdraw", Operation.withdraw) ∈ valued := by simp [valued]
  have hdecimal : Decimal.read "1_2.50e1" = .ok ⟨1250, 1, by decide, by decide⟩ := rfl
  have hend (x : Option Char) (hx : x = some '1') : ∀ c ∈ x, isBlank c = false := by
    subst hx
    rintro c ⟨⟩
    decide
  have hfirst := hend amount.toList.head? (by decide)
  have hlast := hend amount.toList.getLast? (by decide)
  have hread : read ("withdraw" ++ ":" ++ amount) = .ok op :=
    (read_joined_eq_ok_iff hvalued hfirst hlast).mpr ⟨_, hdecimal, rfl⟩
  have hp : entries.Perm [("type", .text "withdraw"), ("amount", .text amount)] := .swap _ _ _
  have hagree := (forms_agree .toml).2 "withdraw" .withdraw hvalued amount hfirst hlast entries hp
  exact ⟨hread, (hagree op).mpr hread⟩

end Operation

end Passbook
