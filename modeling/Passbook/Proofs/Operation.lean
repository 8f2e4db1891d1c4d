import Passbook.Operation
import Passbook.Proofs.Decimal.Text
import Passbook.Proofs.Text.Blank

/-! # The spellings of an operation

The text of an operation is one of many that stand for it: there may be white space around the
text and around the first colon, and the name may be written in small or capital letters. All of
them are read as the operation itself, with the amount at its own scale.
-/
namespace Passbook

open Text

namespace Operation
variable {op : Operation} {text : List Char}

def words : Operation → List String
  | .deposit _ => ["deposit"]
  | .withdraw _ => ["withdraw"]
  | .reportBalance => ["balance", "report_balance"]

/-- The spellings of an operation, without an amount or with one. -/
inductive Spells (op : Operation) : List Char → Prop
  | bare {word : String} {before name after : List Char} (known : word ∈ op.words)
      (letters : CaseOf word.toList name) (absent : op.amount? = none)
      (blankBefore : Blank before) (blankAfter : Blank after) :
      Spells op (before ++ name ++ after)
  | valued {word : String} {before name left right after : List Char} {amount : Decimal}
      (known : word ∈ op.words) (letters : CaseOf word.toList name) (present : op.amount? = some amount)
      (blankBefore : Blank before) (blankLeft : Blank left) (blankRight : Blank right)
      (blankAfter : Blank after) :
      Spells op (before ++ (name ++ left ++ ':' :: (right ++ amount.chars)) ++ after)

/-- The names are made of letters that can be told apart from blanks and colons in either case. -/
theorem words_letters : ∀ word ∈ op.words, word.toList ≠ [] ∧ ∀ w ∈ word.toList,
    (w.toLower = w ∧ w.toUpper.toLower = w) ∧
    (isBlank w = false ∧ w ≠ ':') ∧ (isBlank w.toUpper = false ∧ w.toUpper ≠ ':') := by
  -- a check over the letters of the names, not over all characters
  have h : (op.words.all fun word => decide (word.toList ≠ []) && word.toList.all fun w =>
      decide ((w.toLower = w ∧ w.toUpper.toLower = w) ∧
        (isBlank w = false ∧ w ≠ ':') ∧ (isBlank w.toUpper = false ∧ w.toUpper ≠ ':'))) = true := by
    cases op <;> simp only [words] <;> decide
  simpa only [List.all_eq_true, Bool.and_eq_true, decide_eq_true_eq] using h

section Name
variable {word : String} {name : List Char} (hw : word ∈ op.words) (hn : CaseOf word.toList name)
include hw hn

theorem name_ne_nil : name ≠ [] := hn.ne_nil (words_letters word hw).1

theorem isBlank_name : ∀ c ∈ name, isBlank c = false := by
  refine hn.forall_mem fun w h => ?_
  obtain ⟨-, ⟨hsmall, -⟩, hcapital, -⟩ := (words_letters word hw).2 w h
  exact ⟨hsmall, hcapital⟩

theorem colon_not_mem_name : ':' ∉ name := by
  have hc : ∀ c ∈ name, c ≠ ':' := by
    refine hn.forall_mem fun w h => ?_
    obtain ⟨-, ⟨-, hsmall⟩, -, hcapital⟩ := (words_letters word hw).2 w h
    exact ⟨hsmall, hcapital⟩
  exact fun h => hc _ h rfl

theorem lower_name : String.ofList (lower name) = word := by
  have hl : lower name = word.toList := hn.lower_eq fun w h => ((words_letters word hw).2 w h).1
  rw [hl, String.ofList_toList]

/-- Under any of its spellings the name stands for the operation. -/
theorem ofParts_name : ofParts name (op.amount?.map Decimal.chars) = .ok op := by
  have hl := lower_name hw hn
  have hread (amount : Decimal) : readAmount name (some amount.chars) = .ok amount := by
    obtain ⟨c, cs, hc⟩ := List.exists_cons_of_ne_nil amount.chars_ne_nil
    have hr := amount.readChars_chars
    rw [hc] at hr ⊢
    simp only [readAmount, hr]
  cases op with
  | deposit amount =>
    obtain rfl : word = "deposit" := List.mem_singleton.mp hw
    simp [ofParts, hl, amount?, hread, Except.map]
  | withdraw amount =>
    obtain rfl : word = "withdraw" := List.mem_singleton.mp hw
    simp [ofParts, hl, amount?, hread, Except.map]
  | reportBalance =>
    rcases List.mem_pair.mp hw with rfl | rfl <;> simp [ofParts, hl, amount?]

end Name

theorem isBlank_amount {amount : Decimal} : ∀ c ∈ amount.chars, isBlank c = false := by
  intro c hc
  rcases Decimal.mem_chars hc with h | rfl | rfl
  · exact isBlank_of_isDigit h
  · rfl
  · rfl

theorem readChars_of_spells (h : op.Spells text) : readChars text = .ok op := by
  cases h with
  | @bare word before name after known letters absent blankBefore blankAfter =>
    have ht : trim (before ++ name ++ after) = name :=
      trim_word blankBefore blankAfter (name_ne_nil known letters) (isBlank_name known letters)
    have hp := ofParts_name known letters
    rw [absent, Option.map_none] at hp
    simp only [readChars, ht, splitFirst_of_not_mem (colon_not_mem_name known letters), hp]
  | @valued word before name left right after d known letters present blankBefore blankLeft blankRight blankAfter =>
    have hne := name_ne_nil known letters
    have hb := isBlank_name known letters
    -- the text starts with the name and ends with the amount, so trimming stops there
    have hfirst : ∀ c ∈ (name ++ left ++ ':' :: (right ++ d.chars)).head?, isBlank c = false := by
      rw [List.append_assoc, List.head?_append_of_ne_nil name hne]
      exact fun c hc => hb c (List.mem_of_mem_head? hc)
    have hlast : ∀ c ∈ (name ++ left ++ ':' :: (right ++ d.chars)).getLast?, isBlank c = false := by
      rw [← List.cons_append, ← List.append_assoc, List.getLast?_append_of_ne_nil _ d.chars_ne_nil]
      exact fun c hc => isBlank_amount c (List.mem_of_mem_getLast? hc)
    have ht : trim (before ++ (name ++ left ++ ':' :: (right ++ d.chars)) ++ after) =
        name ++ left ++ ':' :: (right ++ d.chars) :=
      trim_surrounded blankBefore blankAfter (by simp) hfirst hlast
    have hcolon : ':' ∉ name ++ left := by
      rw [List.mem_append, not_or]
      refine ⟨colon_not_mem_name known letters, fun h => ?_⟩
      cases blankLeft _ h
    have hname : trim ([] ++ name ++ left) = name := trim_word blank_nil blankLeft hne hb
    have hamount : trim (right ++ d.chars ++ []) = d.chars :=
      trim_word blankRight blank_nil d.chars_ne_nil isBlank_amount
    rw [List.nil_append] at hname
    rw [List.append_nil] at hamount
    have hp := ofParts_name known letters
    rw [present, Option.map_some] at hp
    simp only [readChars, ht, splitFirst_append hcolon, hname, hamount, hp]

theorem spells_text (op : Operation) : op.Spells op.text.toList := by
  cases op with
  | deposit amount =>
    have hw : "deposit" ∈ words (.deposit amount) := List.mem_singleton_self _
    have h := Spells.valued hw (.refl _) rfl blank_nil blank_nil blank_nil blank_nil
    simpa [text, Decimal.text] using h
  | withdraw amount =>
    have hw : "withdraw" ∈ words (.withdraw amount) := List.mem_singleton_self _
    have h := Spells.valued hw (.refl _) rfl blank_nil blank_nil blank_nil blank_nil
    simpa [text, Decimal.text] using h
  | reportBalance =>
    have hw : "balance" ∈ words .reportBalance := List.mem_cons_self
    have h := Spells.bare hw (.refl _) rfl blank_nil blank_nil
    simpa [text] using h

theorem read_of_spells {s : String} (h : op.Spells s.toList) : read s = .ok op := by
  rw [read, readChars_of_spells h]

theorem read_text (op : Operation) : read op.text = .ok op := read_of_spells op.spells_text

/-- The text of an operation and every other spelling of it are read as that operation. -/
theorem read_every_spelling (op : Operation) :
    read op.text = .ok op ∧ ∀ s : String, op.Spells s.toList → read s = .ok op :=
  ⟨op.read_text, fun _ => read_of_spells⟩

theorem read_every_spelling_decorated :
    let least : Decimal := ⟨-79228162514264337593543950335, 28, by decide, by decide⟩
    let s := "\u3000 wiTHdraw\u00a0:\t-7.9228162514264337593543950335\n"
    (withdraw least).Spells s.toList ∧ read s = .ok (.withdraw least) := by
  intro least s
  have hc : least.chars = "-7.9228162514264337593543950335".toList := by
    simp [least, Decimal.chars, Decimal.magnitudeChars, padded, digits, digitChar]
  have hn : CaseOf "withdraw".toList "wiTHdraw".toList := by
    simp [CaseOf]
  have hb (cs : List Char) (h : cs.all isBlank = true) : Blank cs := List.all_eq_true.mp h
  have hs : (withdraw least).Spells s.toList := by
    have hw : "withdraw" ∈ words (withdraw least) := List.mem_singleton_self _
    have h := Spells.valued hw hn rfl (hb ['\u3000', ' '] rfl) (hb ['\u00a0'] rfl)
      (hb ['\t'] rfl) (hb ['\n'] rfl)
    rw [hc] at h
    simpa [s] using h
  exact ⟨hs, (read_every_spelling _).2 s hs⟩

end Operation

end Passbook
