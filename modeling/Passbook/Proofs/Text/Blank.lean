import Mathlib.Data.List.Forall2
import Mathlib.Data.List.TakeWhile
import Passbook.Text.Blank
import Passbook.Text.Digits

/-! # Trimming, splitting and letter case

What trimming takes away, where a text is split, and which spellings of a word fall together once
the case of the letters is folded.
-/
namespace Passbook.Text
variable {cs before core after : List Char}

/-- White space only, or nothing at all. -/
def Blank (cs : List Char) : Prop := ∀ c ∈ cs, isBlank c = true

theorem blank_nil : Blank [] := by simp [Blank]

theorem isBlank_of_isDigit {c : Char} (h : isDigit c = true) : isBlank c = false := by
  simp only [isDigit, Bool.and_eq_true, decide_eq_true_eq, Char.le_def, UInt32.le_iff_toNat_le] at h
  have hlow : 48 ≤ c.toNat := h.1
  have hhigh : c.toNat ≤ 57 := h.2
  simp only [isBlank, Bool.or_eq_false_iff, Bool.and_eq_false_iff, decide_eq_false_iff_not,
    beq_eq_false_iff_ne]
  omega

theorem trimStart_eq_self (h : ∀ c ∈ cs.head?, isBlank c = false) : trimStart cs = cs := by
  cases cs with
  | nil => rfl
  | cons c cs => exact trimStart_of_not_blank (h c rfl)

theorem trimEnd_eq_self (h : ∀ c ∈ cs.getLast?, isBlank c = false) : trimEnd cs = cs := by
  rw [← List.head?_reverse] at h
  have hr : trimStart cs.reverse = cs.reverse := trimStart_eq_self h
  rw [trimStart] at hr
  rw [trimEnd, hr, List.reverse_reverse]

theorem trimStart_blank_append (h : Blank before) (cs : List Char) : trimStart (before ++ cs) = trimStart cs :=
  List.dropWhile_append_of_pos h

theorem trimEnd_append_blank (h : Blank after) (cs : List Char) : trimEnd (cs ++ after) = trimEnd cs := by
  have hr : ∀ c ∈ after.reverse, isBlank c = true := fun c hc => h c (List.mem_reverse.mp hc)
  rw [trimEnd, List.reverse_append, List.dropWhile_append_of_pos hr, trimEnd]

/-- Blanks around a text that neither starts nor ends with one are taken off, and nothing else. -/
theorem trim_surrounded (hb : Blank before) (ha : Blank after) (hne : core ≠ [])
    (hfirst : ∀ c ∈ core.head?, isBlank c = false) (hlast : ∀ c ∈ core.getLast?, isBlank c = false) :
    trim (before ++ core ++ after) = core := by
  have hhead : (core ++ after).head? = core.head? := List.head?_append_of_ne_nil core hne
  rw [trim, List.append_assoc, trimStart_blank_append hb, trimStart_eq_self (by rwa [hhead]),
    trimEnd_append_blank ha, trimEnd_eq_self hlast]

/-- A word without any blanks in it is left over. -/
theorem trim_word (hb : Blank before) (ha : Blank after) (hne : core ≠ []) (hw : ∀ c ∈ core, isBlank c = false) :
    trim (before ++ core ++ after) = core :=
  trim_surrounded hb ha hne (fun c hc => hw c (List.mem_of_mem_head? hc))
    fun c hc => hw c (List.mem_of_mem_getLast? hc)

/-- Only blanks are trimmed away entirely. -/
theorem trim_eq_nil_iff : trim cs = [] ↔ Blank cs := by
  constructor
  · intro h
    rw [trim, trimEnd, List.reverse_eq_nil_iff, List.dropWhile_eq_nil_iff] at h
    have hrest : Blank (trimStart cs) := fun c hc => h c (List.mem_reverse.mpr hc)
    have hcut : cs.takeWhile isBlank ++ trimStart cs = cs := List.takeWhile_append_dropWhile
    rw [← hcut, Blank, List.forall_mem_append]
    exact ⟨fun c hc => List.mem_takeWhile_imp hc, hrest⟩
  · intro h
    have hstart : trimStart cs = [] := List.dropWhile_eq_nil_iff.mpr h
    rw [trim, hstart]
    rfl

theorem splitFirst_append {sep : Char} (h : sep ∉ cs) (ds : List Char) :
    splitFirst sep (cs ++ sep :: ds) = some (cs, ds) := by
  have hall : ∀ c ∈ cs, (c != sep) = true := by
    intro c hc
    rw [bne_iff_ne]
    rintro rfl
    exact h hc
  have hmem : sep ∈ cs ++ sep :: ds := List.mem_append_right _ List.mem_cons_self
  rw [splitFirst, if_pos hmem, List.takeWhile_append_of_pos hall, List.dropWhile_append_of_pos hall]
  simp

theorem splitFirst_of_not_mem {sep : Char} (h : sep ∉ cs) : splitFirst sep cs = none := if_neg h

/-- The letters of a word, each of them small or capital. -/
def CaseOf (word name : List Char) : Prop := List.Forall₂ (fun w c => c = w ∨ c = w.toUpper) word name

theorem CaseOf.refl (word : List Char) : CaseOf word word := List.forall₂_same.mpr fun _ _ => Or.inl rfl

theorem CaseOf.ne_nil {word name : List Char} (h : CaseOf word name) (hw : word ≠ []) : name ≠ [] := by
  rintro rfl
  exact hw (List.forall₂_nil_right_iff.mp h)

/-- What holds of the small and the capital form of every letter holds throughout the spelling. -/
theorem CaseOf.forall_mem {word name : List Char} {P : Char → Prop} (h : CaseOf word name)
    (hw : ∀ w ∈ word, P w ∧ P w.toUpper) : ∀ c ∈ name, P c := by
  induction h with
  | nil => simp
  | @cons w c word name hc _ ih =>
    rw [List.forall_mem_cons] at hw ⊢
    refine ⟨?_, ih hw.2⟩
    rcases hc with rfl | rfl
    · exact hw.1.1
    · exact hw.1.2

theorem CaseOf.lower_eq {word name : List Char} (h : CaseOf word name)
    (hw : ∀ w ∈ word, w.toLower = w ∧ w.toUpper.toLower = w) : lower name = word := by
  induction h with
  | nil => rfl
  | @cons w c word name hc _ ih =>
    rw [List.forall_mem_cons] at hw
    have hhead : c.toLower = w := by
      rcases hc with rfl | rfl
      · exact hw.1.1
      · exact hw.1.2
    have htail : lower name = word := ih hw.2
    rw [lower, List.map_cons, hhead]
    exact congrArg _ htail

end Passbook.Text
