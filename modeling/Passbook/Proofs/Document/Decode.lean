import Mathlib.Data.List.Nodup
import Passbook.Document.Decode

/-! # Tables in the order of their names

The entries of a table are visited in the order of their names. The order in which they were written
has no influence as long as no name occurs twice, and what every visit keeps is kept by all of them.
-/
namespace Passbook

open Document

namespace Value
variable {name : String} {v : Value} {entries ordered : List (String × Value)}

theorem mem_sorted {e : String × Value} : e ∈ sorted entries ↔ e ∈ entries :=
  (List.mergeSort_perm entries _).mem_iff

theorem sorted_eq_of_perm (hp : entries.Perm ordered) (hn : (ordered.map Prod.fst).Nodup)
    (ho : ordered.Pairwise fun a b => a.1 ≤ b.1) : sorted entries = ordered := by
  have hsame : (sorted entries).Perm ordered := (List.mergeSort_perm entries _).trans hp
  have hsorted : (entries.mergeSort fun a b => a.1 ≤ b.1).Pairwise fun a b => decide (a.1 ≤ b.1) = true := by
    refine List.pairwise_mergeSort (fun a b c hab hbc => ?_) (fun a b => ?_) entries
    · rw [decide_eq_true_eq] at *
      exact String.le_trans hab hbc
    · rw [Bool.or_eq_true, decide_eq_true_eq, decide_eq_true_eq]
      exact String.le_total a.1 b.1
  have hle : (sorted entries).Pairwise fun a b => a.1 ≤ b.1 := hsorted.imp of_decide_eq_true
  refine hsame.eq_of_pairwise (fun a b ha hb hab hba => ?_) hle ho
  exact List.inj_on_of_nodup_map hn (hsame.mem_iff.mp ha) hb (String.le_antisymm hab hba)

theorem find?_of_mem (hn : (entries.map Prod.fst).Nodup) (h : (name, v) ∈ entries) :
    find? name entries = some v := by
  induction entries with
  | nil => cases h
  | cons e rest ih =>
    rw [List.map_cons, List.nodup_cons] at hn
    rcases List.mem_cons.mp h with rfl | h
    · simp [find?]
    · have hne : e.1 ≠ name := by
        rintro rfl
        exact hn.1 (List.mem_map.mpr ⟨_, h, rfl⟩)
      rw [find?, if_neg hne, ih hn.2 h]

end Value

namespace Decode.Layout
variable {δ : Type} {l : Layout δ} {d : Dialect} {entries : List (String × Value)} {draft result : δ}

/-- What holds of the draft of a record at first and is kept by every visit holds in the end. -/
theorem readTable_keeps (P : δ → Prop) (h : l.readTable d draft entries = .ok result) (hd : P draft)
    (hv : ∀ name v, (name, v) ∈ entries → ∀ a b, P a → l.visit d name v a = .ok b → P b) : P result := by
  have hs : ∀ name v, (name, v) ∈ Value.sorted entries → ∀ a b, P a → l.visit d name v a = .ok b → P b :=
    fun name v he => hv name v (Value.mem_sorted.mp he)
  unfold readTable at h
  generalize Value.sorted entries = es at h hs
  induction es generalizing draft with
  | nil =>
    cases h
    exact hd
  | cons e es ih =>
    rw [List.foldlM_cons] at h
    cases hb : l.visit d e.1 e.2 draft with
    | error mismatch =>
      rw [hb] at h
      cases h
    | ok b =>
      rw [hb] at h
      exact ih (hs e.1 e.2 List.mem_cons_self draft b hd hb) h
        fun name v he => hs name v (List.mem_cons_of_mem e he)

/-- A required field is what one of the visits has made of it. -/
theorem required_of_readTable {α : Type} (field : δ → Option α) (Q : α → Prop) {label : String} {y : α}
    (h : l.readTable d draft entries = .ok result) (hd : field draft = none)
    (hv : ∀ name v, (name, v) ∈ entries → ∀ a b, l.visit d name v a = .ok b →
      field b = field a ∨ ∃ z, field b = some z ∧ Q z)
    (hy : required label (field result) = .ok y) : Q y := by
  have hkept : ∀ z, field result = some z → Q z := by
    refine readTable_keeps (fun draft => ∀ z, field draft = some z → Q z) h (fun z hz => ?_) ?_
    · rw [hd] at hz
      cases hz
    · intro name v he a b ha hb z hz
      rcases hv name v he a b hb with hsame | ⟨z', hz', hq⟩
      · exact ha z (hsame ▸ hz)
      · obtain rfl : z' = z := Option.some.inj (hz'.symm.trans hz)
        exact hq
  cases hf : field result with
  | none =>
    rw [hf] at hy
    cases hy
  | some z =>
    rw [hf] at hy
    cases hy
    exact hkept y hf

end Decode.Layout

end Passbook
