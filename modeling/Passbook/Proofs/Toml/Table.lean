import Mathlib.Data.List.Nodup
import Passbook.Toml.Table

/-! # Values stay where they were put

The lines of a document add to its tables and define them, but no line touches a value that an
earlier line has given to a name. So what is found under a name in the end is what its first line
says, whatever follows.
-/
namespace Passbook.Toml

namespace Entries
variable {P : Item → Prop} {name other : String} {item : Item} {es : Entries}

theorem mem_of_find? (h : find? name es = some item) : (name, item) ∈ es := by
  induction es with
  | nil => cases h
  | cons e es ih =>
    rw [find?] at h
    split at h
    · rename_i he
      cases h
      rw [← he]
      exact List.mem_cons_self
    · exact List.mem_cons_of_mem e (ih h)

theorem find?_eq_none_iff : find? name es = none ↔ name ∉ es.map Prod.fst := by
  induction es with
  | nil => simp [find?]
  | cons e es ih =>
    rw [find?, List.map_cons, List.mem_cons, not_or, ← ih]
    by_cases he : e.1 = name
    · simp [he]
    · simp [he, Ne.symm he]

theorem map_fst_set (name : String) (item : Item) (es : Entries) :
    (set name item es).map Prod.fst = es.map Prod.fst := by
  induction es with
  | nil => rfl
  | cons e es ih =>
    rw [set]
    split
    · rename_i he
      rw [List.map_cons, List.map_cons, he]
    · rw [List.map_cons, List.map_cons, ih]

theorem mem_set {e : String × Item} (h : e ∈ set name item es) : e ∈ es ∨ e = (name, item) := by
  induction es with
  | nil => exact Or.inl h
  | cons e' es ih =>
    rw [set] at h
    split at h
    · rcases List.mem_cons.mp h with h | h
      · exact Or.inr h
      · exact Or.inl (List.mem_cons_of_mem e' h)
    · rcases List.mem_cons.mp h with rfl | h
      · exact Or.inl List.mem_cons_self
      · exact (ih h).imp_left (List.mem_cons_of_mem e')

/-- The name occurs, and everything under it is of one kind. -/
structure Has (P : Item → Prop) (name : String) (es : Entries) : Prop where
  named : name ∈ es.map Prod.fst
  all : ∀ item, (name, item) ∈ es → P item

theorem Has.append (h : es.Has P name) (hn : find? other es = none) (item : Item) :
    Has P name (es ++ [(other, item)]) := by
  refine ⟨by rw [List.map_append]; exact List.mem_append_left _ h.named, fun x hx => ?_⟩
  rcases List.mem_append.mp hx with hx | hx
  · exact h.all x hx
  · cases List.mem_singleton.mp hx
    exact absurd h.named (find?_eq_none_iff.mp hn)

theorem Has.set (h : es.Has P name) (hi : other = name → P item) : Has P name (set other item es) := by
  refine ⟨by rw [map_fst_set]; exact h.named, fun x hx => ?_⟩
  rcases mem_set hx with hx | hx
  · exact h.all x hx
  · cases hx
    exact hi rfl

end Entries

/-- Under a dotted name in the item stands the value. -/
def Item.Holds (v : Value) : List String → Item → Prop
  | [], item => item = .value v
  | name :: path, item =>
    ∃ implicit dotted es, item = .table implicit dotted es ∧ Entries.Has (Item.Holds v path) name es

namespace Entries
variable {name other : String} {es es' sub sub' : Entries} {implicit dotted : Bool} {tables : List Entries}

/-- Every value of the first entries is found in the second ones, too. -/
def Keeps (es es' : Entries) : Prop :=
  ∀ v path name, es.Has (Item.Holds v path) name → es'.Has (Item.Holds v path) name

theorem Keeps.refl (es : Entries) : es.Keeps es := fun _ _ _ h => h

theorem Keeps.trans {es'' : Entries} (h : es.Keeps es') (h' : es'.Keeps es'') : es.Keeps es'' :=
  fun v path name hv => h' v path name (h v path name hv)

theorem keeps_append (hn : find? other es = none) (item : Item) : es.Keeps (es ++ [(other, item)]) :=
  fun _ _ _ h => h.append hn item

theorem keeps_set_table (hf : find? other es = some (.table implicit dotted sub)) (hs : sub.Keeps sub')
    (implicit' : Bool) : es.Keeps (set other (.table implicit' dotted sub') es) := by
  intro v path name h
  refine h.set ?_
  rintro rfl
  have hold := h.all _ (mem_of_find? hf)
  cases path with
  | nil => cases hold
  | cons name path =>
    obtain ⟨_, _, _, he, hhas⟩ := hold
    cases he
    exact ⟨_, _, _, rfl, hs v path name hhas⟩

/-- The elements of a list of tables hold no value under a name. -/
theorem keeps_set_elements (hf : find? other es = some (.elements tables)) (tables' : List Entries) :
    es.Keeps (set other (.elements tables') es) := by
  intro v path name h
  refine h.set ?_
  rintro rfl
  have hold := h.all _ (mem_of_find? hf)
  cases path with
  | nil => cases hold
  | cons name path =>
    obtain ⟨_, _, _, he, -⟩ := hold
    cases he

theorem keeps_openTable (h : openTable name es = some es') : es.Keeps es' := by
  unfold openTable at h
  split at h
  · rename_i hf
    cases h
    exact keeps_append hf _
  · rename_i hf
    cases h
    exact keeps_set_table hf (.refl _) false
  · cases h

theorem keeps_openElement (h : openElement name es = some es') : es.Keeps es' := by
  unfold openElement at h
  split at h
  · rename_i hf
    cases h
    exact keeps_append hf _
  · rename_i hf
    cases h
    exact keeps_set_elements hf _
  · cases h

theorem keeps_assign {below : Bool} {path : List String} {v : Value} (h : assign dotted below es path v = some es') :
    es.Keeps es' := by
  fun_induction assign dotted below es path v generalizing es' with
  | case1 => cases h
  | case2 => cases h
  | case3 => cases h
  | case4 dotted below es name v _ hf =>
    cases h
    exact keeps_append hf _
  | case5 dotted below es name path v _ hf ih =>
    obtain ⟨sub, -, rfl⟩ := Option.map_eq_some_iff.mp h
    exact keeps_append hf _
  | case6 dotted below es name path v _ dots sub hf ih =>
    obtain ⟨sub', hs, rfl⟩ := Option.map_eq_some_iff.mp h
    exact keeps_set_table hf (ih hs) _
  | case7 => cases h
  | case8 dotted below es name path v _ tables hf ih =>
    obtain ⟨tables', -, rfl⟩ := Option.map_eq_some_iff.mp h
    exact keeps_set_elements hf _
  | case9 => cases h

theorem keeps_within {f : Entries → Option Entries} {path : List String}
    (hf : ∀ es es', f es = some es' → es.Keeps es') (h : within f es path = some es') : es.Keeps es' := by
  fun_induction within f es path generalizing es' with
  | case1 es => exact hf _ _ h
  | case2 es name path hn ih =>
    obtain ⟨sub, -, rfl⟩ := Option.map_eq_some_iff.mp h
    exact keeps_append hn _
  | case3 es name path implicit dotted sub hn ih =>
    obtain ⟨sub', hs, rfl⟩ := Option.map_eq_some_iff.mp h
    exact keeps_set_table hn (ih hs) _
  | case4 es name path tables hn ih =>
    obtain ⟨tables', -, rfl⟩ := Option.map_eq_some_iff.mp h
    exact keeps_set_elements hn _
  | case5 => cases h

end Entries

namespace Assembly
variable {a b : Assembly}

theorem keeps_step {statement : Statement} (h : a.step statement = some b) : a.entries.Keeps b.entries := by
  have hparent {f : String → Entries → Option Entries} {path : List String} {es : Entries}
      (hf : ∀ name es es', f name es = some es' → es.Keeps es') (h : atParent f a.entries path = some es) :
      a.entries.Keeps es := by
    unfold atParent at h
    split at h
    · cases h
    · exact Entries.keeps_within (hf _) h
  cases statement with
  | header path =>
    obtain ⟨es, hes, rfl⟩ := Option.map_eq_some_iff.mp h
    exact hparent (fun _ _ _ => Entries.keeps_openTable) hes
  | elementHeader path =>
    obtain ⟨es, hes, rfl⟩ := Option.map_eq_some_iff.mp h
    exact hparent (fun _ _ _ => Entries.keeps_openElement) hes
  | assignment path v =>
    obtain ⟨es, hes, rfl⟩ := Option.map_eq_some_iff.mp h
    exact Entries.keeps_within (fun _ _ => Entries.keeps_assign) hes

theorem keeps_foldlM {statements : List Statement} (h : statements.foldlM step a = some b) :
    a.entries.Keeps b.entries := by
  induction statements generalizing a with
  | nil =>
    cases h
    exact .refl _
  | cons statement statements ih =>
    obtain ⟨c, hc, h⟩ := Option.bind_eq_some_iff.mp h
    exact (keeps_step hc).trans (ih h)

/-- Fields that are new to the table, and to each other, come after those that it has. -/
theorem foldlM_assignments (table : String) (before fields : List (String × Value))
    (hn : ((before ++ fields).map Prod.fst).Nodup) :
    (fields.map fun e => Statement.assignment [e.1] e.2).foldlM step
        ⟨[(table, .table false false (before.map fun e => (e.1, .value e.2)))], [table]⟩ =
      some ⟨[(table, .table false false ((before ++ fields).map fun e => (e.1, .value e.2)))], [table]⟩ := by
  induction fields generalizing before with
  | nil => simp
  | cons e fields ih =>
    have hnew : Entries.find? e.1 (before.map fun e => (e.1, Item.value e.2)) = none := by
      rw [Entries.find?_eq_none_iff, List.map_map]
      rw [List.map_append, List.map_cons, List.nodup_append] at hn
      exact fun hmem => hn.2.2 _ hmem _ List.mem_cons_self rfl
    have hstep : step ⟨[(table, .table false false (before.map fun e => (e.1, .value e.2)))], [table]⟩
        (.assignment [e.1] e.2) =
          some ⟨[(table, .table false false ((before ++ [e]).map fun e => (e.1, .value e.2)))], [table]⟩ := by
      simp [step, Entries.within, Entries.find?, Entries.assign, hnew, Entries.set]
    rw [List.append_cons] at hn ⊢
    rw [List.map_cons, List.foldlM_cons, hstep]
    exact ih (before ++ [e]) hn

/-- A table of values in lines of their own is assembled as it is written. -/
theorem ofStatements_fields (table : String) {fields : List (String × Value)} (hn : (fields.map Prod.fst).Nodup) :
    ofStatements (.header [table] :: fields.map fun e => .assignment [e.1] e.2) =
      some ⟨[(table, .table false false (fields.map fun e => (e.1, .value e.2)))], [table]⟩ := by
  have hheader : step {} (.header [table]) = some ⟨[(table, .table false false [])], [table]⟩ := by
    simp [step, atParent, Entries.within, Entries.openTable, Entries.find?]
  rw [ofStatements, List.foldlM_cons, hheader]
  exact foldlM_assignments table [] fields hn

end Assembly

theorem entryValues_eq (es : Entries) : entryValues es = es.map fun e => (e.1, e.2.toValue) := by
  induction es with
  | nil => rfl
  | cons e es ih => rw [entryValues, ih, List.map_cons]

theorem Entries.Has.mem_entryValues {P : Item → Prop} {name : String} {es : Entries} {v : Value} (h : es.Has P name)
    (hv : (name, v) ∈ entryValues es) : ∃ item, P item ∧ v = item.toValue := by
  rw [entryValues_eq] at hv
  obtain ⟨e, he, heq⟩ := List.mem_map.mp hv
  cases heq
  exact ⟨e.2, h.all _ he, rfl⟩

end Passbook.Toml
