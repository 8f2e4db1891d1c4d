import Passbook.Plan
import Passbook.Proofs.FileTree
import Passbook.Proofs.Session.Refusals

/-! # Plans carried out at different times

The time of a transaction is written into the statements and is not looked at again. Carried out
twice, a plan ends in the same way and prints the same lines, and the two trees differ at most in
the time stamps of statements. The second part is a simulation: where two trees have the same
places, with directories at the same of them, every step of storing a file finds the same way
through both.
-/
namespace Passbook

/-- Both computations fail for the same reason, or both succeed with related results. -/
inductive Together {ε α β : Type} (P : α → β → Prop) : Except ε α → Except ε β → Prop
  | failed (e : ε) : Together P (.error e) (.error e)
  | done {a : α} {b : β} (related : P a b) : Together P (.ok a) (.ok b)

namespace FileTree
variable {R : ByteArray → ByteArray → Prop} {t t' : FileTree} {content content' : ByteArray}

/-- At each place both trees have nothing, a directory, or files with related contents. -/
structure Alike (R : ByteArray → ByteArray → Prop) (t t' : FileTree) : Prop where
  workingPlace : t.workingPlace = t'.workingPlace
  lookup : ∀ place,
    (t.lookup place = none ∧ t'.lookup place = none) ∨
    (t.lookup place = some .directory ∧ t'.lookup place = some .directory) ∨
    ∃ content content', t.lookup place = some (.file content) ∧ t'.lookup place = some (.file content') ∧
      R content content'

namespace Alike

theorem refl (hR : ∀ content, R content content) (t : FileTree) : Alike R t t := by
  refine ⟨rfl, fun place => ?_⟩
  cases h : t.lookup place with
  | none => exact Or.inl ⟨rfl, rfl⟩
  | some entry =>
    cases entry with
    | directory => exact Or.inr (Or.inl ⟨rfl, rfl⟩)
    | file content => exact Or.inr (Or.inr ⟨content, content, rfl, rfl, hR content⟩)

variable (h : Alike R t t')
include h

theorem start_eq (absolute : Bool) : t.start absolute = t'.start absolute := by
  rw [start, start, h.workingPlace]

theorem walk_eq (place : Place) (ns : List String) : t.walk place ns = t'.walk place ns := by
  induction ns generalizing place with
  | nil => rfl
  | cons name rest ih =>
    rw [walk, walk]
    rcases h.lookup place with ⟨hn, hn'⟩ | ⟨hd, hd'⟩ | ⟨_, _, hf, hf', -⟩
    · simp only [hn, hn']
    · rcases h.lookup (place ++ [name]) with ⟨hn, hn'⟩ | ⟨hn, hn'⟩ | ⟨_, _, hn, hn', -⟩ <;>
        simp only [hd, hd', hn, hn', ih]
    · simp only [hf, hf']

theorem walkToDirectory_eq (place : Place) (ns : List String) :
    t.walkToDirectory place ns = t'.walkToDirectory place ns := by
  rw [walkToDirectory, walkToDirectory, h.walk_eq]
  cases t'.walk place ns with
  | error e => rfl
  | ok d =>
    rcases h.lookup d with ⟨hn, hn'⟩ | ⟨hn, hn'⟩ | ⟨_, _, hn, hn', -⟩ <;> simp only [hn, hn']

theorem isDirectory_eq (absolute : Bool) (ns : List String) :
    t.isDirectory absolute ns = t'.isDirectory absolute ns := by
  rw [isDirectory, isDirectory, h.start_eq, h.walkToDirectory_eq]

theorem insert_directory {place : Place} (hp : place ≠ []) :
    Alike R (t.insert place .directory) (t'.insert place .directory) := by
  refine ⟨h.workingPlace, fun q => ?_⟩
  rw [lookup_insert hp, lookup_insert hp]
  by_cases hq : q = place
  · rw [if_pos hq, if_pos hq]
    exact Or.inr (Or.inl ⟨rfl, rfl⟩)
  · rw [if_neg hq, if_neg hq]
    exact h.lookup q

theorem insert_file {place : Place} (hp : place ≠ []) (hR : R content content') :
    Alike R (t.insert place (.file content)) (t'.insert place (.file content')) := by
  refine ⟨h.workingPlace, fun q => ?_⟩
  rw [lookup_insert hp, lookup_insert hp]
  by_cases hq : q = place
  · rw [if_pos hq, if_pos hq]
    exact Or.inr (Or.inr ⟨content, content', rfl, rfl, hR⟩)
  · rw [if_neg hq, if_neg hq]
    exact h.lookup q

theorem makeDirectory (absolute : Bool) (ns : List String) :
    Together (Alike R) (t.makeDirectory absolute ns) (t'.makeDirectory absolute ns) := by
  rw [FileTree.makeDirectory, FileTree.makeDirectory, h.start_eq, h.walkToDirectory_eq]
  cases checkPath (pathOf absolute ns) with
  | error e => exact .failed e
  | ok _ =>
    cases ns.getLast? with
    | none => exact .failed _
    | some last =>
      cases t'.walkToDirectory (t'.start absolute) ns.dropLast with
      | error e => exact .failed e
      | ok d =>
        dsimp only
        split
        · exact .failed _
        · split
          · exact .failed _
          · rcases h.lookup (d ++ [last]) with ⟨hn, hn'⟩ | ⟨hn, hn'⟩ | ⟨_, _, hn, hn', -⟩ <;>
              simp only [hn, hn']
            · exact .done (h.insert_directory (by simp))
            · exact .failed _
            · exact .failed _

theorem orExisting (absolute : Bool) (ns : List String) (e : FileFault) :
    Alike R (t.orExisting absolute ns e).1 (t'.orExisting absolute ns e).1 ∧
    (t.orExisting absolute ns e).2 = (t'.orExisting absolute ns e).2 := by
  rw [FileTree.orExisting, FileTree.orExisting, h.isDirectory_eq]
  split
  · exact ⟨h, rfl⟩
  · exact ⟨h, rfl⟩

theorem write (hR : R content content') (path : String) :
    Together (Alike R) (t.write path content) (t'.write path content') := by
  rw [FileTree.write, FileTree.write, h.start_eq, h.walkToDirectory_eq]
  cases checkPath path with
  | error e => exact .failed e
  | ok _ =>
    cases (names path).getLast? with
    | none => exact .failed _
    | some last =>
      cases t'.walkToDirectory (t'.start (isAbsolute path)) (names path).dropLast with
      | error e => exact .failed e
      | ok d =>
        dsimp only
        split
        · exact .failed _
        · split
          · exact .failed _
          · have hd : d ++ [last] ≠ [] := by simp
            rcases h.lookup (d ++ [last]) with ⟨hn, hn'⟩ | ⟨hn, hn'⟩ | ⟨_, _, hn, hn', -⟩ <;>
              simp only [hn, hn']
            · exact .done (h.insert_file hd hR)
            · exact .failed _
            · exact .done (h.insert_file hd hR)

theorem makeAll (absolute : Bool) (ns : List String) :
    Alike R (t.makeAll absolute ns).1 (t'.makeAll absolute ns).1 ∧
    (t.makeAll absolute ns).2 = (t'.makeAll absolute ns).2 := by
  induction ns with
  | nil => exact ⟨h, rfl⟩
  | cons last before ih =>
    have hm := h.makeDirectory absolute (last :: before).reverse
    rw [FileTree.makeAll, FileTree.makeAll]
    generalize t.makeDirectory absolute (last :: before).reverse = made at hm ⊢
    generalize t'.makeDirectory absolute (last :: before).reverse = made' at hm ⊢
    cases hm with
    | done related => exact ⟨related, rfl⟩
    | failed e =>
      cases e with
      | missing =>
        -- the parents are made first, and the directory is tried again
        generalize t.makeAll absolute before = parents at ih ⊢
        generalize t'.makeAll absolute before = parents' at ih ⊢
        obtain ⟨t₁, r⟩ := parents
        obtain ⟨t₁', r'⟩ := parents'
        obtain ⟨h₁, hr⟩ := ih
        dsimp only at h₁ hr
        subst hr
        cases r with
        | error e => exact ⟨h₁, rfl⟩
        | ok _ =>
          have hm := h₁.makeDirectory absolute (last :: before).reverse
          dsimp only
          generalize t₁.makeDirectory absolute (last :: before).reverse = made at hm ⊢
          generalize t₁'.makeDirectory absolute (last :: before).reverse = made' at hm ⊢
          cases hm with
          | done related => exact ⟨related, rfl⟩
          | failed e => exact h₁.orExisting _ _ e
      | _ => exact h.orExisting _ _ _

theorem storeAt (hR : R content content') (path : String) :
    Alike R (t.storeAt path content).tree (t'.storeAt path content').tree ∧
    (t.storeAt path content).result = (t'.storeAt path content').result := by
  have hm := h.makeAll (isAbsolute path) ((parentNames path).getD [])
  rw [FileTree.storeAt, FileTree.storeAt]
  generalize t.makeAll (isAbsolute path) ((parentNames path).getD []) = parents at hm ⊢
  generalize t'.makeAll (isAbsolute path) ((parentNames path).getD []) = parents' at hm ⊢
  obtain ⟨t₁, r⟩ := parents
  obtain ⟨t₁', r'⟩ := parents'
  obtain ⟨h₁, hr⟩ := hm
  dsimp only at h₁ hr
  subst hr
  cases r with
  | error e => exact ⟨h₁, rfl⟩
  | ok _ =>
    have hw := h₁.write hR path
    dsimp only
    generalize t₁.write path content = written at hw ⊢
    generalize t₁'.write path content' = written' at hw ⊢
    cases hw with
    | failed e => exact ⟨h₁, rfl⟩
    | done related => exact ⟨related, rfl⟩

end Alike

end FileTree

namespace Statement
variable {a a' : Account} {tree tree' : FileTree}

/-- One content, or two statements of an account that differ in time stamps only. -/
def Redated (content content' : ByteArray) : Prop :=
  content = content' ∨ ∃ (format : StatementFormat) (a a' : Account), a.untimed = a'.untimed ∧
    content = (render format a).toUTF8 ∧ content' = (render format a').toUTF8

theorem exportTo_alike (base : String) (ha : a.untimed = a'.untimed) (h : tree.Alike Redated tree')
    (formats : List StatementFormat) :
    (exportTo base a tree formats).tree.Alike Redated (exportTo base a' tree' formats).tree ∧
    (exportTo base a tree formats).result = (exportTo base a' tree' formats).result := by
  induction formats generalizing tree tree' with
  | nil => exact ⟨h, rfl⟩
  | cons format formats ih =>
    have hs : (storeAs base a tree format).tree.Alike Redated (storeAs base a' tree' format).tree ∧
        (storeAs base a tree format).result = (storeAs base a' tree' format).result :=
      h.storeAt (Or.inr ⟨format, a, a', ha, rfl, rfl⟩) _
    rw [exportTo, exportTo]
    generalize storeAs base a tree format = stored at hs ⊢
    generalize storeAs base a' tree' format = stored' at hs ⊢
    obtain ⟨t, r, events⟩ := stored
    obtain ⟨t', r', events'⟩ := stored'
    obtain ⟨ht, hr⟩ := hs
    dsimp only at ht hr
    subst hr
    cases r with
    | error e => exact ⟨ht, rfl⟩
    | ok path =>
      obtain ⟨hrest, hresult⟩ := ih ht
      refine ⟨hrest, ?_⟩
      dsimp only [Exported.after]
      rw [hresult]

end Statement

namespace Plan

/-- Time stamps in statements apart, it does not matter when a plan is carried out. -/
theorem execute_alike (clock clock' : Clock) (tree : FileTree) (p : Plan) :
    (p.execute clock tree).result = (p.execute clock' tree).result ∧
    (p.execute clock tree).console = (p.execute clock' tree).console ∧
    (p.execute clock tree).tree.Alike Statement.Redated (p.execute clock' tree).tree := by
  have huntimed := Session.run_untimed_eq clock clock' p.policy p.account p.operations
  have haccount := congrArg Run.account huntimed
  have hconsole := congrArg Run.console huntimed
  have houtcome := Session.run_outcome_eq clock clock' p.policy p.account p.operations
  have htree : tree.Alike Statement.Redated tree := .refl (fun _ => Or.inl rfl) tree
  rw [execute, execute]
  generalize Session.run clock p.policy p.account p.operations = run at *
  generalize Session.run clock' p.policy p.account p.operations = run' at *
  dsimp only [Run.untimed] at haccount hconsole
  rw [houtcome]
  cases run'.outcome with
  | error e => exact ⟨rfl, hconsole, htree⟩
  | ok summary =>
    dsimp only [writeStatements]
    cases p.statement with
    | none => exact ⟨rfl, hconsole, htree⟩
    | some settings =>
      obtain ⟨hafter, hresult⟩ := Statement.exportTo_alike settings.outputPath haccount htree settings.formats
      dsimp only
      rw [hresult]
      exact ⟨rfl, hconsole, hafter⟩

end Plan

end Passbook
