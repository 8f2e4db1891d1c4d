import Passbook.Proofs.FileTree
import Passbook.Proofs.Program.ExitStatus

/-! # The files that a plan leaves behind

A plan writes one file per format of its statement, after its session came to an end. The files
hold the account in its final state. Where the writing stops early, the formats before that point
have their files. No other file is touched, whatever is in the tree.
-/
namespace Passbook

theorem StatementFormat.fileName_injective : Function.Injective StatementFormat.fileName := by
  intro f g h
  cases f <;> cases g <;> simp [fileName] at h ⊢

namespace Statement
variable {base : String} {a : Account} {format : StatementFormat} {formats : List StatementFormat}
variable {tree tree' tree'' : FileTree}

def pathOf (base : String) (format : StatementFormat) : String := FileTree.joinPath base format.fileName

/-- The statement is in the files of the formats, and no other file is changed. -/
structure Stored (base : String) (a : Account) (formats : List StatementFormat) (before after : FileTree) : Prop where
  holds : ∀ format ∈ formats, after.read (pathOf base format) = .ok (render format a).toUTF8
  elsewhere : ∀ place, (∀ format ∈ formats, after.locate (pathOf base format) ≠ .ok place) →
    after.file? place = before.file? place

theorem eq_of_locate {format' : StatementFormat} {place : Place} (h : tree.locate (pathOf base format) = .ok place)
    (h' : tree.locate (pathOf base format') = .ok place) : format = format' := by
  have hlast (format : StatementFormat) (h : tree.locate (pathOf base format) = .ok place) :
      place.getLast? = some format.fileName := by
    have hn : FileTree.names (pathOf base format) = FileTree.names base ++ [format.fileName] := by
      cases format <;> exact FileTree.names_joinPath base (by decide) (by decide)
    have hdots : format.fileName ≠ "." ∧ format.fileName ≠ ".." := by
      cases format <;> decide
    exact FileTree.getLast?_of_locate h (by rw [hn, List.getLast?_concat]) hdots.1 hdots.2
  exact StatementFormat.fileName_injective (Option.some.inj ((hlast format h).symm.trans (hlast format' h')))

/-- The tree after the formats that could be written, with the places of their files. -/
structure Filed (base : String) (a : Account) (formats : List StatementFormat) (places : List Place)
    (before after : FileTree) : Prop where
  written : FileTree.Written places before after
  holds : ∀ format ∈ formats, after.read (pathOf base format) = .ok (render format a).toUTF8
  placed : ∀ place ∈ places, ∃ format ∈ formats, after.locate (pathOf base format) = .ok place

theorem Filed.stored {places : List Place} (h : Filed base a formats places tree tree') :
    Stored base a formats tree tree' := by
  refine ⟨h.holds, fun place hn => h.written.file?_eq fun hp => ?_⟩
  obtain ⟨format, hf, hl⟩ := h.placed place hp
  exact hn format hf hl

theorem Filed.cons {place : Place} {places : List Place} (hw : FileTree.Written [place] tree tree')
    (hl : tree'.locate (pathOf base format) = .ok place)
    (hr : tree'.read (pathOf base format) = .ok (render format a).toUTF8)
    (h : Filed base a formats places tree' tree'') :
    Filed base a (format :: formats) (place :: places) tree tree'' := by
  have hl' : tree''.locate (pathOf base format) = .ok place := h.written.locate hl
  have hread : tree''.read (pathOf base format) = .ok (render format a).toUTF8 := by
    by_cases hp : place ∈ places
    · -- a later format with a file at this place is the same format again
      obtain ⟨format', hf, hl''⟩ := h.placed place hp
      rw [eq_of_locate hl' hl'']
      exact h.holds format' hf
    · obtain ⟨hc, hs, q, hq, hfile⟩ := FileTree.read_eq_ok.mp hr
      obtain rfl : q = place := Except.ok.inj (hq.symm.trans hl)
      exact FileTree.read_eq_ok.mpr ⟨hc, hs, q, hl', h.written.lookup_file hp hfile⟩
  refine ⟨hw.trans h.written, ?_, ?_⟩
  · intro format' hf
    rcases List.mem_cons.mp hf with rfl | hf
    · exact hread
    · exact h.holds format' hf
  · intro q hq
    rcases List.mem_cons.mp hq with rfl | hq
    · exact ⟨format, List.mem_cons_self, hl'⟩
    · obtain ⟨format', hf, hl''⟩ := h.placed q hq
      exact ⟨format', List.mem_cons_of_mem _ hf, hl''⟩

end Statement

namespace Plan
variable {clock : Clock} {tree : FileTree} {p : Plan}

/-- The formats that a plan asks for; none without a statement. -/
def formats (p : Plan) : List StatementFormat :=
  match p.statement with
  | none => []
  | some s => s.formats

def outputPath (p : Plan) : String :=
  match p.statement with
  | none => ""
  | some s => s.outputPath

theorem writeStatements_eq (p : Plan) (a : Account) (tree : FileTree) :
    p.writeStatements a tree = Statement.exportTo p.outputPath a tree p.formats := by
  rw [writeStatements, outputPath, formats]
  cases p.statement <;> rfl

theorem execute_of_completed {summary : Summary}
    (h : (Session.run clock p.policy p.account p.operations).outcome = .ok summary) (tree : FileTree) :
    let a := (Session.run clock p.policy p.account p.operations).account
    let out := Statement.exportTo p.outputPath a tree p.formats
    (p.execute clock tree).result = out.result.map (fun files => ⟨summary, files⟩) ∧
    (p.execute clock tree).tree = out.tree := by
  intro a out
  rw [show out = p.writeStatements a tree from (p.writeStatements_eq a tree).symm]
  simp only [execute, h, a, and_self]

end Plan

end Passbook
