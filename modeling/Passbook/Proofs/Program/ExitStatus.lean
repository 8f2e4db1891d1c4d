import Passbook.Program
import Passbook.Proofs.Export
import Passbook.Proofs.Session.Failure
import Passbook.Proofs.Settings

/-! # How the program ends

A run loads its settings, checks them, makes a plan, holds the session and writes statements. Each
stage can fail for reasons of its own, and the exit status tells the reasons apart: 3 for files,
1 for settings and operations that make no sense, 2 for an overdraft that ends the session. What
has been printed by then stays printed, and only a session that completed changes the files.
-/
namespace Passbook

namespace Plan
variable {clock : Clock} {tree : FileTree} {p : Plan}

/-- What the operations print, up to the end of the session. -/
def transcript (clock : Clock) (p : Plan) : List String :=
  (Session.reached clock p.account
    (p.operations.take (Session.reach clock p.policy p.account p.operations))).console

theorem execute_console (clock : Clock) (tree : FileTree) (p : Plan) :
    (p.execute clock tree).console = p.transcript clock := by
  have hs := congrArg Session.State.console (Session.runFrom_state clock p.policy 1 p.account p.operations)
  unfold execute
  dsimp only
  split <;> exact hs

end Plan

theorem BankError.exitCode_of_configuration {e : BankError} (h : e.category = .configuration) : e.exitCode = 1 := by
  rw [exitCode, severity, h]
  rfl

namespace Program
variable {clock now : Clock} {env : Environment} {tree : FileTree} {o : Options} {p : Plan} {code : Nat}

inductive Source
  | options (o : Options)
  | file (f : SessionFile)

def Source.validate : Source → Except BankError (List Event)
  | .options o => o.validate
  | .file f => f.validate

def Source.plan : Source → Except BankError Plan
  | .options o => o.plan
  | .file f => f.plan

/-- The options name no file and are used themselves, or they name one that loads. -/
inductive InForce (env : Environment) (tree : FileTree) (o : Options) : Source → Prop
  | options (unnamed : o.config = none) : InForce env tree o (.options o)
  | file {path text : String} {f : SessionFile} (named : o.config = some path)
      (readable : tree.readText path = .ok text) (loads : SessionFile.load env text = .ok f) :
      InForce env tree o (.file f)

def Unreadable (tree : FileTree) (o : Options) : Prop :=
  ∃ path fault, o.config = some path ∧ tree.readText path = .error fault

def Malformed (env : Environment) (tree : FileTree) (o : Options) : Prop :=
  ∃ path text e, o.config = some path ∧ tree.readText path = .ok text ∧ SessionFile.load env text = .error e

def Invalid (env : Environment) (tree : FileTree) (o : Options) : Prop :=
  ∃ src e, InForce env tree o src ∧ src.validate = .error e

/-- The settings pass the checks and make this plan. -/
def Planned (env : Environment) (tree : FileTree) (o : Options) (p : Plan) : Prop :=
  ∃ src warnings, InForce env tree o src ∧ src.validate = .ok warnings ∧ src.plan = .ok p

theorem InForce.isCheck_validate {src : Source} (h : InForce env tree o src) : Settings.IsCheck src.validate := by
  cases h with
  | options unnamed => exact Options.isCheck_validate unnamed
  | file => exact SessionFile.isCheck_validate _

theorem InForce.exists_plan {src : Source} {warnings : List Event} (h : InForce env tree o src)
    (hv : src.validate = .ok warnings) : ∃ p, src.plan = .ok p := by
  cases h with
  | options unnamed => exact Options.exists_plan unnamed hv
  | file => exact SessionFile.exists_plan hv

theorem inForce_cases (env : Environment) (tree : FileTree) (o : Options) :
    Unreadable tree o ∨ Malformed env tree o ∨ ∃ src, InForce env tree o src := by
  cases hc : o.config with
  | none => exact Or.inr (Or.inr ⟨_, .options hc⟩)
  | some path =>
    cases ht : tree.readText path with
    | error fault => exact Or.inl ⟨path, fault, hc, ht⟩
    | ok text =>
      cases hf : SessionFile.load env text with
      | error e => exact Or.inr (Or.inl ⟨path, text, e, hc, ht, hf⟩)
      | ok f => exact Or.inr (Or.inr ⟨_, .file hc ht hf⟩)

theorem planned_cases (env : Environment) (tree : FileTree) (o : Options) :
    Unreadable tree o ∨ Malformed env tree o ∨ Invalid env tree o ∨ ∃ p, Planned env tree o p := by
  obtain hu | hm | ⟨src, hs⟩ := inForce_cases env tree o
  · exact Or.inl hu
  · exact Or.inr (Or.inl hm)
  · cases hv : src.validate with
    | error e => exact Or.inr (Or.inr (Or.inl ⟨src, e, hs, hv⟩))
    | ok warnings =>
      obtain ⟨p, hp⟩ := hs.exists_plan hv
      exact Or.inr (Or.inr (Or.inr ⟨p, src, warnings, hs, hv, hp⟩))

/-- The outcome of a run, apart from standard error. -/
structure Outcome.Is (out : Outcome) (code : Nat) (lines : List String) (tree : FileTree) : Prop where
  exitCode : out.exitCode = code
  stdout : out.stdout = unlines lines
  tree : out.tree = tree

theorem perform_inForce {src : Source} (h : InForce env tree o src) (clock : Clock) :
    ∃ logging notes, perform clock env tree o = carryOut clock tree logging notes src.validate src.plan := by
  cases h with
  | options unnamed => exact ⟨_, _, by rw [perform, unnamed]; rfl⟩
  | @file path text f named readable loads =>
    have hf : SessionFile.loadFile env tree path = .ok f := by rw [SessionFile.loadFile, readable]; exact loads
    exact ⟨_, _, by simp only [perform, named, withFile, hf]; rfl⟩

theorem run_of_loadFile_error {path : String} {e : BankError} (hc : o.config = some path)
    (h : SessionFile.loadFile env tree path = .error e) :
    (run clock now env tree o).Is e.exitCode [] tree := by
  rw [run, perform, hc]
  simp only [withFile, h]
  exact ⟨rfl, rfl, rfl⟩

theorem run_of_unreadable (h : Unreadable tree o) : (run clock now env tree o).Is 3 [] tree := by
  obtain ⟨path, fault, hc, ht⟩ := h
  exact run_of_loadFile_error (e := .file fault) hc (by rw [SessionFile.loadFile, ht])

theorem run_of_malformed (h : Malformed env tree o) : (run clock now env tree o).Is 1 [] tree := by
  obtain ⟨path, text, e, hc, ht, he⟩ := h
  rw [← BankError.exitCode_of_configuration (SessionFile.isCheck_load env text e he)]
  exact run_of_loadFile_error hc (by rw [SessionFile.loadFile, ht]; exact he)

theorem run_of_invalid (h : Invalid env tree o) : (run clock now env tree o).Is 1 [] tree := by
  obtain ⟨src, e, hs, he⟩ := h
  obtain ⟨logging, notes, hp⟩ := perform_inForce hs clock
  rw [← BankError.exitCode_of_configuration (hs.isCheck_validate e he), run, hp, he]
  exact ⟨rfl, rfl, rfl⟩

theorem run_of_planned_error {e : BankError} (h : Planned env tree o p)
    (he : (p.execute clock tree).result = .error e) :
    (run clock now env tree o).Is e.exitCode (p.transcript clock) (p.execute clock tree).tree := by
  obtain ⟨src, warnings, hs, hv, hp⟩ := h
  obtain ⟨logging, notes, hr⟩ := perform_inForce hs clock
  rw [run, hr, hv, hp, ← p.execute_console clock tree]
  simp only [carryOut, he]
  exact ⟨rfl, rfl, rfl⟩

theorem run_of_planned_ok {r : Report} (h : Planned env tree o p) (hr : (p.execute clock tree).result = .ok r) :
    (run clock now env tree o).Is 0 (p.transcript clock) (p.execute clock tree).tree := by
  obtain ⟨src, warnings, hs, hv, hp⟩ := h
  obtain ⟨logging, notes, hf⟩ := perform_inForce hs clock
  rw [run, hf, hv, hp, ← p.execute_console clock tree]
  simp only [carryOut, hr]
  exact ⟨rfl, rfl, rfl⟩

end Program

end Passbook
