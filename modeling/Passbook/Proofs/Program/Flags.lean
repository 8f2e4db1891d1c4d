import Passbook.Proofs.Plan.Times
import Passbook.Proofs.Program.ExitStatus

/-! # Flags without effect

A session file takes the place of all options that describe a session, and the options on logging
decide only what standard error shows. So of two runs that name one file, or that name none and
differ in the options on logging only, everything else is the same: the exit status, standard
output and the files. If the runs are held at different times, the time stamps of new statements
differ, and nothing else does.
-/
namespace Passbook

/-- The options name one session file, or name none and differ at most in those on logging. -/
def Options.SameSession (o o' : Options) : Prop :=
  (∃ path, o.config = some path ∧ o'.config = some path) ∨
  (o.config = none ∧ ∃ verbose jsonLogs, o' = { o with verbose := verbose, jsonLogs := jsonLogs })

namespace Program
variable {clock clock' now now' : Clock} {env : Environment} {tree : FileTree} {o o' : Options} {p : Plan}

section SameSession
variable (h : o.SameSession o')
include h

theorem unreadable_of_sameSession (hu : Unreadable tree o) : Unreadable tree o' := by
  obtain ⟨path, fault, hc, ht⟩ := hu
  rcases h with ⟨path', hc', hn⟩ | ⟨hc', -⟩
  · cases hc.symm.trans hc'
    exact ⟨path, fault, hn, ht⟩
  · cases hc.symm.trans hc'

theorem malformed_of_sameSession (hm : Malformed env tree o) : Malformed env tree o' := by
  obtain ⟨path, text, e, hc, ht, he⟩ := hm
  rcases h with ⟨path', hc', hn⟩ | ⟨hc', -⟩
  · cases hc.symm.trans hc'
    exact ⟨path, text, e, hn, ht, he⟩
  · cases hc.symm.trans hc'

/-- What is in force passes the same checks and makes the same plan. -/
theorem inForce_of_sameSession {src : Source} (hs : InForce env tree o src) :
    ∃ src', InForce env tree o' src' ∧ src'.validate = src.validate ∧ src'.plan = src.plan := by
  cases hs with
  | options unnamed =>
    rcases h with ⟨path, hc, -⟩ | ⟨-, verbose, jsonLogs, rfl⟩
    · cases unnamed.symm.trans hc
    · exact ⟨_, .options unnamed, rfl, rfl⟩
  | @file path text f named readable loads =>
    rcases h with ⟨path', hc, hn⟩ | ⟨hc, -⟩
    · cases named.symm.trans hc
      exact ⟨_, .file hn readable loads, rfl, rfl⟩
    · cases named.symm.trans hc

theorem invalid_of_sameSession (hi : Invalid env tree o) : Invalid env tree o' := by
  obtain ⟨src, e, hs, he⟩ := hi
  obtain ⟨src', hs', hv, -⟩ := inForce_of_sameSession h hs
  exact ⟨src', e, hs', hv.trans he⟩

theorem planned_of_sameSession (hp : Planned env tree o p) : Planned env tree o' p := by
  obtain ⟨src, warnings, hs, hw, hp⟩ := hp
  obtain ⟨src', hs', hv, hplan⟩ := inForce_of_sameSession h hs
  exact ⟨src', warnings, hs', hv.trans hw, hplan.trans hp⟩

end SameSession

/-- The runs end alike and print the same, and their trees differ in time stamps at most. -/
def EndAlike (clock clock' : Clock) (out out' : Outcome) : Prop :=
  ∃ code lines tree tree', out.Is code lines tree ∧ out'.Is code lines tree' ∧
    (clock = clock' → tree = tree') ∧ tree.Alike Statement.Redated tree'

theorem endAlike_of_is {out out' : Outcome} {code : Nat} {lines : List String}
    (h : out.Is code lines tree) (h' : out'.Is code lines tree) : EndAlike clock clock' out out' :=
  ⟨code, lines, tree, tree, h, h', fun _ => rfl, .refl (fun _ => Or.inl rfl) tree⟩

theorem endAlike_of_planned (h : Planned env tree o p) (h' : Planned env tree o' p) :
    EndAlike clock clock' (run clock now env tree o) (run clock' now' env tree o') := by
  obtain ⟨hresult, hconsole, htree⟩ := p.execute_alike clock clock' tree
  rw [p.execute_console, p.execute_console] at hconsole
  have hsame : clock = clock' → (p.execute clock tree).tree = (p.execute clock' tree).tree := by
    rintro rfl
    rfl
  cases hr : (p.execute clock tree).result with
  | error e =>
    have hrun : (run clock now env tree o).Is e.exitCode (p.transcript clock) (p.execute clock tree).tree :=
      run_of_planned_error h hr
    have hrun' : (run clock' now' env tree o').Is e.exitCode (p.transcript clock') (p.execute clock' tree).tree :=
      run_of_planned_error h' (hresult.symm.trans hr)
    rw [← hconsole] at hrun'
    exact ⟨_, _, _, _, hrun, hrun', hsame, htree⟩
  | ok r =>
    have hrun : (run clock now env tree o).Is 0 (p.transcript clock) (p.execute clock tree).tree :=
      run_of_planned_ok h hr
    have hrun' : (run clock' now' env tree o').Is 0 (p.transcript clock') (p.execute clock' tree).tree :=
      run_of_planned_ok h' (hresult.symm.trans hr)
    rw [← hconsole] at hrun'
    exact ⟨_, _, _, _, hrun, hrun', hsame, htree⟩

theorem endAlike_of_sameSession (h : o.SameSession o') :
    EndAlike clock clock' (run clock now env tree o) (run clock' now' env tree o') := by
  obtain hu | hm | hi | ⟨p, hp⟩ := planned_cases env tree o
  · exact endAlike_of_is (run_of_unreadable hu) (run_of_unreadable (unreadable_of_sameSession h hu))
  · exact endAlike_of_is (run_of_malformed hm) (run_of_malformed (malformed_of_sameSession h hm))
  · exact endAlike_of_is (run_of_invalid hi) (run_of_invalid (invalid_of_sameSession h hi))
  · exact endAlike_of_planned hp (planned_of_sameSession h hp)

/-- Only standard error can show a flag that a session file replaces, or one on logging. -/
theorem run_ignores_flags (clock clock' now now' : Clock) (env : Environment) (tree : FileTree)
    {o o' : Options} (h : o.SameSession o') :
    let out := run clock now env tree o
    let out' := run clock' now' env tree o'
    out.exitCode = out'.exitCode ∧ out.stdout = out'.stdout ∧ (clock = clock' → out.tree = out'.tree) ∧
    out.tree.Alike Statement.Redated out'.tree := by
  intro out out'
  obtain ⟨code, lines, tree₁, tree₂, hrun, hrun', hsame, halike⟩ :
      EndAlike clock clock' out out' := endAlike_of_sameSession h
  rw [← hrun.tree, ← hrun'.tree] at hsame halike
  exact ⟨hrun.exitCode.trans hrun'.exitCode.symm, hrun.stdout.trans hrun'.stdout.symm, hsame, halike⟩

/-- The second run names the same file, and its own account, withdrawal and statement are ignored. -/
theorem run_ignores_flags_of_named_file :
    let text := "account=[\"Ada\",\"1\"]"
    let tree : FileTree := { entries := [(["s"], .file text.toUTF8)] }
    let o : Options := { config := some "s" }
    let o' : Options := { config := some "s", owner := some "Eve", accountNumber := some "2", statementDir := some "out"
                          operations := [.withdraw ⟨1, 0, by decide, by decide⟩], verbose := true, jsonLogs := true }
    o.SameSession o' ∧ (run .still .still (fun _ => none) tree o).exitCode = 0 ∧
    (run .still .still (fun _ => none) tree o').exitCode = 0 ∧
    (run .still .still (fun _ => none) tree o').tree = tree := by
  intro text tree o o'
  let f : SessionFile := ⟨⟨"Ada", "1", .zero⟩, [], none, none, none⟩
  let p : Plan := ⟨"Ada", "1", .zero, [], .abort, none⟩
  have hread : tree.readText "s" = .ok text := by decide +kernel
  have hload : SessionFile.load (fun _ => none) text = .ok f := toOption_eq_some_iff.mp (by decide +kernel)
  have hvalid : f.validate = .ok [] := by
    have hfilled : Text.isBlankText "Ada" = false ∧ Text.isBlankText "1" = false := by decide
    simp only [SessionFile.validate, Settings.checkFilled, f, hfilled]
    rfl
  have hplanned : Planned (fun _ => none) tree o p := ⟨.file f, [], .file rfl hread hload, hvalid, rfl⟩
  have hrun : (run .still .still (fun _ => none) tree o).Is 0 _ tree := run_of_planned_ok hplanned rfl
  have hsame : o.SameSession o' := Or.inl ⟨"s", rfl, rfl⟩
  obtain ⟨hcode, -, htree, -⟩ := run_ignores_flags .still .still .still .still (fun _ => none) tree hsame
  exact ⟨hsame, hrun.exitCode, hcode.symm.trans hrun.exitCode, (htree rfl).symm.trans hrun.tree⟩

end Program

end Passbook
