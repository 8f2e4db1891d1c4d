import Passbook.Proofs.Program.ExitStatus

/-! # Session files and options say the same

The settings of a session are checked in two places, once as they stand in a file and once as they
stand on the command line. The two agree: what passes in one place passes in the other, what is
refused is refused for the same reason, and what passes is one and the same session.
-/
namespace Passbook

namespace Settings
variable {α β γ δ : Type} {field name : String}

/-- What the checked settings are called in a file and on the command line. -/
def settingNames : List (String × String) :=
  [("account.owner", "owner"), ("account.number", "account_number"), ("statement.output_path", "statement_dir")]

/-- Both checks pass, or both refuse one value for one reason, each under its own name. -/
inductive Alike (R : α → β → Prop) : Except BankError α → Except BankError β → Prop
  | passed {a : α} {b : β} (related : R a b) : Alike R (.ok a) (.ok b)
  | refused {field name value : String} {fault : SettingFault} (renamed : (field, name) ∈ settingNames) :
      Alike R (.error (.invalidSetting field value fault)) (.error (.invalidSetting name value fault))

section Alike
variable {R : α → β → Prop} {S : γ → δ → Prop} {x : Except BankError α} {y : Except BankError β}

theorem Alike.bind {f : α → Except BankError γ} {g : β → Except BankError δ} (h : Alike R x y)
    (hf : ∀ a b, R a b → Alike S (f a) (g b)) : Alike S (x >>= f) (y >>= g) := by
  cases h with
  | passed related => exact hf _ _ related
  | refused renamed => exact .refused renamed

theorem Alike.ok_iff (h : Alike R x y) : (∃ a, x = .ok a) ↔ ∃ b, y = .ok b := by
  cases h with
  | passed related => exact ⟨fun _ => ⟨_, rfl⟩, fun _ => ⟨_, rfl⟩⟩
  | refused renamed => simp

theorem Alike.related {a : α} {b : β} (h : Alike R x y) (hx : x = .ok a) (hy : y = .ok b) : R a b := by
  subst hx hy
  cases h with
  | passed related => exact related

theorem Alike.error {e : BankError} (h : Alike R x y) (hx : x = .error e) :
    ∃ field name value fault, (field, name) ∈ settingNames ∧
      e = .invalidSetting field value fault ∧ y = .error (.invalidSetting name value fault) := by
  subst hx
  cases h with
  | refused renamed => exact ⟨_, _, _, _, renamed, rfl, rfl⟩

end Alike

theorem alike_checkFilled (h : (field, name) ∈ settingNames) (value : String) :
    Alike Eq (checkFilled field value) (checkFilled name value) := by
  unfold checkFilled
  split
  · exact .refused h
  · exact .passed rfl

theorem alike_checkPath (h : (field, name) ∈ settingNames) (value : String) :
    Alike Eq (checkPath field value) (checkPath name value) := by
  unfold checkPath
  split
  · exact .refused h
  · split
    · exact .refused h
    · exact .passed rfl

/-- The deposits of negative amounts, each with its position. -/
def negativeDeposits (ops : List Operation) : List (Nat × Decimal) :=
  ops.zipIdx.filterMap fun
    | (.deposit amount, i) => if amount.isNegative then some (i, amount) else none
    | _ => none

def warningOf (field : String) (amount : Decimal) : Event :=
  ⟨.warn, "⚠️ " ++ field ++ " is negative (" ++ amount.text ++ "); it will be applied as given"⟩

/-- Whatever the operations are called, the same of them earn warnings, in the same order. -/
theorem depositWarnings_eq (label : Nat → String) (ops : List Operation) :
    depositWarnings label ops = (negativeDeposits ops).map fun d => warningOf (label d.1) d.2 := by
  unfold depositWarnings negativeDeposits
  induction ops.zipIdx with
  | nil => rfl
  | cons e es ih =>
    rw [List.flatMap_cons, ih, List.filterMap_cons]
    obtain ⟨op, i⟩ := e
    cases op with
    | deposit amount => cases hn : amount.isNegative <;> simp [operationWarning, negativeWarning, warningOf, hn]
    | withdraw amount => rfl
    | reportBalance => rfl

end Settings

/-- A file and options ask for the same statement; the file's formats are still texts. -/
def SameStatement : Option StatementSection → Option String → List StatementFormat → Prop
  | none, none, _ => True
  | some s, some dir, formats =>
    s.outputPath = dir ∧ List.Forall₂ (fun text format => StatementFormat.read text = .ok format) s.formats formats
  | _, _, _ => False

structure SameSettings (f : SessionFile) (o : Options) : Prop where
  unnamed : o.config = none
  owner : o.owner = some f.account.owner
  number : o.accountNumber = some f.account.number
  initialBalance : o.initialBalance = f.account.initialBalance
  operations : o.operations = f.operations
  policy : f.policy = o.onInsufficientFunds
  statement : SameStatement f.statement o.statementDir o.statementFormat

theorem checkAllowed_of_reads {field : String} {texts : List String} {formats : List StatementFormat}
    (h : List.Forall₂ (fun text format => StatementFormat.read text = .ok format) texts formats) :
    Settings.checkAllowed field StatementFormat.names texts = .ok () := by
  obtain ⟨hcheck, -⟩ | ⟨_, _, _, -, -, -, -, hmap⟩ := StatementFormat.checkAllowed_cases field texts
  · exact hcheck
  · cases hmap.symm.trans (mapM_eq_ok_iff.mpr h)

namespace SameStatement
variable {s : Option StatementSection} {dir : Option String} {formats : List StatementFormat}

theorem alike_checkStatement (h : SameStatement s dir formats) :
    Settings.Alike Eq (SessionFile.checkStatement s) (Options.checkStatement dir) := by
  match s, dir, h with
  | none, none, _ => exact .passed rfl
  | some s, some _, ⟨rfl, hf⟩ =>
    have hpath : Settings.Alike Eq (Settings.checkPath "statement.output_path" s.outputPath)
        (Settings.checkPath "statement_dir" s.outputPath) := Settings.alike_checkPath (by decide) _
    rw [SessionFile.checkStatement, checkAllowed_of_reads hf]
    exact (bind_pure_unit (x := Settings.checkPath _ _)).symm ▸ hpath

theorem statementSettings_eq (h : SameStatement s dir formats) :
    SessionFile.statementSettings s = .ok (dir.map fun path => ⟨path, formats⟩) := by
  match s, dir, h with
  | none, none, _ => rfl
  | some s, some _, ⟨rfl, hf⟩ =>
    rw [SessionFile.statementSettings, mapM_eq_ok_iff.mpr hf]
    rfl

end SameStatement

namespace SameSettings
variable {f : SessionFile} {o : Options}

theorem alike_validate (h : SameSettings f o) :
    Settings.Alike (fun raised raised' =>
      raised = Settings.depositWarnings SessionFile.operationLabel f.operations ∧
      raised' = Settings.depositWarnings Options.operationLabel f.operations) f.validate o.validate := by
  rw [SessionFile.validate, Options.validate]
  simp only [h.unnamed, h.owner, h.number, Settings.required]
  -- owner, number and path, in this order on both sides
  refine (Settings.alike_checkFilled (by decide) _).bind fun _ _ _ => ?_
  refine (Settings.alike_checkFilled (by decide) _).bind fun _ _ _ => ?_
  refine h.statement.alike_checkStatement.bind fun _ _ _ => ?_
  exact .passed ⟨rfl, by rw [h.operations]⟩

theorem file_plan (h : SameSettings f o) : f.plan = .ok
    ⟨f.account.owner, f.account.number, f.account.initialBalance, f.operations, f.policy,
      o.statementDir.map fun dir => ⟨dir, o.statementFormat⟩⟩ := by
  rw [SessionFile.plan, h.statement.statementSettings_eq]
  rfl

theorem options_plan (h : SameSettings f o) : o.plan = f.plan := by
  rw [h.file_plan]
  simp only [Options.plan, h.owner, h.number, h.initialBalance, h.operations, h.policy]
  rfl

end SameSettings

namespace Program
variable {f : SessionFile} {o : Options} {clock now : Clock} {env : Environment} {tree : FileTree}

/-- The plan of a source is carried out, whatever the checks have said. -/
def Source.execute (clock : Clock) (tree : FileTree) (src : Source) : Execution :=
  match src.plan with
  | .error e => { result := .error e, tree := tree }
  | .ok p => p.execute clock tree

/-- Standard error apart, a run does not show where its settings came from. -/
theorem run_alike {named : Options} (h : SameSettings f o) (hs : InForce env tree named (.file f)) :
    ∃ code lines tree', (run clock now env tree named).Is code lines tree' ∧
      (run clock now env tree o).Is code lines tree' := by
  have hs' : InForce env tree o (.options o) := .options h.unnamed
  cases hv : f.validate with
  | error e =>
    obtain ⟨_, _, _, _, -, -, hv'⟩ := h.alike_validate.error hv
    exact ⟨1, [], tree, run_of_invalid ⟨_, _, hs, hv⟩, run_of_invalid ⟨_, _, hs', hv'⟩⟩
  | ok raised =>
    obtain ⟨raised', hv'⟩ := h.alike_validate.ok_iff.mp ⟨raised, hv⟩
    obtain ⟨p, hp⟩ : ∃ p, f.plan = .ok p := ⟨_, h.file_plan⟩
    have hplanned : Planned env tree named p := ⟨_, _, hs, hv, hp⟩
    have hplanned' : Planned env tree o p := ⟨_, _, hs', hv', h.options_plan.trans hp⟩
    cases hr : (p.execute clock tree).result with
    | error e => exact ⟨_, _, _, run_of_planned_error hplanned hr, run_of_planned_error hplanned' hr⟩
    | ok r => exact ⟨_, _, _, run_of_planned_ok hplanned hr, run_of_planned_ok hplanned' hr⟩

/-- It does not matter whether a session is described in a file or by options. -/
theorem sources_agree (h : SameSettings f o) :
    ((∃ raised, f.validate = .ok raised) ↔ ∃ raised, o.validate = .ok raised) ∧
    (∀ e, f.validate = .error e → ∃ field name value fault, (field, name) ∈ Settings.settingNames ∧
      e = .invalidSetting field value fault ∧ o.validate = .error (.invalidSetting name value fault)) ∧
    (∀ raised raised', f.validate = .ok raised → o.validate = .ok raised' →
      raised = (Settings.negativeDeposits f.operations).map
        (fun d => Settings.warningOf (SessionFile.operationLabel d.1) d.2) ∧
      raised' = (Settings.negativeDeposits f.operations).map
        fun d => Settings.warningOf (Options.operationLabel d.1) d.2) ∧
    f.plan = .ok ⟨f.account.owner, f.account.number, f.account.initialBalance, f.operations, f.policy,
      o.statementDir.map fun dir => ⟨dir, o.statementFormat⟩⟩ ∧
    o.plan = f.plan ∧
    (∀ clock tree, Source.execute clock tree (.file f) = Source.execute clock tree (.options o)) ∧
    ∀ clock now env tree named, InForce env tree named (.file f) →
      ∃ code lines tree', (run clock now env tree named).Is code lines tree' ∧
        (run clock now env tree o).Is code lines tree' := by
  have hv := h.alike_validate
  refine ⟨hv.ok_iff, fun e => hv.error, ?_, h.file_plan, h.options_plan, ?_, fun _ _ _ _ _ => run_alike h⟩
  · intro raised raised' hr hr'
    rw [← Settings.depositWarnings_eq, ← Settings.depositWarnings_eq]
    exact hv.related hr hr'
  · intro clock tree
    simp only [Source.execute, Source.plan, h.options_plan]

/-- The file spells its formats in its own way, and the deposit passes with a warning. -/
theorem sources_agree_on_negative_deposit :
    let owed : Decimal := ⟨-500, 2, by decide, by decide⟩
    let ops : List Operation := [.reportBalance, .deposit owed]
    let f : SessionFile := ⟨⟨"Ada", "1", .zero⟩, ops, none, some ⟨"out", [" CSV", "Json "]⟩, none⟩
    let blank : SessionFile := { f with account := ⟨" ", "1", .zero⟩ }
    let o : Options := { owner := some "Ada", accountNumber := some "1", operations := ops
                         statementDir := some "out", statementFormat := [.csv, .json] }
    (∃ raised, f.validate = .ok raised ∧ raised = [Settings.warningOf (SessionFile.operationLabel 1) owed]) ∧
    (∃ raised, o.validate = .ok raised ∧ raised = [Settings.warningOf (Options.operationLabel 1) owed]) ∧
    blank.validate = .error (.invalidSetting "account.owner" " " .blank) ∧
    ∃ name, Options.validate { o with owner := some " " } = .error (.invalidSetting name " " .blank) := by
  intro owed ops f blank o
  have hformats : SameStatement f.statement o.statementDir o.statementFormat :=
    ⟨rfl, .cons rfl (.cons rfl .nil)⟩
  have h : SameSettings f o := ⟨rfl, rfl, rfl, rfl, rfl, rfl, hformats⟩
  have hblank : SameSettings blank { o with owner := some " " } := ⟨rfl, rfl, rfl, rfl, rfl, rfl, hformats⟩
  have hvo : o.validate = .ok (Settings.depositWarnings Options.operationLabel o.operations) := rfl
  obtain ⟨hiff, -, hraised, -⟩ := sources_agree h
  obtain ⟨_, hvf⟩ := hiff.mpr ⟨_, hvo⟩
  obtain ⟨hf, ho⟩ := hraised _ _ hvf hvo
  have he : blank.validate = .error (.invalidSetting "account.owner" " " .blank) := by
    have hb : Text.isBlankText " " = true := by decide
    rw [SessionFile.validate, Settings.checkFilled, if_pos hb]
    rfl
  obtain ⟨field, name, value, fault, -, hsame, hrefused⟩ := (sources_agree hblank).2.1 _ he
  cases hsame
  exact ⟨⟨_, hvf, hf⟩, ⟨_, hvo, ho⟩, he, name, hrefused⟩

end Program

end Passbook
