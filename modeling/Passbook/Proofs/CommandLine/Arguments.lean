import Passbook.CommandLine.Reader
import Passbook.Proofs.Operation
import Passbook.Proofs.Settings

/-! # Every plan has a command line

A plan is written out as arguments, each a flag with its value attached. Read one after the other
they put the plan together again: no value is taken for a flag, none is cut at an equals sign of
its own, and the operations keep their order and their scales.
-/
namespace Passbook

open Text

namespace Plan

/-- The arguments that describe a plan. -/
def arguments (p : Plan) : List String :=
  ["--owner=" ++ p.owner, "--account-number=" ++ p.number, "--initial-balance=" ++ p.initialBalance.text] ++
  p.operations.map (fun op => "--op=" ++ op.text) ++
  ["--on-insufficient-funds=" ++ p.policy.name] ++
  match p.statement with
  | none => []
  | some s => ["--statement-dir=" ++ s.outputPath,
      "--statement-format=" ++ join "," (s.formats.map StatementFormat.name)]

/-- Owner and number are more than blanks, and a statement has a directory and a format. -/
structure Complete (p : Plan) : Prop where
  owner : isBlankText p.owner = false
  number : isBlankText p.number = false
  outputPath : ∀ s, p.statement = some s → s.outputPath ≠ "" ∧ Char.ofNat 0 ∉ s.outputPath.toList
  formats : ∀ s, p.statement = some s → s.formats ≠ []

end Plan

theorem Policy.read_name (policy : Policy) : Policy.read policy.name = .ok policy := by
  cases policy <;> rfl

theorem StatementFormat.read_name (format : StatementFormat) : StatementFormat.read format.name = .ok format := by
  cases format <;> rfl

namespace CommandLine

def attached (flag : Flag) (value : String) : String := "--" ++ flag.long ++ "=" ++ value

theorem Flag.ofLong?_long (flag : Flag) : ofLong? flag.long = some flag := by
  cases flag <;> decide

theorem Flag.equals_not_mem_long (flag : Flag) : '=' ∉ flag.long.toList := by
  cases flag <;> decide

/-- Where no flag is pending, an attached value is taken in at once, whatever is in it. -/
theorem step_attached (g : Given) {flag : Flag} (hv : flag.value?.isSome = true) (value : String) :
    State.step { given := g } (attached flag value) = (g.take flag value).map fun g => { given := g } := by
  obtain ⟨c, cs, hc⟩ : ∃ c cs, flag.long.toList ++ '=' :: value.toList = c :: cs :=
    List.exists_cons_of_ne_nil (by simp)
  have hl : (attached flag value).toList = '-' :: '-' :: (flag.long.toList ++ '=' :: value.toList) := by
    simp [attached]
  have hstep : State.step { given := g } (attached flag value) =
      State.longArgument { given := g } (flag.long.toList ++ '=' :: value.toList) := by
    rw [hc] at hl ⊢
    simp only [State.step, hl]
    rfl
  rw [hstep, State.longArgument, splitFirst_append flag.equals_not_mem_long]
  simp only [String.ofList_toList, flag.ofLong?_long, hv, ↓reduceIte]
  have hopen : State.openFlag { given := g } flag (some value) =
      (g.take flag value >>= fun g => pure ({ given := g } : State)) := rfl
  rw [hopen]
  cases g.take flag value <;> rfl

/-- Flags with their values, taken in from left to right. -/
def Given.takeAll (g : Given) (settings : List (Flag × String)) : Except Stop Given :=
  settings.foldlM (fun g s => g.take s.1 s.2) g

theorem read_attached {settings : List (Flag × String)} (h : ∀ s ∈ settings, s.1.value?.isSome = true) :
    read (settings.map fun s => attached s.1 s.2) = (Given.takeAll {} settings).map Given.options := by
  have hfold : ∀ g : Given, (settings.map fun s => attached s.1 s.2).foldlM State.step { given := g } =
      (g.takeAll settings).map fun g => ({ given := g } : State) := by
    induction settings with
    | nil => exact fun g => rfl
    | cons s settings ih =>
      intro g
      rw [List.map_cons, List.foldlM_cons, step_attached g (h s List.mem_cons_self), Given.takeAll, List.foldlM_cons]
      cases g.take s.1 s.2 with
      | error e => rfl
      | ok g' => exact ih (fun s' hs => h s' (List.mem_cons_of_mem s hs)) g'
  rw [read, hfold]
  cases Given.takeAll {} settings <;> rfl

namespace Given
variable {g : Given}

theorem takeAll_singleton (g : Given) (flag : Flag) (value : String) :
    g.takeAll [(flag, value)] = g.take flag value := by
  rw [takeAll, List.foldlM_cons]
  cases g.take flag value <;> rfl

theorem takeAll_append {g' : Given} {xs : List (Flag × String)} (h : g.takeAll xs = .ok g')
    (ys : List (Flag × String)) : g.takeAll (xs ++ ys) = g'.takeAll ys := by
  have hf : g.takeAll (xs ++ ys) = g.takeAll xs >>= fun g => g.takeAll ys := List.foldlM_append
  rw [hf, h]
  rfl

theorem take_op (g : Given) (op : Operation) :
    g.take .op op.text = .ok { g with operations := g.operations ++ [op] } := by
  simp [take, isRepeat, setValue, readAs, op.read_text, Except.map]

theorem takeAll_operations (g : Given) (ops : List Operation) :
    g.takeAll (ops.map fun op => (.op, op.text)) = .ok { g with operations := g.operations ++ ops } := by
  induction ops generalizing g with
  | nil => simp [takeAll, pure, Except.pure]
  | cons op ops ih =>
    have h := (takeAll_singleton g .op op.text).trans (take_op g op)
    rw [List.map_cons, ← List.singleton_append, takeAll_append h, ih, List.append_assoc]
    rfl

theorem take_policy (h : g.onInsufficientFunds = none) (policy : Policy) :
    g.take .onInsufficientFunds policy.name = .ok { g with onInsufficientFunds := some policy } := by
  simp [take, isRepeat, h, setValue, readAs, policy.read_name, Except.map]

theorem take_initialBalance (h : g.initialBalance = none) (d : Decimal) :
    g.take .initialBalance d.text = .ok { g with initialBalance := some d } := by
  simp [take, isRepeat, h, setValue, readDecimal, d.read_text, Except.map]

/-- Names joined by commas fall apart into the names again, as no name has a comma in it. -/
theorem pieces_join {formats : List StatementFormat} (h : formats ≠ []) :
    pieces (join "," (formats.map StatementFormat.name)) = formats.map StatementFormat.name := by
  have hcomma (format : StatementFormat) : ',' ∉ format.name.toList := by
    cases format <;> decide
  have hsplit : List.splitOn ',' ([','].intercalate ((formats.map StatementFormat.name).map String.toList)) =
      (formats.map StatementFormat.name).map String.toList := by
    apply List.splitOn_intercalate
    · simp only [List.map_map, List.mem_map]
      rintro _ ⟨format, -, rfl⟩
      exact hcomma format
    · simpa using h
  have hsep : ",".toList = [','] := rfl
  rw [pieces, join, String.toList_intercalate, hsep, hsplit, List.map_map]
  simp [Function.comp_def]

theorem mapM_readAs_name (formats : List StatementFormat) :
    (formats.map StatementFormat.name).mapM (readAs .statementFormat StatementFormat.read) = .ok formats := by
  rw [mapM_eq_ok_iff, List.forall₂_map_left_iff, List.forall₂_same]
  intro format _
  rw [readAs, format.read_name]

theorem take_statementFormat (g : Given) {formats : List StatementFormat} (h : formats ≠ []) :
    g.take .statementFormat (join "," (formats.map StatementFormat.name)) =
      .ok { g with statementFormat := g.statementFormat ++ formats } := by
  simp only [take, isRepeat, setValue, pieces_join h, mapM_readAs_name]
  rfl

end Given

end CommandLine

namespace Plan
open CommandLine
variable {p : Plan}

def statementFlags : Option StatementSettings → List (Flag × String)
  | none => []
  | some s => [(.statementDir, s.outputPath),
      (.statementFormat, join "," (s.formats.map StatementFormat.name))]

def flags (p : Plan) : List (Flag × String) :=
  [(.owner, p.owner), (.accountNumber, p.number), (.initialBalance, p.initialBalance.text)] ++
  p.operations.map (fun op => (.op, op.text)) ++ [(.onInsufficientFunds, p.policy.name)] ++
  statementFlags p.statement

theorem arguments_eq (p : Plan) : p.arguments = p.flags.map fun s => attached s.1 s.2 := by
  rw [arguments, flags]
  cases p.statement <;> simp [statementFlags, attached, Flag.long]

theorem flags_take_values (p : Plan) : ∀ s ∈ p.flags, s.1.value?.isSome = true := by
  have hs : ∀ s ∈ statementFlags p.statement, s.1.value?.isSome = true := by
    cases p.statement <;> simp [statementFlags, Flag.value?]
  have ho : ∀ s ∈ p.operations.map fun op => (Flag.op, op.text), s.1.value?.isSome = true := by
    simp [Flag.value?]
  simp only [flags, List.forall_mem_append, List.forall_mem_cons]
  exact ⟨⟨⟨⟨rfl, rfl, rfl, by simp⟩, ho⟩, rfl, by simp⟩, hs⟩

/-- What is given once all arguments are read. -/
def given (p : Plan) : Given where
  owner := some p.owner
  accountNumber := some p.number
  initialBalance := some p.initialBalance
  operations := p.operations
  onInsufficientFunds := some p.policy
  statementDir := p.statement.map StatementSettings.outputPath
  statementFormat := (p.statement.map StatementSettings.formats).getD []

theorem takeAll_statementFlags (h : p.Complete) {g : Given} (hd : g.statementDir = none) :
    g.takeAll (statementFlags p.statement) = .ok { g with
      statementDir := p.statement.map StatementSettings.outputPath
      statementFormat := g.statementFormat ++ (p.statement.map StatementSettings.formats).getD [] } := by
  cases hs : p.statement with
  | none => simp [statementFlags, Given.takeAll, pure, Except.pure, ← hd]
  | some s =>
    have hdir : g.takeAll [(.statementDir, s.outputPath)] = .ok { g with statementDir := some s.outputPath } := by
      simp [Given.takeAll_singleton, Given.take, Given.isRepeat, hd, Given.setValue]
    rw [statementFlags, ← List.singleton_append, Given.takeAll_append hdir, Given.takeAll_singleton,
      Given.take_statementFormat _ (h.formats s hs)]
    rfl

theorem takeAll_flags (h : p.Complete) : Given.takeAll {} p.flags = .ok p.given := by
  let opened : Given := { owner := some p.owner, accountNumber := some p.number
                          initialBalance := some p.initialBalance }
  have haccount : Given.takeAll {} [(.owner, p.owner), (.accountNumber, p.number),
      (.initialBalance, p.initialBalance.text)] = .ok opened := by
    have hnames : Given.takeAll {} [(.owner, p.owner), (.accountNumber, p.number)] =
        .ok { owner := some p.owner, accountNumber := some p.number } := rfl
    have hbalance := Given.takeAll_append hnames [(.initialBalance, p.initialBalance.text)]
    rwa [Given.takeAll_singleton, Given.take_initialBalance rfl] at hbalance
  have hops := (Given.takeAll_append haccount _).trans (opened.takeAll_operations p.operations)
  have hpolicy := Given.takeAll_append hops [(.onInsufficientFunds, p.policy.name)]
  rw [Given.takeAll_singleton, Given.take_policy rfl] at hpolicy
  rw [flags, Given.takeAll_append hpolicy, takeAll_statementFlags h rfl]
  rfl

theorem given_plan (h : p.Complete) : p.given.options.plan = .ok p := by
  have hs : p.given.options.statementDir.map (fun dir => ⟨dir, p.given.options.statementFormat⟩) = p.statement := by
    cases hs : p.statement with
    | none => simp [given, Given.options, hs]
    | some s => simp [given, Given.options, hs, h.formats s hs]
  have hp : p.given.options.plan = .ok ⟨p.owner, p.number, p.initialBalance, p.operations, p.policy,
      p.given.options.statementDir.map fun dir => ⟨dir, p.given.options.statementFormat⟩⟩ := rfl
  rw [hp, hs]

theorem given_validate (h : p.Complete) : ∃ warnings, p.given.options.validate = .ok warnings := by
  have ho : Settings.checkFilled "owner" p.owner = .ok () := by simp [Settings.checkFilled, h.owner]
  have hn : Settings.checkFilled "account_number" p.number = .ok () := by simp [Settings.checkFilled, h.number]
  have hs : Options.checkStatement p.given.options.statementDir = .ok () := by
    cases hs : p.statement with
    | none => simp [given, Given.options, hs, Options.checkStatement]
    | some s =>
      have hdir := h.outputPath s hs
      simp [given, Given.options, hs, Options.checkStatement, Settings.checkPath, hdir]
  have hv : p.given.options.validate = (do
      Settings.checkFilled "owner" p.owner
      Settings.checkFilled "account_number" p.number
      Options.checkStatement p.given.options.statementDir
      return Settings.depositWarnings Options.operationLabel p.operations) := rfl
  rw [hv, ho, hn, hs]
  exact ⟨_, rfl⟩

/-- A complete plan is what its arguments describe, and the checks find nothing wrong with them. -/
theorem read_arguments (p : Plan) (h : p.Complete) :
    ∃ o warnings, CommandLine.read p.arguments = .ok o ∧ o.config = none ∧ o.validate = .ok warnings ∧
      o.plan = .ok p := by
  obtain ⟨warnings, hv⟩ := given_validate h
  refine ⟨p.given.options, warnings, ?_, rfl, hv, given_plan h⟩
  rw [arguments_eq, read_attached p.flags_take_values, takeAll_flags h]
  rfl

/-- Values that look like flags or lists, and formats that repeat. -/
theorem read_arguments_of_awkward_values :
    let owed : Decimal := ⟨-50, 2, by decide, by decide⟩
    let p : Plan := ⟨"--help=é", " =,1", owed, [.deposit owed, .reportBalance, .withdraw .zero], .proceed,
      some ⟨"-x,=", [.json, .csv, .json]⟩⟩
    p.Complete ∧
    p.arguments = ["--owner=--help=é", "--account-number= =,1", "--initial-balance=-0.50", "--op=deposit:-0.50",
      "--op=balance", "--op=withdraw:0", "--on-insufficient-funds=continue", "--statement-dir=-x,=",
      "--statement-format=json,csv,json"] ∧
    ∃ o warnings, CommandLine.read p.arguments = .ok o ∧ o.config = none ∧ o.validate = .ok warnings ∧
      o.plan = .ok p := by
  intro owed p
  have hp : p.Complete := by
    refine ⟨by decide, by decide, ?_, ?_⟩
    · rintro s ⟨⟩
      decide
    · rintro s ⟨⟩
      decide
  have howed : owed.text = "-0.50" := by
    simp [owed, Decimal.text, Decimal.chars, Decimal.magnitudeChars, padded, digits, digitChar]
  have hzero : Decimal.zero.text = "0" := by
    simp [Decimal.zero, Decimal.text, Decimal.chars, Decimal.magnitudeChars, digits, digitChar]
  refine ⟨hp, ?_, read_arguments p hp⟩
  simp only [arguments, p, Operation.text, howed, hzero, List.map_cons, List.map_nil]
  rfl

end Plan

end Passbook
