import Passbook.CommandLine.Options
import Passbook.Proofs.Basic
import Passbook.SessionFile

/-! # What the checks on settings guarantee

A check that fails is a failure of configuration, whatever the setting. Settings that pass can be
turned into a plan: nothing is found wrong with them later. The formats of a statement are looked at
twice, by a check against the list of their names and by the reader of a name. The two agree on every
text, and where they refuse a list, they blame the same entry of it.
-/
namespace Passbook

namespace Settings
variable {α β : Type} {field : String}

/-- If anything fails here, then for a reason of configuration. -/
def IsCheck (x : Except BankError α) : Prop := ∀ e, x = .error e → e.category = .configuration

theorem isCheck_ok (a : α) : IsCheck (.ok a) := by
  intro e h
  cases h

theorem IsCheck.bind {x : Except BankError α} {f : α → Except BankError β} (hx : IsCheck x)
    (hf : ∀ a, IsCheck (f a)) : IsCheck (x >>= f) := by
  intro e h
  cases x with
  | error e' =>
    cases h
    exact hx _ rfl
  | ok a => exact hf a e h

theorem isCheck_checkPath (field value : String) : IsCheck (checkPath field value) := by
  intro e h
  unfold checkPath at h
  split at h
  · cases h
    rfl
  · split at h
    · cases h
      rfl
    · cases h

theorem isCheck_checkFilled (field value : String) : IsCheck (checkFilled field value) := by
  intro e h
  unfold checkFilled at h
  split at h
  · cases h
    rfl
  · cases h

theorem isCheck_required (field : String) (a? : Option α) : IsCheck (required field a?) := by
  intro e h
  cases a? with
  | some a => cases h
  | none =>
    cases h
    rfl

theorem isCheck_checkAllowed (field : String) (allowed values : List String) :
    IsCheck (checkAllowed field allowed values) := by
  induction values with
  | nil => exact isCheck_ok ()
  | cons value values ih =>
    rw [checkAllowed]
    split
    · exact ih
    · intro e h
      cases h
      rfl

end Settings

namespace StatementFormat
open Text
variable {s : String} {format : StatementFormat}

/-- A text is read as a format if the format's name is left once it is trimmed, in small letters. -/
theorem read_eq_ok : StatementFormat.read s = .ok format ↔ keyword s = format.name := by
  rw [StatementFormat.read, ofName?]
  by_cases hcsv : keyword s = "csv"
  · cases format <;> simp [hcsv, name]
  · by_cases hjson : keyword s = "json"
    · cases format <;> simp [hjson, name]
    · cases format <;> simp [hcsv, hjson, name]

theorem isAllowed_iff_read : Settings.isAllowed names s = true ↔ ∃ format, StatementFormat.read s = .ok format := by
  have hlower : names.map (fun a => String.ofList (lower a.toList)) = names := by decide
  have hname : keyword s ∈ names ↔ ∃ format : StatementFormat, keyword s = format.name := by
    constructor
    · intro h
      simp only [names, List.mem_cons, List.not_mem_nil, or_false] at h
      rcases h with h | h
      · exact ⟨.csv, h⟩
      · exact ⟨.json, h⟩
    · rintro ⟨format, h⟩
      rw [h]
      cases format <;> decide
  rw [Settings.isAllowed, hlower, List.contains_iff_mem, hname]
  simp only [read_eq_ok]

theorem read_of_not_allowed (h : Settings.isAllowed names s = false) :
    StatementFormat.read s = .error (.invalidSetting "statement.formats" (keyword s) (.unknownFormat names)) := by
  cases hr : ofName? (keyword s) with
  | none => rw [StatementFormat.read, hr]
  | some format =>
    have hread : StatementFormat.read s = .ok format := by rw [StatementFormat.read, hr]
    rw [isAllowed_iff_read.mpr ⟨format, hread⟩] at h
    cases h

/-- The check and the reader pass the same lists, and blame the same entry of any other. -/
theorem checkAllowed_cases (field : String) (texts : List String) :
    (Settings.checkAllowed field names texts = .ok () ∧
      ∀ t ∈ texts, ∃ format, StatementFormat.read t = .ok format) ∨
    ∃ before value after, texts = before ++ value :: after ∧
      (∀ t ∈ before, ∃ format, StatementFormat.read t = .ok format) ∧
      Settings.isAllowed names value = false ∧
      Settings.checkAllowed field names texts = .error (.invalidSetting field value (.notAllowed names)) ∧
      texts.mapM StatementFormat.read =
        .error (.invalidSetting "statement.formats" (keyword value) (.unknownFormat names)) := by
  induction texts with
  | nil => exact Or.inl ⟨rfl, by simp⟩
  | cons text texts ih =>
    rw [Settings.checkAllowed, List.mapM_cons]
    cases hallowed : Settings.isAllowed names text with
    | false =>
      refine Or.inr ⟨[], text, texts, rfl, by simp, hallowed, rfl, ?_⟩
      rw [read_of_not_allowed hallowed]
      rfl
    | true =>
      obtain ⟨format, hread⟩ := isAllowed_iff_read.mp hallowed
      rcases ih with ⟨hcheck, hall⟩ | ⟨before, value, after, rfl, hbefore, hvalue, hcheck, hmap⟩
      · exact Or.inl ⟨hcheck, List.forall_mem_cons.mpr ⟨⟨format, hread⟩, hall⟩⟩
      · refine Or.inr ⟨text :: before, value, after, rfl, List.forall_mem_cons.mpr ⟨⟨format, hread⟩, hbefore⟩,
          hvalue, hcheck, ?_⟩
        rw [hread, hmap]
        rfl

theorem checkAllowed_eq_ok {field : String} {texts : List String} :
    Settings.checkAllowed field names texts = .ok () ↔ ∀ t ∈ texts, ∃ format, StatementFormat.read t = .ok format := by
  obtain ⟨hcheck, hall⟩ | ⟨before, value, after, rfl, -, hvalue, hcheck, -⟩ := checkAllowed_cases field texts
  · exact iff_of_true hcheck hall
  · refine iff_of_false (by simp [hcheck]) fun hall => ?_
    rw [isAllowed_iff_read.mpr (hall value (by simp))] at hvalue
    cases hvalue

end StatementFormat

namespace SessionFile
variable {f : SessionFile}

theorem isCheck_load (env : Environment) (text : String) : Settings.IsCheck (load env text) := by
  intro e h
  rw [load] at h
  cases hr : read (Placeholder.substitute env text) with
  | ok f =>
    rw [hr] at h
    cases h
  | error fault =>
    rw [hr] at h
    cases h
    rfl

theorem isCheck_checkStatement (s : Option StatementSection) : Settings.IsCheck (checkStatement s) := by
  cases s with
  | none => exact Settings.isCheck_ok ()
  | some s =>
    exact (Settings.isCheck_checkPath _ _).bind fun _ => Settings.isCheck_checkAllowed _ _ _

theorem isCheck_validate (f : SessionFile) : Settings.IsCheck f.validate := by
  refine (Settings.isCheck_checkFilled _ _).bind fun _ => ?_
  refine (Settings.isCheck_checkFilled _ _).bind fun _ => ?_
  exact (isCheck_checkStatement _).bind fun _ => Settings.isCheck_ok _

theorem exists_statementSettings {s : Option StatementSection} (h : checkStatement s = .ok ()) :
    ∃ settings, statementSettings s = .ok settings := by
  cases s with
  | none => exact ⟨none, rfl⟩
  | some s =>
    rw [checkStatement, bind_eq_ok_iff] at h
    obtain ⟨_, -, h⟩ := h
    obtain ⟨formats, hf⟩ := exists_mapM_ok (StatementFormat.checkAllowed_eq_ok.mp h)
    exact ⟨some ⟨s.outputPath, formats⟩, by simp [statementSettings, hf, bind, Except.bind, pure, Except.pure]⟩

/-- A file that passes the checks has a plan. -/
theorem exists_plan {warnings : List Event} (h : f.validate = .ok warnings) : ∃ p, f.plan = .ok p := by
  rw [validate, bind_eq_ok_iff] at h
  obtain ⟨_, -, h⟩ := h
  rw [bind_eq_ok_iff] at h
  obtain ⟨_, -, h⟩ := h
  rw [bind_eq_ok_iff] at h
  obtain ⟨_, hs, -⟩ := h
  obtain ⟨settings, hsettings⟩ := exists_statementSettings hs
  exact ⟨_, by rw [plan, hsettings]; rfl⟩

end SessionFile

namespace Options
variable {o : Options}

theorem isCheck_checkStatement (dir : Option String) : Settings.IsCheck (checkStatement dir) := by
  cases dir with
  | none => exact Settings.isCheck_ok ()
  | some dir => exact Settings.isCheck_checkPath _ dir

theorem isCheck_validate (hc : o.config = none) : Settings.IsCheck o.validate := by
  simp only [validate, hc]
  refine (Settings.isCheck_required _ _).bind fun owner => ?_
  refine (Settings.isCheck_checkFilled _ owner).bind fun _ => ?_
  refine (Settings.isCheck_required _ _).bind fun number => ?_
  refine (Settings.isCheck_checkFilled _ number).bind fun _ => ?_
  exact (isCheck_checkStatement _).bind fun _ => Settings.isCheck_ok _

/-- Options that pass the checks have a plan, unless they leave the session to a file. -/
theorem exists_plan {warnings : List Event} (hc : o.config = none) (h : o.validate = .ok warnings) :
    ∃ p, o.plan = .ok p := by
  simp only [validate, hc] at h
  rw [bind_eq_ok_iff] at h
  obtain ⟨owner, ho, h⟩ := h
  rw [bind_eq_ok_iff] at h
  obtain ⟨_, -, h⟩ := h
  rw [bind_eq_ok_iff] at h
  obtain ⟨number, hn, -⟩ := h
  exact ⟨_, by rw [plan, ho, hn]; rfl⟩

end Options

end Passbook
