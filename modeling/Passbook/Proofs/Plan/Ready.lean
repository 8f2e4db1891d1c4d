import Passbook.Proofs.Settings
import Passbook.Proofs.Text.Blank

/-! # Plans made from checked settings

Settings are checked before a plan is made of them, and what the checks let through is all that
the plan needs: a name and a number that are more than blanks, a path that can be opened, and
formats that can be read.
-/
namespace Passbook

open Text

namespace Settings
variable {field value : String}

theorem checkFilled_eq_ok : checkFilled field value = .ok () ↔ trim value.toList ≠ [] := by
  have hblank : isBlankText value = true ↔ trim value.toList = [] := by
    rw [trim_eq_nil_iff, isBlankText, List.all_eq_true, Blank]
  rw [ne_eq, ← hblank, checkFilled]
  split <;> simp [*]

theorem required_eq_ok {α : Type} {a? : Option α} {a : α} : required field a? = .ok a ↔ a? = some a := by
  cases a? <;> simp [required]

theorem checkPath_eq_ok : checkPath field value = .ok () ↔ value ≠ "" ∧ Char.ofNat 0 ∉ value.toList := by
  rw [checkPath]
  by_cases hempty : value = ""
  · simp [hempty]
  · by_cases hnul : Char.ofNat 0 ∈ value.toList <;> simp [hempty, hnul]

end Settings

/-- Nothing stands in the way of a session: the account has a name and a number, and statements
have a place to go if they are wanted. -/
structure Plan.Ready (p : Plan) : Prop where
  owner : trim p.owner.toList ≠ []
  number : trim p.number.toList ≠ []
  outputPath : ∀ s, p.statement = some s → s.outputPath ≠ "" ∧ Char.ofNat 0 ∉ s.outputPath.toList

/-- The settings of a statement, with one format for each text of the file and in the same order. -/
inductive StatementSection.Gives : Option StatementSection → Option StatementSettings → Prop
  | nothing : Gives none none
  | statement {s : StatementSection} {formats : List StatementFormat}
      (named : List.Forall₂ (fun text format => keyword text = format.name) s.formats formats) :
      Gives (some s) (some ⟨s.outputPath, formats⟩)

namespace SessionFile
variable {f : SessionFile} {p : Plan}

theorem gives_statementSettings {s : Option StatementSection} {t : Option StatementSettings}
    (h : statementSettings s = .ok t) : StatementSection.Gives s t := by
  cases s with
  | none =>
    cases h
    exact .nothing
  | some s =>
    rw [statementSettings, bind_eq_ok_iff] at h
    obtain ⟨formats, hformats, h⟩ := h
    cases h
    exact .statement ((mapM_eq_ok_iff.mp hformats).imp fun _ _ => StatementFormat.read_eq_ok.mp)

theorem plan_eq_ok (h : f.plan = .ok p) :
    p.owner = f.account.owner ∧ p.number = f.account.number ∧ StatementSection.Gives f.statement p.statement := by
  rw [plan, bind_eq_ok_iff] at h
  obtain ⟨settings, hsettings, h⟩ := h
  cases h
  exact ⟨rfl, rfl, gives_statementSettings hsettings⟩

theorem validate_eq_ok {warnings : List Event} (h : f.validate = .ok warnings) :
    trim f.account.owner.toList ≠ [] ∧ trim f.account.number.toList ≠ [] ∧
    ∀ s, f.statement = some s → s.outputPath ≠ "" ∧ Char.ofNat 0 ∉ s.outputPath.toList := by
  rw [validate, bind_eq_ok_iff] at h
  obtain ⟨_, howner, h⟩ := h
  rw [bind_eq_ok_iff] at h
  obtain ⟨_, hnumber, h⟩ := h
  rw [bind_eq_ok_iff] at h
  obtain ⟨_, hstatement, -⟩ := h
  refine ⟨Settings.checkFilled_eq_ok.mp howner, Settings.checkFilled_eq_ok.mp hnumber, ?_⟩
  intro s hs
  rw [hs, checkStatement, bind_eq_ok_iff] at hstatement
  obtain ⟨_, hpath, -⟩ := hstatement
  exact Settings.checkPath_eq_ok.mp hpath

theorem ready_of_validate {warnings : List Event} (h : f.validate = .ok warnings) (hp : f.plan = .ok p) :
    p.Ready := by
  obtain ⟨howner, hnumber, hpath⟩ := validate_eq_ok h
  obtain ⟨ho, hn, hg⟩ := plan_eq_ok hp
  refine ⟨by rwa [ho], by rwa [hn], ?_⟩
  intro t ht
  cases hs : f.statement with
  | none =>
    rw [hs, ht] at hg
    cases hg
  | some s =>
    rw [hs, ht] at hg
    cases hg
    exact hpath s hs

end SessionFile

namespace Options
variable {o : Options} {p : Plan}

theorem plan_eq_ok (h : o.plan = .ok p) : o.owner = some p.owner ∧ o.accountNumber = some p.number ∧
    p.statement = o.statementDir.map fun dir => ⟨dir, o.statementFormat⟩ := by
  rw [plan, bind_eq_ok_iff] at h
  obtain ⟨owner, howner, h⟩ := h
  rw [bind_eq_ok_iff] at h
  obtain ⟨number, hnumber, h⟩ := h
  cases h
  exact ⟨Settings.required_eq_ok.mp howner, Settings.required_eq_ok.mp hnumber, rfl⟩

theorem ready_of_validate {warnings : List Event} (hc : o.config = none) (h : o.validate = .ok warnings)
    (hp : o.plan = .ok p) : p.Ready := by
  obtain ⟨ho, hn, hs⟩ := plan_eq_ok hp
  simp only [validate, hc] at h
  rw [bind_eq_ok_iff] at h
  obtain ⟨owner, howner, h⟩ := h
  rw [bind_eq_ok_iff] at h
  obtain ⟨_, hfilled, h⟩ := h
  rw [bind_eq_ok_iff] at h
  obtain ⟨number, hnumber, h⟩ := h
  rw [bind_eq_ok_iff] at h
  obtain ⟨_, hfilled', h⟩ := h
  rw [bind_eq_ok_iff] at h
  obtain ⟨_, hpath, -⟩ := h
  cases ho.symm.trans (Settings.required_eq_ok.mp howner)
  cases hn.symm.trans (Settings.required_eq_ok.mp hnumber)
  refine ⟨Settings.checkFilled_eq_ok.mp hfilled, Settings.checkFilled_eq_ok.mp hfilled', ?_⟩
  intro s hstatement
  rw [hs, Option.map_eq_some_iff] at hstatement
  obtain ⟨dir, hdir, rfl⟩ := hstatement
  rw [hdir] at hpath
  exact Settings.checkPath_eq_ok.mp hpath

end Options

/-- Settings that pass their checks make a plan that is ready, and check and reader of formats agree. -/
theorem Plan.exists_ready_of_validate :
    (∀ (f : SessionFile) (warnings : List Event), f.validate = .ok warnings →
      ∃ p, f.plan = .ok p ∧ p.Ready ∧ p.owner = f.account.owner ∧ p.number = f.account.number ∧
        StatementSection.Gives f.statement p.statement) ∧
    (∀ (o : Options) (warnings : List Event), o.config = none → o.validate = .ok warnings →
      ∃ p, o.plan = .ok p ∧ p.Ready ∧ o.owner = some p.owner ∧ o.accountNumber = some p.number ∧
        p.statement = o.statementDir.map fun dir => ⟨dir, o.statementFormat⟩) ∧
    ∀ (field : String) (texts : List String),
      (Settings.checkAllowed field StatementFormat.names texts = .ok () ↔
        ∀ t ∈ texts, ∃ format, StatementFormat.read t = .ok format) ∧
      (Settings.checkAllowed field StatementFormat.names texts ≠ .ok () →
        ∃ before value after, texts = before ++ value :: after ∧
          (∀ t ∈ before, ∃ format, StatementFormat.read t = .ok format) ∧
          Settings.checkAllowed field StatementFormat.names texts =
            .error (.invalidSetting field value (.notAllowed StatementFormat.names)) ∧
          texts.mapM StatementFormat.read = .error (.invalidSetting "statement.formats"
            (String.ofList (lower (trim value.toList))) (.unknownFormat StatementFormat.names))) := by
  refine ⟨?_, ?_, fun field texts => ⟨StatementFormat.checkAllowed_eq_ok, ?_⟩⟩
  · intro f warnings h
    obtain ⟨p, hp⟩ := SessionFile.exists_plan h
    exact ⟨p, hp, SessionFile.ready_of_validate h hp, SessionFile.plan_eq_ok hp⟩
  · intro o warnings hc h
    obtain ⟨p, hp⟩ := Options.exists_plan hc h
    exact ⟨p, hp, Options.ready_of_validate hc h hp, Options.plan_eq_ok hp⟩
  · intro hne
    obtain ⟨hcheck, -⟩ | ⟨before, value, after, htexts, hbefore, -, hcheck, hmap⟩ :=
      StatementFormat.checkAllowed_cases field texts
    · exact absurd hcheck hne
    · exact ⟨before, value, after, htexts, hbefore, hcheck, hmap⟩

/-- Formats are spelled with blanks and capitals; of two that are unknown the first is blamed. -/
theorem Plan.exists_ready_of_validate_spelled :
    let f : SessionFile := ⟨⟨" Ada", "1", .zero⟩, [], none, some ⟨"out", ["\tJSON ", "csv"]⟩, none⟩
    let o : Options := { owner := some "Ada", accountNumber := some "1", statementDir := some "out" }
    let texts := ["Csv", " Pdf ", "xml"]
    (∃ p formats, f.plan = .ok p ∧ p.Ready ∧ p.statement = some ⟨"out", formats⟩ ∧
      List.Forall₂ (fun text format => keyword text = format.name) ["\tJSON ", "csv"] formats) ∧
    (∃ p, o.plan = .ok p ∧ p.Ready ∧ p.statement = some ⟨"out", [.csv]⟩) ∧
    Settings.checkAllowed "formats" StatementFormat.names texts =
      .error (.invalidSetting "formats" " Pdf " (.notAllowed StatementFormat.names)) ∧
    texts.mapM StatementFormat.read =
      .error (.invalidSetting "statement.formats" "pdf" (.unknownFormat StatementFormat.names)) := by
  intro f o texts
  have hf : f.validate = .ok [] := by
    dsimp only [f]
    rfl
  have ho : o.validate = .ok [] := rfl
  have hcheck : Settings.checkAllowed "formats" StatementFormat.names texts =
      .error (.invalidSetting "formats" " Pdf " (.notAllowed StatementFormat.names)) := rfl
  obtain ⟨hfile, hoptions, hformats⟩ := exists_ready_of_validate
  obtain ⟨p, hp, hready, -, -, hgives⟩ := hfile f [] hf
  obtain ⟨q, hq, hready', -, -, hstatement⟩ := hoptions o [] rfl ho
  obtain ⟨_, value, _, -, -, hblamed, hread⟩ := (hformats "formats" texts).2 (by simp [hcheck])
  cases hcheck.symm.trans hblamed
  refine ⟨?_, ⟨q, hq, hready', hstatement⟩, hcheck, hread⟩
  generalize hs : p.statement = statement at hgives
  cases hgives with
  | statement named => exact ⟨p, _, hp, hready, hs, named⟩

end Passbook
