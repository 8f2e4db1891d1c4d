import Passbook.Proofs.Basic
import Passbook.Proofs.Document.Decode
import Passbook.Proofs.Placeholder
import Passbook.Proofs.Settings
import Passbook.Proofs.Toml.Lines

/-! # Values from the environment in session files

Placeholders give way to values before the text is read, so a value is read as a part of the document.
One put between quotes is the text of its field exactly if nothing in it has a meaning there: no quote,
no backslash and no character that a quoted text must not contain. Any other value either makes the file
unreadable or leaves the field with another text, and it may add fields of its own.
-/
namespace Passbook

open Document Decode

variable {d : Dialect} {entries : List (String × Value)} {x : String}

/-- The entries for the owner are the only ones that settle it. -/
theorem AccountSection.owner_of_ofValue {a : AccountSection} (h : ofValue d (.table entries) = .ok a)
    (hx : ∀ v, ("owner", v) ∈ entries → v = .text x) : a.owner = x := by
  obtain ⟨draft, hdraft, h⟩ := bind_eq_ok_iff.mp h
  obtain ⟨owner, howner, h⟩ := bind_eq_ok_iff.mp h
  obtain ⟨number, -, h⟩ := bind_eq_ok_iff.mp h
  cases h
  refine Layout.required_of_readTable Draft.owner (· = x) hdraft rfl (fun name v hv a b hvisit => ?_) howner
  simp only [layout] at hvisit
  split at hvisit
  · obtain ⟨y, hy, rfl⟩ := map_eq_ok_iff.mp hvisit
    cases hx v hv
    cases hy
    exact .inr ⟨x, rfl, rfl⟩
  · obtain ⟨_, -, rfl⟩ := map_eq_ok_iff.mp hvisit
    exact .inl rfl
  · obtain ⟨_, -, rfl⟩ := map_eq_ok_iff.mp hvisit
    exact .inl rfl
  · cases hvisit
    exact .inl rfl

theorem AccountSection.ofValue_owner_number (v number : String) :
    ofValue d (.table [("owner", .text v), ("number", .text number)]) = .ok ⟨v, number, .zero⟩ := by
  have hsorted : Value.sorted [("owner", .text v), ("number", .text number)] =
      [("number", .text number), ("owner", .text v)] :=
    Value.sorted_eq_of_perm (.swap _ _ _) (by simp) (by simp)
  rw [ofValue, Layout.read, Layout.readTable, hsorted]
  rfl

namespace SessionFile

theorem owner_of_ofValue {f : SessionFile} (h : ofValue d (.table entries) = .ok f)
    (hx : ∀ w, ("account", w) ∈ entries → ∃ es, w = .table es ∧ ∀ v, ("owner", v) ∈ es → v = .text x) :
    f.account.owner = x := by
  obtain ⟨draft, hdraft, h⟩ := bind_eq_ok_iff.mp h
  obtain ⟨account, haccount, h⟩ := bind_eq_ok_iff.mp h
  cases h
  refine Layout.required_of_readTable Draft.account (·.owner = x) hdraft rfl (fun name w hw a b hvisit => ?_) haccount
  simp only [layout] at hvisit
  split at hvisit
  · obtain ⟨account, haccount, rfl⟩ := map_eq_ok_iff.mp hvisit
    obtain ⟨es, rfl, hes⟩ := hx w hw
    exact .inr ⟨account, rfl, AccountSection.owner_of_ofValue haccount hes⟩
  -- the other entries leave the account alone
  all_goals first
    | obtain ⟨_, -, rfl⟩ := map_eq_ok_iff.mp hvisit
      exact .inl rfl
    | cases hvisit
      exact .inl rfl

theorem load_eq_ok_iff {env : Environment} {s : String} {f : SessionFile} :
    load env s = .ok f ↔ ∃ v, Toml.read (Placeholder.substitute env s) = some v ∧ ofValue .toml v = .ok f := by
  rw [load, read]
  cases Toml.read (Placeholder.substitute env s) with
  | none => simp [Except.mapError]
  | some v =>
    cases hv : ofValue .toml v with
    | error mismatch => simp [Except.mapError, hv]
    | ok f' => simp [Except.mapError, hv]

theorem ofValue_account {account : AccountSection} (h : AccountSection.ofValue d (.table entries) = .ok account) :
    ofValue d (.table [("account", .table entries)]) = .ok ⟨account, [], none, none, none⟩ := by
  have hsorted : Value.sorted [("account", .table entries)] = [("account", .table entries)] :=
    Value.sorted_eq_of_perm (.refl _) (by simp) (by simp)
  rw [ofValue, Layout.read, Layout.readTable, hsorted, List.foldlM_cons]
  simp only [layout, h]
  rfl

def lastBreak (broken : Bool) : String := if broken then "\n" else ""

/-- A file that describes an account, with or without a last line break. The owner stands between
quotes, just as it is. -/
def accountDocument (owner number : String) (broken : Bool) : String :=
  "[account]\nowner = \"" ++ owner ++ ("\"\nnumber = \"" ++ number ++ ("\"" ++ lastBreak broken))

theorem lastBreak_cases (broken : Bool) : (lastBreak broken).toList = [] ∨ (lastBreak broken).toList = ['\n'] := by
  cases broken
  · exact .inl rfl
  · exact .inr rfl

theorem toList_between (front owner middle number back : String) :
    (front ++ owner ++ (middle ++ number ++ back)).toList =
      front.toList ++ (owner.toList ++ (middle.toList ++ (number.toList ++ back.toList))) := by
  simp only [String.toList_append, List.append_assoc]

theorem toList_accountDocument (owner number : String) (broken : Bool) :
    (accountDocument owner number broken).toList =
      Toml.document "account" [("owner", owner), ("number", number)] (lastBreak broken).toList := by
  have hfront : "[account]\nowner = \"".toList =
      '[' :: ("account".toList ++ ']' :: '\n' :: ("owner".toList ++ [' ', '=', ' ', '"'])) := by decide
  have hmiddle : "\"\nnumber = \"".toList = '"' :: '\n' :: ("number".toList ++ [' ', '=', ' ', '"']) := by decide
  have hback : ("\"" ++ lastBreak broken).toList = '"' :: (lastBreak broken).toList := by
    rw [String.toList_append]
    rfl
  refine (toList_between _ _ _ _ _).trans ?_
  rw [hfront, hmiddle, hback]
  simp [Toml.document, Toml.fieldLines, Toml.fieldChars]

variable {env : Environment} {v number : String} {broken : Bool}

theorem substitute_accountDocument (hv : env "BANK_OWNER" = some v) (hn : '$' ∉ number.toList) :
    Placeholder.substitute env (accountDocument (Placeholder.spelled "BANK_OWNER") number broken) =
      accountDocument v number broken := by
  have hname : Placeholder.IsName "BANK_OWNER".toList := ⟨by decide, by decide⟩
  have hfront : '$' ∉ "[account]\nowner = \"".toList := by decide
  have hback : '$' ∉ ("\"\nnumber = \"" ++ number ++ ("\"" ++ lastBreak broken)).toList := by
    cases broken <;> simp [lastBreak, hn]
  exact Placeholder.substitute_between hname hfront hback hv

theorem read_eq_some_of_bare (hv : ∀ c ∈ v.toList, Toml.isBare c = true)
    (hn : ∀ c ∈ number.toList, Toml.isBare c = true) :
    Toml.read (accountDocument v number broken) =
      some (.table [("account", .table [("owner", .text v), ("number", .text number)])]) := by
  have hfields : ∀ e ∈ [("owner", v), ("number", number)],
      Toml.IsWord e.1 ∧ ∀ c ∈ e.2.toList, Toml.isBare c = true := by
    have hnames : Toml.IsWord "owner" ∧ Toml.IsWord "number" := by decide
    rw [List.forall_mem_cons, List.forall_mem_singleton]
    exact ⟨⟨hnames.1, hv⟩, ⟨hnames.2, hn⟩⟩
  rw [Toml.read, toList_accountDocument,
    Toml.readChars_document (by decide) hfields (by simp) (lastBreak_cases broken)]
  rfl

/-- If the owner of the file is the text between the quotes, that text is bare. -/
theorem bare_of_owner_eq {w : Value} {f : SessionFile} (hr : Toml.read (accountDocument v number broken) = some w)
    (hf : ofValue .toml w = .ok f) (ho : f.account.owner = v) (hn : ∀ c ∈ number.toList, Toml.isBare c = true) :
    ∀ c ∈ v.toList, Toml.isBare c = true := by
  let tail := "number".toList ++ ' ' :: '=' :: ' ' :: '"' :: (number.toList ++ '"' :: (lastBreak broken).toList)
  have hdoc : (accountDocument v number broken).toList =
      '[' :: ("account".toList ++ ']' :: '\n' :: ("owner".toList ++ ' ' :: '=' :: ' ' :: '"' ::
        (v.toList ++ '"' :: '\n' :: tail))) := by
    rw [toList_accountDocument]
    simp [Toml.document, Toml.fieldLines, Toml.fieldChars, tail]
  -- a text in three quotes would need three of them after the value
  have htail : tail.count '"' ≤ 2 := by
    have hnumber : number.toList.count '"' = 0 :=
      List.count_eq_zero.mpr fun hq => (Toml.isBare_iff.mp (hn _ hq)).2.1 rfl
    have hlast : (lastBreak broken).toList.count '"' = 0 := by
      rcases lastBreak_cases broken with h | h <;> rw [h] <;> decide
    simp [tail, hnumber, hlast]
  rw [Toml.read, hdoc] at hr
  obtain ⟨xs, rest, entries, htext, rfl, hentries⟩ := Toml.readChars_first_field (by decide) (by decide) hr
  have hxs : xs = v.toList := by rw [← ho, owner_of_ofValue hf hentries, String.toList_ofList]
  subst hxs
  exact Toml.bare_of_readText htext htail

/-- A value taken from the environment is the owner of the file exactly if it is bare, and then nothing else
in the file depends on it. -/
theorem owner_is_value_iff_bare (env : Environment) (v number : String) (broken : Bool)
    (hv : env "BANK_OWNER" = some v) (hn : ∀ c ∈ number.toList, Toml.isBare c = true ∧ c ≠ '$') :
    ((∃ f, load env (accountDocument (Placeholder.spelled "BANK_OWNER") number broken) = .ok f ∧ f.account.owner = v) ↔
      ∀ c ∈ v.toList, Toml.isBare c = true) ∧
    ((∀ c ∈ v.toList, Toml.isBare c = true) →
      load env (accountDocument (Placeholder.spelled "BANK_OWNER") number broken) =
        .ok ⟨⟨v, number, .zero⟩, [], none, none, none⟩) := by
  have hbare : ∀ c ∈ number.toList, Toml.isBare c = true := fun c hc => (hn c hc).1
  have hsubstitute : Placeholder.substitute env (accountDocument (Placeholder.spelled "BANK_OWNER") number broken) =
      accountDocument v number broken :=
    substitute_accountDocument hv fun hd => (hn _ hd).2 rfl
  have hload (h : ∀ c ∈ v.toList, Toml.isBare c = true) :
      load env (accountDocument (Placeholder.spelled "BANK_OWNER") number broken) =
        .ok ⟨⟨v, number, .zero⟩, [], none, none, none⟩ := by
    refine load_eq_ok_iff.mpr ⟨_, ?_, ofValue_account (AccountSection.ofValue_owner_number v number)⟩
    rw [hsubstitute, read_eq_some_of_bare h hbare]
  refine ⟨⟨?_, fun h => ⟨_, hload h, rfl⟩⟩, hload⟩
  rintro ⟨f, hf, ho⟩
  obtain ⟨w, hr, hw⟩ := load_eq_ok_iff.mp hf
  rw [hsubstitute] at hr
  exact bare_of_owner_eq hr hw ho hbare

/-- Brackets, a number sign, a tab and another placeholder mean nothing between the quotes. -/
theorem owner_is_value_iff_bare_past_brackets :
    let v := "Ana [x]\t= 'ü' # " ++ Placeholder.spelled "HOME"
    let env : Environment := fun name => if name = "BANK_OWNER" then some v else some "\""
    load env (accountDocument (Placeholder.spelled "BANK_OWNER") "ACC-001" false) =
      .ok ⟨⟨v, "ACC-001", .zero⟩, [], none, none, none⟩ := by
  intro v env
  have hv : v.toList.all Toml.isBare = true := by decide
  have hn : ("ACC-001".toList.all fun c => Toml.isBare c && c != '$') = true := by decide
  refine (owner_is_value_iff_bare env v "ACC-001" false rfl fun c hc => ?_).2 (List.all_eq_true.mp hv)
  simpa using List.all_eq_true.mp hn c hc

/-- A value with a quote and a line break in it ends the text of its field and adds a balance to the
account. -/
theorem owner_ends_at_quote :
    let v := "X\"\ninitial_balance = \"1000000"
    let env : Environment := fun name => if name = "BANK_OWNER" then some v else none
    load env (accountDocument (Placeholder.spelled "BANK_OWNER") "ACC-001" true) =
      .ok ⟨⟨"X", "ACC-001", ⟨1000000, 0, by decide, by decide⟩⟩, [], none, none, none⟩ ∧
    ¬ ∃ f, load env (accountDocument (Placeholder.spelled "BANK_OWNER") "ACC-001" true) = .ok f ∧
      f.account.owner = v := by
  intro v env
  let fields := [("owner", "X"), ("initial_balance", "1000000"), ("number", "ACC-001")]
  have hdoc : Toml.document "account" [("owner", v), ("number", "ACC-001")] (lastBreak true).toList =
      Toml.document "account" fields ['\n'] := by decide
  have hall : fields.all (fun e => decide (Toml.IsWord e.1) && e.2.toList.all Toml.isBare) = true := by decide
  have hfields : ∀ e ∈ fields, Toml.IsWord e.1 ∧ ∀ c ∈ e.2.toList, Toml.isBare c = true := by
    intro e he
    have h := List.all_eq_true.mp hall e he
    rwa [Bool.and_eq_true, decide_eq_true_eq, List.all_eq_true] at h
  have hread : Toml.read (Placeholder.substitute env
      (accountDocument (Placeholder.spelled "BANK_OWNER") "ACC-001" true)) =
      some (.table [("account", .table (fields.map fun e => (e.1, .text e.2)))]) := by
    have hv : env "BANK_OWNER" = some v := rfl
    have hplain : '$' ∉ "ACC-001".toList := by decide
    rw [substitute_accountDocument hv hplain, Toml.read, toList_accountDocument, hdoc]
    exact Toml.readChars_document (by decide) hfields (by decide) (.inr rfl)
  have haccount : AccountSection.ofValue .toml (.table (fields.map fun e => (e.1, .text e.2))) =
      .ok ⟨"X", "ACC-001", ⟨1000000, 0, by decide, by decide⟩⟩ := by
    have hsorted : Value.sorted (fields.map fun e => (e.1, .text e.2)) =
        [("initial_balance", .text "1000000"), ("number", .text "ACC-001"), ("owner", .text "X")] := by
      refine Value.sorted_eq_of_perm ?_ (by simp) (by simp)
      exact (List.Perm.swap _ _ _).trans ((List.Perm.swap _ _ _).cons _)
    rw [AccountSection.ofValue, Layout.read, Layout.readTable, hsorted]
    rfl
  have hload := load_eq_ok_iff.mpr ⟨_, hread, ofValue_account haccount⟩
  refine ⟨hload, ?_⟩
  rintro ⟨f, hf, ho⟩
  cases hload.symm.trans hf
  exact absurd ho (by decide)

end SessionFile

end Passbook
