import Mathlib.Tactic.SplitIfs
import Passbook.FileTree

/-! # What writing does to a file tree

Directories are made only where nothing was, and a file takes the place of nothing or of another
file. So nothing that a path leads to is lost: the path leads to the same place afterwards, and
only the places that are written to have a new content. Everything else about storing follows from
how a walk through the tree is put together from its parts.
-/
namespace Passbook.FileTree
variable {t t' t'' : FileTree} {place q : Place} {ns : List String} {path : String} {content : ByteArray}

theorem findEntry_putEntry (place q : Place) (entry : Entry) (entries : List (Place × Entry)) :
    findEntry q (putEntry place entry entries) = if q = place then some entry else findEntry q entries := by
  induction entries with
  | nil => simp [putEntry, findEntry, eq_comm]
  | cons e rest ih =>
    by_cases he : e.1 = place
    · by_cases hq : q = place
      · simp [putEntry, findEntry, he, hq]
      · have hn : ¬ place = q := fun h => hq h.symm
        simp [putEntry, findEntry, he, hq, hn]
    · by_cases hq : e.1 = q
      · have hn : ¬ q = place := fun h => he (hq.trans h)
        simp [putEntry, findEntry, hq, hn]
      · simp [putEntry, findEntry, he, hq, ih]

theorem lookup_insert (hp : place ≠ []) (q : Place) (entry : Entry) :
    (t.insert place entry).lookup q = if q = place then some entry else t.lookup q := by
  by_cases hq : q = []
  · simp [lookup, hq, hp.symm]
  · simp [lookup, insert, hq, findEntry_putEntry]

/-- The content of the file at a place. -/
def file? (t : FileTree) (place : Place) : Option ByteArray :=
  match t.lookup place with
  | some (.file content) => some content
  | _ => none

/-- The second tree has files at the given places, which were no directories; everywhere else it is
like the first one, apart from directories where nothing was. -/
structure Written (places : List Place) (t t' : FileTree) : Prop where
  workingPlace : t'.workingPlace = t.workingPlace
  files : ∀ place ∈ places, t.lookup place ≠ some .directory ∧ ∃ content, t'.lookup place = some (.file content)
  elsewhere : ∀ place, place ∉ places →
    t'.lookup place = t.lookup place ∨ (t.lookup place = none ∧ t'.lookup place = some .directory)

theorem Written.refl (t : FileTree) : Written [] t t :=
  ⟨rfl, by simp, fun _ _ => Or.inl rfl⟩

theorem Written.trans {places places' : List Place} (h : Written places t t') (h' : Written places' t' t'') :
    Written (places ++ places') t t'' := by
  refine ⟨h'.workingPlace.trans h.workingPlace, ?_, ?_⟩
  · intro place hp
    by_cases h1 : place ∈ places
    · obtain ⟨hn, c, hc⟩ := h.files place h1
      refine ⟨hn, ?_⟩
      by_cases h2 : place ∈ places'
      · exact (h'.files place h2).2
      · rcases h'.elsewhere place h2 with he | ⟨he, -⟩
        · exact ⟨c, he.trans hc⟩
        · rw [hc] at he
          cases he
    · have h2 : place ∈ places' := (List.mem_append.mp hp).resolve_left h1
      refine ⟨fun hd => ?_, (h'.files place h2).2⟩
      rcases h.elsewhere place h1 with he | ⟨he, -⟩
      · exact (h'.files place h2).1 (he.trans hd)
      · rw [hd] at he
        cases he
  · intro place hp
    rw [List.mem_append, not_or] at hp
    rcases h.elsewhere place hp.1 with he | ⟨hn, hd⟩
    · rw [← he]
      exact h'.elsewhere place hp.2
    · rcases h'.elsewhere place hp.2 with he' | ⟨hn', -⟩
      · exact Or.inr ⟨hn, he'.trans hd⟩
      · rw [hd] at hn'
        cases hn'

theorem written_insert_directory (hp : place ≠ []) (h : t.lookup place = none) :
    Written [] t (t.insert place .directory) := by
  refine ⟨rfl, by simp, fun q _ => ?_⟩
  rw [lookup_insert hp]
  by_cases hq : q = place
  · rw [if_pos hq, hq]
    exact Or.inr ⟨h, rfl⟩
  · exact Or.inl (if_neg hq)

theorem written_insert_file (hp : place ≠ []) (h : t.lookup place ≠ some .directory) (content : ByteArray) :
    Written [place] t (t.insert place (.file content)) := by
  refine ⟨rfl, ?_, ?_⟩
  · intro q hq
    obtain rfl := List.mem_singleton.mp hq
    exact ⟨h, content, by rw [lookup_insert hp, if_pos rfl]⟩
  · intro q hq
    rw [List.mem_singleton] at hq
    exact Or.inl (by rw [lookup_insert hp, if_neg hq])

section Kept
variable {places : List Place} (h : Written places t t')
include h

theorem Written.lookup_directory (hd : t.lookup place = some .directory) : t'.lookup place = some .directory := by
  have hp : place ∉ places := fun hp => (h.files place hp).1 hd
  rcases h.elsewhere place hp with he | ⟨he, -⟩
  · exact he.trans hd
  · rw [hd] at he
    cases he

theorem Written.lookup_ne_none (hn : t.lookup place ≠ none) : t'.lookup place ≠ none := by
  by_cases hp : place ∈ places
  · obtain ⟨-, c, hc⟩ := h.files place hp
    rw [hc]
    exact Option.some_ne_none _
  · rcases h.elsewhere place hp with he | ⟨he, -⟩
    · rwa [he]
    · exact absurd he hn

theorem Written.file?_eq (hp : place ∉ places) : t'.file? place = t.file? place := by
  rcases h.elsewhere place hp with he | ⟨hn, hd⟩
  · rw [file?, file?, he]
  · rw [file?, file?, hn, hd]

theorem Written.lookup_file (hp : place ∉ places) (hf : t.lookup place = some (.file content)) :
    t'.lookup place = some (.file content) := by
  rcases h.elsewhere place hp with he | ⟨he, -⟩
  · exact he.trans hf
  · rw [hf] at he
    cases he

end Kept

/-- The place that a single name leads to. -/
def enter (t : FileTree) (place : Place) (name : String) : Except FileFault Place := t.walk place [name]

theorem walk_cons (t : FileTree) (place : Place) (name : String) (rest : List String) :
    t.walk place (name :: rest) = (t.enter place name).bind fun q => t.walk q rest := by
  rw [enter, walk, walk]
  cases t.lookup place with
  | none => rfl
  | some entry =>
    cases entry with
    | file content => rfl
    | directory =>
      dsimp only
      split_ifs
      · rfl
      · rfl
      · rfl
      · cases t.lookup (place ++ [name]) <;> rfl

/-- A dot leads nowhere else, two of them lead back, any other name to what has that name. -/
theorem enter_eq_ok {name : String} : t.enter place name = .ok q ↔
    t.lookup place = some .directory ∧
    ((name = "." ∧ q = place) ∨ (name = ".." ∧ q = place.dropLast) ∨
      (name ≠ "." ∧ name ≠ ".." ∧ name.utf8ByteSize ≤ maxName ∧ q = place ++ [name] ∧ t.lookup q ≠ none)) := by
  rw [enter, walk]
  cases t.lookup place with
  | none => simp
  | some entry =>
    cases entry with
    | file content => simp
    | directory =>
      dsimp only
      split_ifs with h1 h2 h3
      · simp [h1, walk, eq_comm]
      · simp [h2, walk, eq_comm]
      · have hs : ¬ name.utf8ByteSize ≤ maxName := by omega
        simp [h1, h2, hs]
      · have hs : name.utf8ByteSize ≤ maxName := by omega
        cases hl : t.lookup (place ++ [name]) with
        | none =>
          refine ⟨fun h => (by cases h), ?_⟩
          rintro ⟨-, h | h | ⟨-, -, -, rfl, h⟩⟩
          · exact absurd h.1 h1
          · exact absurd h.1 h2
          · exact absurd hl h
        | some e =>
          have hne : t.lookup (place ++ [name]) ≠ none := by simp [hl]
          simp only [walk, h1, h2, hs, Except.ok.injEq, true_and, false_and, false_or, ne_eq, not_false_eq_true]
          constructor
          · rintro rfl
            exact ⟨rfl, hne⟩
          · rintro ⟨rfl, -⟩
            rfl

theorem walk_cons_eq_ok {name : String} {rest : List String} :
    t.walk place (name :: rest) = .ok q ↔ ∃ m, t.enter place name = .ok m ∧ t.walk m rest = .ok q := by
  rw [walk_cons]
  cases t.enter place name <;> simp [Except.bind]

theorem walk_append_eq_ok {ms : List String} :
    t.walk place (ns ++ ms) = .ok q ↔ ∃ m, t.walk place ns = .ok m ∧ t.walk m ms = .ok q := by
  induction ns generalizing place with
  | nil => simp [walk]
  | cons name ns ih =>
    simp only [List.cons_append, walk_cons_eq_ok, ih]
    constructor
    · rintro ⟨a, ha, b, hb, hq⟩
      exact ⟨b, ⟨a, ha, hb⟩, hq⟩
    · rintro ⟨b, ⟨a, ha, hb⟩, hq⟩
      exact ⟨a, ha, b, hb, hq⟩

/-- What a path leads to is never lost by writing. -/
theorem Written.walk {places : List Place} (h : Written places t t') (hw : t.walk place ns = .ok q) :
    t'.walk place ns = .ok q := by
  induction ns generalizing place with
  | nil => exact hw
  | cons name ns ih =>
    rw [walk_cons_eq_ok] at hw ⊢
    obtain ⟨m, hm, hw⟩ := hw
    refine ⟨m, ?_, ih hw⟩
    rw [enter_eq_ok] at hm ⊢
    obtain ⟨hd, hm⟩ := hm
    refine ⟨h.lookup_directory hd, ?_⟩
    rcases hm with hm | hm | ⟨h1, h2, hs, hq, hn⟩
    · exact Or.inl hm
    · exact Or.inr (Or.inl hm)
    · exact Or.inr (Or.inr ⟨h1, h2, hs, hq, h.lookup_ne_none hn⟩)

theorem walkToDirectory_eq_ok : t.walkToDirectory place ns = .ok q ↔
    t.walk place ns = .ok q ∧ t.lookup q = some .directory := by
  constructor
  · intro h
    rw [walkToDirectory] at h
    cases hw : t.walk place ns with
    | error e => simp [hw] at h
    | ok d =>
      cases hd : t.lookup d with
      | none => simp [hw, hd] at h
      | some entry =>
        cases entry with
        | file content => simp [hw, hd] at h
        | directory =>
          simp only [hw, hd, Except.ok.injEq] at h
          exact ⟨congrArg _ h, h ▸ hd⟩
  · rintro ⟨hw, hd⟩
    simp only [walkToDirectory, hw, hd]

/-- The place that a path leads to. -/
def locate (t : FileTree) (path : String) : Except FileFault Place :=
  t.walk (t.start (isAbsolute path)) (names path)

theorem Written.locate {places : List Place} (h : Written places t t') (hl : t.locate path = .ok place) :
    t'.locate path = .ok place := by
  have hs : t'.start (isAbsolute path) = t.start (isAbsolute path) := by rw [start, start, h.workingPlace]
  rw [FileTree.locate, hs]
  exact h.walk hl

/-- A path ends at a place of the same name. -/
theorem getLast?_of_locate {last : String} (hl : t.locate path = .ok place) (hn : (names path).getLast? = some last)
    (h1 : last ≠ ".") (h2 : last ≠ "..") : place.getLast? = some last := by
  obtain ⟨init, hi⟩ := List.getLast?_eq_some_iff.mp hn
  rw [locate, hi, walk_append_eq_ok] at hl
  obtain ⟨d, -, hd⟩ := hl
  obtain ⟨-, hd | hd | ⟨-, -, -, rfl, -⟩⟩ := enter_eq_ok.mp hd
  · exact absurd hd.1 h1
  · exact absurd hd.1 h2
  · exact List.getLast?_concat

theorem contentAt_eq_ok {directoryOnly : Bool} : t.contentAt place directoryOnly = .ok content ↔
    t.lookup place = some (.file content) ∧ directoryOnly = false := by
  rw [contentAt]
  cases t.lookup place with
  | none => simp
  | some entry =>
    cases entry with
    | directory => simp
    | file c => cases directoryOnly <;> simp

theorem read_eq_ok : t.read path = .ok content ↔ checkPath path = .ok () ∧ endsInSlash path = false ∧
    ∃ place, t.locate path = .ok place ∧ t.lookup place = some (.file content) := by
  rw [read, locate]
  cases checkPath path with
  | error e => simp
  | ok _ =>
    cases t.walk (t.start (isAbsolute path)) (names path) with
    | error e => simp
    | ok place => simp [contentAt_eq_ok, and_comm]

theorem makeDirectory_eq_ok {absolute : Bool} {made : FileTree} (h : t.makeDirectory absolute ns = .ok made) :
    ∃ d last, t.lookup d = some .directory ∧ last.utf8ByteSize ≤ maxName ∧ t.lookup (d ++ [last]) = none ∧
      made = t.insert (d ++ [last]) .directory := by
  rw [makeDirectory] at h
  split at h
  · cases h
  split at h
  · cases h
  rename_i last _
  split at h
  · cases h
  rename_i d hd
  split_ifs at h with _ hsize
  split at h
  · cases h
  rename_i hl
  cases h
  exact ⟨d, last, (walkToDirectory_eq_ok.mp hd).2, by omega, hl, rfl⟩

theorem written_makeDirectory {absolute : Bool} {made : FileTree}
    (h : t.makeDirectory absolute ns = .ok made) : Written [] t made := by
  obtain ⟨d, last, -, -, hl, rfl⟩ := makeDirectory_eq_ok h
  exact written_insert_directory (by simp) hl

theorem orExisting_fst (t : FileTree) (absolute : Bool) (ns : List String) (e : FileFault) :
    (t.orExisting absolute ns e).1 = t := by
  rw [orExisting]
  split <;> rfl

/-- What a new directory leaves true, making all the missing ones leaves true as well. -/
theorem makeAll_keeps {P : FileTree → Prop} {absolute : Bool}
    (step : ∀ {t made : FileTree} {ns : List String}, P t → t.makeDirectory absolute ns = .ok made → P made)
    (h : P t) (ns : List String) : P (t.makeAll absolute ns).1 := by
  fun_induction makeAll t absolute ns with
  | case1 => exact h
  | case2 last before ns made hm => exact step h hm
  | case3 last before ns hm t' e hr ih =>
    rw [hr] at ih
    exact ih
  | case4 last before ns hm t' hr made hm' ih =>
    rw [hr] at ih
    exact step ih hm'
  | case5 last before ns hm t' hr e hm' ih =>
    rw [hr] at ih
    rw [orExisting_fst]
    exact ih
  | case6 last before ns e hne hm =>
    rw [orExisting_fst]
    exact h

theorem written_makeAll (t : FileTree) (absolute : Bool) (ns : List String) :
    Written [] t (t.makeAll absolute ns).1 :=
  makeAll_keeps (fun h hm => h.trans (written_makeDirectory hm)) (.refl t) ns

theorem write_eq_ok (h : t.write path content = .ok t') : checkPath path = .ok () ∧ endsInSlash path = false ∧
    ∃ d last, (names path).getLast? = some last ∧ last ≠ "." ∧ last ≠ ".." ∧ last.utf8ByteSize ≤ maxName ∧
      t.walk (t.start (isAbsolute path)) (names path).dropLast = .ok d ∧ t.lookup d = some .directory ∧
      t.lookup (d ++ [last]) ≠ some .directory ∧ t' = t.insert (d ++ [last]) (.file content) := by
  rw [write] at h
  split at h
  · cases h
  rename_i hc
  split at h
  · cases h
  rename_i last hlast
  split at h
  · cases h
  rename_i d hd
  obtain ⟨hw, hdir⟩ := walkToDirectory_eq_ok.mp hd
  split_ifs at h with hdots hsize
  simp only [Bool.or_eq_true, decide_eq_true_eq, not_or, Bool.not_eq_true] at hdots
  split at h
  · cases h
  rename_i hn
  cases h
  exact ⟨hc, hdots.1.1, d, last, hlast, hdots.1.2, hdots.2, by omega, hw, hdir, hn, rfl⟩

/-- A file that was written is found where its path leads, and nothing else is changed. -/
theorem written_write (h : t.write path content = .ok t') :
    ∃ place, Written [place] t t' ∧ t'.locate path = .ok place ∧ t'.read path = .ok content := by
  obtain ⟨hc, hslash, d, last, hlast, h1, h2, hsize, hw, hdir, hn, rfl⟩ := write_eq_ok h
  have hne : d ++ [last] ≠ [] := by simp
  have hwritten := written_insert_file hne hn content
  have hfile : (t.insert (d ++ [last]) (.file content)).lookup (d ++ [last]) = some (.file content) := by
    rw [lookup_insert hne, if_pos rfl]
  have hlocate : (t.insert (d ++ [last]) (.file content)).locate path = .ok (d ++ [last]) := by
    obtain ⟨init, hi⟩ := List.getLast?_eq_some_iff.mp hlast
    rw [hi, List.dropLast_concat] at hw
    rw [locate, hi, walk_append_eq_ok]
    refine ⟨d, hwritten.walk hw, enter_eq_ok.mpr ⟨hwritten.lookup_directory hdir, ?_⟩⟩
    exact Or.inr (Or.inr ⟨h1, h2, hsize, rfl, by simp [hfile]⟩)
  exact ⟨_, hwritten, hlocate, read_eq_ok.mpr ⟨hc, hslash, _, hlocate, hfile⟩⟩

/-- Storing a file makes directories first, and fails or writes the file then. -/
theorem storeAt_cases (t : FileTree) (path : String) (content : ByteArray) :
    (∃ t' fault, t.storeAt path content = ⟨t', .error fault, []⟩ ∧ Written [] t t') ∨
    ∃ t' place, t.storeAt path content = ⟨t', .ok path, [wrote content.size path]⟩ ∧ Written [place] t t' ∧
      t'.locate path = .ok place ∧ t'.read path = .ok content := by
  have hm := written_makeAll t (isAbsolute path) ((parentNames path).getD [])
  rw [storeAt]
  generalize t.makeAll (isAbsolute path) ((parentNames path).getD []) = making at hm ⊢
  obtain ⟨made, result⟩ := making
  cases result with
  | error fault => exact Or.inl ⟨made, fault, rfl, hm⟩
  | ok _ =>
    cases hw : made.write path content with
    | error fault => exact Or.inl ⟨made, fault, by simp only [hw], hm⟩
    | ok t' =>
      obtain ⟨place, hplace, hl, hr⟩ := written_write hw
      exact Or.inr ⟨t', place, by simp only [hw], hm.trans hplace, hl, hr⟩

theorem names_append (a b : String) : names (a ++ "/" ++ b) = names a ++ names b := by
  have hs : (a ++ "/" ++ b).toList = a.toList ++ '/' :: b.toList := by simp
  rw [names, hs, List.splitOn_append_cons_self, List.filter_append, List.map_append, names, names]

theorem names_of_no_slash {name : String} (hne : name ≠ "") (hslash : '/' ∉ name.toList) : names name = [name] := by
  have hs : List.splitOn '/' name.toList = [name.toList] := List.splitOn_eq_singleton hslash
  simp [names, hs, hne]

theorem names_joinPath_of_absolute (base : String) {name : String} (h : isAbsolute name = true) :
    names (joinPath base name) = names name := by
  rw [joinPath, if_pos h]

theorem names_joinPath_of_relative (base : String) {name : String} (h : isAbsolute name = false) :
    names (joinPath base name) = names base ++ names name := by
  have hempty : names "" = [] := rfl
  rw [joinPath, h, if_neg Bool.false_ne_true]
  split_ifs with hb
  · rw [Bool.or_eq_true] at hb
    rcases hb with hb | hb
    · rw [String.isEmpty_iff.mp hb, String.empty_append, hempty, List.nil_append]
    · obtain ⟨front, hf⟩ := List.getLast?_eq_some_iff.mp (beq_iff_eq.mp hb)
      have he : base = String.ofList front ++ "/" := by
        rw [← String.toList_inj, hf]
        simp
      have hbase := names_append (String.ofList front) ""
      rw [String.append_empty, hempty, List.append_nil] at hbase
      rw [he, names_append, hbase]
  · exact names_append base name

theorem names_joinPath (base : String) {name : String} (hne : name ≠ "") (hslash : '/' ∉ name.toList) :
    names (joinPath base name) = names base ++ [name] := by
  have ha : isAbsolute name = false := by
    rw [isAbsolute, beq_eq_false_iff_ne]
    exact fun h => hslash (List.mem_of_head? h)
  rw [names_joinPath_of_relative base ha, names_of_no_slash hne hslash]

end Passbook.FileTree
