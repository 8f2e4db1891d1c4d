import Mathlib.Data.List.Basic
import Mathlib.Data.List.Induction
import Passbook.Proofs.Basic
import Passbook.Proofs.FileTree

/-! # Storage is a map from places to contents

A path that never goes back names the same place in every tree, and in a tree whose entries all lie
in directories it is enough to look at that place to know what reading the path gives. A sequence
of requests is then described by its successful writes alone: each place holds what was last
written there, or what it held at the start.
-/
namespace Passbook

namespace FileTree
variable {t t' : FileTree} {place q d : Place} {ns : List String} {path : String} {content : ByteArray}

/-- Every entry has a name that fits and lies in a directory, and so do relative paths. -/
structure Sound (t : FileTree) : Prop where
  workingPlace : t.lookup t.workingPlace = some .directory
  parent : ∀ place name, t.lookup (place ++ [name]) ≠ none →
    t.lookup place = some .directory ∧ name.utf8ByteSize ≤ maxName

/-- A path that never goes back to the directory above. -/
def Forward (path : String) : Prop := ".." ∉ names path

/-- The place that a forward path names, whatever is there. -/
def placeOf (t : FileTree) (path : String) : Place :=
  t.start (isAbsolute path) ++ (names path).filter (· ≠ ".")

/-- A path in a form that only a directory may have is no name of a file. -/
structure NamesFile (path : String) : Prop where
  taken : checkPath path = .ok ()
  noSlash : endsInSlash path = false
  noDot : (names path).getLast? ≠ some "."

theorem ne_none_of_lookup {entry : Entry} (h : t.lookup place = some entry) : t.lookup place ≠ none := by
  simp [h]

theorem file?_eq_some : t.file? place = some content ↔ t.lookup place = some (.file content) := by
  rw [file?]
  cases t.lookup place with
  | none => simp
  | some entry => cases entry <;> simp

theorem Sound.lookup_start (h : t.Sound) (absolute : Bool) : t.lookup (t.start absolute) = some .directory := by
  cases absolute with
  | true => rfl
  | false => exact h.workingPlace

theorem Sound.lookup_above (h : t.Sound) (hq : t.lookup (place ++ q) ≠ none) (hne : q ≠ []) :
    t.lookup place = some .directory := by
  induction q using List.reverseRecOn with
  | nil => exact absurd rfl hne
  | append_singleton q name ih =>
    rw [← List.append_assoc] at hq
    have hd := (h.parent _ _ hq).1
    by_cases hq' : q = []
    · rwa [hq', List.append_nil] at hd
    · exact ih (ne_none_of_lookup hd) hq'

theorem walk_eq_of_forward (hns : ".." ∉ ns) (h : t.walk place ns = .ok q) :
    q = place ++ ns.filter (· ≠ ".") := by
  induction ns generalizing place with
  | nil =>
    rw [walk, Except.ok.injEq] at h
    rw [← h, List.filter_nil, List.append_nil]
  | cons name ns ih =>
    rw [List.mem_cons, not_or] at hns
    obtain ⟨m, hm, hw⟩ := walk_cons_eq_ok.mp h
    have hq := ih hns.2 hw
    obtain ⟨-, ⟨rfl, rfl⟩ | ⟨rfl, -⟩ | ⟨h1, -, -, rfl, -⟩⟩ := enter_eq_ok.mp hm
    · exact hq
    · exact absurd rfl hns.1
    · rw [hq, List.filter_cons_of_pos (by simp [h1]), List.append_assoc]
      rfl

theorem Sound.walk (h : t.Sound) (hns : ".." ∉ ns) (hp : t.lookup place = some .directory)
    (hd : t.lookup (place ++ ns.filter (· ≠ ".")) = some .directory) :
    t.walk place ns = .ok (place ++ ns.filter (· ≠ ".")) := by
  induction ns generalizing place with
  | nil => rw [List.filter_nil, List.append_nil, FileTree.walk]
  | cons name ns ih =>
    rw [List.mem_cons, not_or] at hns
    rw [walk_cons_eq_ok]
    by_cases h1 : name = "."
    · subst h1
      exact ⟨place, enter_eq_ok.mpr ⟨hp, Or.inl ⟨rfl, rfl⟩⟩, ih hns.2 hp hd⟩
    · rw [List.filter_cons_of_pos (by simp [h1]), ← List.singleton_append, ← List.append_assoc] at hd ⊢
      have hdir : t.lookup (place ++ [name]) = some .directory := by
        by_cases he : ns.filter (· ≠ ".") = []
        · rwa [he, List.append_nil] at hd
        · exact h.lookup_above (ne_none_of_lookup hd) he
      have hsize := (h.parent place name (ne_none_of_lookup hdir)).2
      have hm : t.enter place name = .ok (place ++ [name]) :=
        enter_eq_ok.mpr ⟨hp, Or.inr (Or.inr ⟨h1, fun h2 => hns.1 h2.symm, hsize, rfl, ne_none_of_lookup hdir⟩)⟩
      exact ⟨_, hm, ih hns.2 hdir hd⟩

theorem placeOf_eq_of_locate (hf : Forward path) (h : t.locate path = .ok place) : t.placeOf path = place :=
  (walk_eq_of_forward hf h).symm

/-- Reading a forward path is looking at the place that it names. -/
theorem Sound.read_eq_ok (h : t.Sound) (hf : Forward path) :
    t.read path = .ok content ↔ NamesFile path ∧ t.file? (t.placeOf path) = some content := by
  rw [FileTree.read_eq_ok, file?_eq_some]
  constructor
  · rintro ⟨hc, hs, place, hl, hfile⟩
    rw [placeOf_eq_of_locate hf hl]
    refine ⟨⟨hc, hs, fun hdot => ?_⟩, hfile⟩
    -- a dot at the end leads to a directory
    obtain ⟨init, hi⟩ := List.getLast?_eq_some_iff.mp hdot
    rw [locate, hi, walk_append_eq_ok] at hl
    obtain ⟨d, -, hd⟩ := hl
    obtain ⟨hdir, ⟨-, rfl⟩ | ⟨hn, -⟩ | ⟨hn, -⟩⟩ := enter_eq_ok.mp hd
    · rw [hdir] at hfile
      cases hfile
    · exact absurd hn (by decide)
    · exact absurd rfl hn
  · rintro ⟨⟨hc, hs, hdot⟩, hfile⟩
    refine ⟨hc, hs, _, ?_, hfile⟩
    rcases List.eq_nil_or_concat (names path) with hn | ⟨init, last, hi⟩
    · have hstart := h.lookup_start (isAbsolute path)
      rw [placeOf, hn, List.filter_nil, List.append_nil, hstart] at hfile
      cases hfile
    · rw [List.concat_eq_append] at hi
      rw [hi, List.getLast?_concat, ne_eq, Option.some.injEq] at hdot
      have hf' : ".." ∉ init ∧ last ≠ ".." := by
        rw [Forward, hi, List.mem_append, List.mem_singleton, not_or] at hf
        exact ⟨hf.1, fun h2 => hf.2 h2.symm⟩
      have hplace : t.placeOf path = t.start (isAbsolute path) ++ init.filter (· ≠ ".") ++ [last] := by
        rw [placeOf, hi, List.filter_append, List.filter_cons_of_pos (by simp [hdot]), List.filter_nil,
          List.append_assoc]
      rw [hplace] at hfile ⊢
      obtain ⟨hdir, hsize⟩ := h.parent _ last (ne_none_of_lookup hfile)
      rw [locate, hi, walk_append_eq_ok]
      refine ⟨_, h.walk hf'.1 (h.lookup_start _) hdir, enter_eq_ok.mpr ⟨hdir, ?_⟩⟩
      exact Or.inr (Or.inr ⟨hdot, hf'.2, hsize, rfl, ne_none_of_lookup hfile⟩)

theorem Sound.insert (h : t.Sound) {last : String} (hd : t.lookup d = some .directory)
    (hsize : last.utf8ByteSize ≤ maxName) (hn : t.lookup (d ++ [last]) ≠ some .directory) (entry : Entry) :
    (t.insert (d ++ [last]) entry).Sound := by
  have hne : d ++ [last] ≠ [] := by simp
  -- no directory is replaced, so all of them are still there
  have hkept (q : Place) (hq : t.lookup q = some .directory) :
      (t.insert (d ++ [last]) entry).lookup q = some .directory := by
    rw [lookup_insert hne, if_neg, hq]
    rintro rfl
    exact hn hq
  refine ⟨hkept _ h.workingPlace, fun place name hp => ?_⟩
  rw [lookup_insert hne] at hp
  by_cases he : place ++ [name] = d ++ [last]
  · obtain ⟨rfl, hlast⟩ := List.append_inj' he rfl
    obtain rfl : name = last := List.singleton_inj.mp hlast
    exact ⟨hkept _ hd, hsize⟩
  · rw [if_neg he] at hp
    obtain ⟨hdir, hs⟩ := h.parent place name hp
    exact ⟨hkept _ hdir, hs⟩

theorem Sound.makeDirectory {absolute : Bool} {made : FileTree} (h : t.Sound)
    (hm : t.makeDirectory absolute ns = .ok made) : made.Sound := by
  obtain ⟨d, last, hd, hsize, hn, rfl⟩ := makeDirectory_eq_ok hm
  exact h.insert hd hsize (by simp [hn]) _

theorem Sound.write (h : t.Sound) (hw : t.write path content = .ok t') : t'.Sound := by
  obtain ⟨-, -, d, last, -, -, -, hsize, -, hd, hn, rfl⟩ := write_eq_ok hw
  exact h.insert hd hsize hn _

theorem Sound.storeAt (h : t.Sound) (path : String) (content : ByteArray) : (t.storeAt path content).tree.Sound := by
  have hm : (t.makeAll (isAbsolute path) ((parentNames path).getD [])).1.Sound :=
    makeAll_keeps (fun h hm => h.makeDirectory hm) h _
  rw [FileTree.storeAt]
  generalize t.makeAll (isAbsolute path) ((parentNames path).getD []) = making at hm ⊢
  obtain ⟨made, result⟩ := making
  cases result with
  | error fault => exact hm
  | ok _ =>
    cases hw : made.write path content with
    | error fault => simpa only [hw] using hm
    | ok t' => simpa only [hw] using hm.write hw

end FileTree

open FileTree

inductive Request
  | write (name : String) (content : ByteArray)
  | read (name : String)

namespace Request

def name : Request → String
  | .write name _ => name
  | .read name => name

def serve (base : String) (t : FileTree) : Request → FileTree
  | .write name content => (t.store base name content).tree
  | .read _ => t

/-- What a request writes to a place; a write that fails writes nothing anywhere. -/
def stored? (base : String) (t : FileTree) (place : Place) : Request → Option ByteArray
  | .write name content =>
    if (t.store base name content).result.isOk && t.placeOf (joinPath base name) == place then some content else none
  | .read _ => none

end Request

namespace Storage
variable {base : String} {t : FileTree} {requests : List Request} {place : Place}

def after (base : String) (t : FileTree) (requests : List Request) : FileTree :=
  requests.foldl (Request.serve base) t

def storedAt? (base : String) (t : FileTree) (requests : List Request) (place : Place) (i : Nat) : Option ByteArray :=
  requests[i]?.bind (Request.stored? base (after base t (requests.take i)) place)

/-- The content of the last successful write to a place. -/
def latest? (base : String) (t : FileTree) (requests : List Request) (place : Place) : Option ByteArray :=
  ((List.range requests.length).filterMap (storedAt? base t requests place)).getLast?

theorem forward_joinPath {name : String} (hbase : Forward base) (hname : Forward name) :
    Forward (joinPath base name) := by
  rw [Forward] at hbase hname ⊢
  cases ha : isAbsolute name with
  | true => rwa [names_joinPath_of_absolute base ha]
  | false =>
    rw [names_joinPath_of_relative base ha, List.mem_append, not_or]
    exact ⟨hbase, hname⟩

/-- A write fails and changes no file, or it succeeds and changes the one file that it names. -/
theorem store_cases (t : FileTree) {name : String} (content : ByteArray) (hf : Forward (joinPath base name)) :
    (∃ fault, (t.store base name content).result = .error fault ∧
      ∀ place, (t.store base name content).tree.file? place = t.file? place) ∨
    ((t.store base name content).result = .ok (joinPath base name) ∧
      (t.store base name content).tree.fetch base name = .ok content ∧
      (t.store base name content).tree.file? (t.placeOf (joinPath base name)) = some content ∧
      ∀ place, place ≠ t.placeOf (joinPath base name) →
        (t.store base name content).tree.file? place = t.file? place) := by
  obtain ⟨t', fault, hs, hw⟩ | ⟨t', place, hs, hw, hl, hr⟩ := t.storeAt_cases (joinPath base name) content
  · have hs' : t.store base name content = ⟨t', .error fault, []⟩ := hs
    rw [hs']
    exact Or.inl ⟨fault, rfl, fun place => hw.file?_eq List.not_mem_nil⟩
  · have hs' : t.store base name content = ⟨t', .ok (joinPath base name), _⟩ := hs
    have hplace : t.placeOf (joinPath base name) = place := by
      rw [← placeOf_eq_of_locate hf hl, placeOf, placeOf, start, start, hw.workingPlace]
    obtain ⟨-, -, q, hq, hfile⟩ := FileTree.read_eq_ok.mp hr
    obtain rfl : q = place := Except.ok.inj (hq.symm.trans hl)
    rw [hs', hplace]
    refine Or.inr ⟨rfl, hr, file?_eq_some.mpr hfile, fun place hne => ?_⟩
    exact hw.file?_eq fun hp => hne (List.mem_singleton.mp hp)

theorem file?_serve {r : Request} (hf : Forward (joinPath base r.name)) (t : FileTree) (place : Place) :
    (r.serve base t).file? place = (r.stored? base t place).or (t.file? place) := by
  cases r with
  | read name => rfl
  | write name content =>
    have hf' : Forward (joinPath base name) := hf
    rw [Request.serve, Request.stored?]
    obtain ⟨fault, hr, hsame⟩ | ⟨hr, -, hfile, hsame⟩ := store_cases t content hf'
    · rw [hr, hsame]
      rfl
    · rw [hr]
      by_cases hp : t.placeOf (joinPath base name) = place
      · rw [← hp, hfile]
        simp [Except.isOk, Except.toBool]
      · rw [hsame place (Ne.symm hp)]
        simp [hp]

theorem workingPlace_serve (base : String) (t : FileTree) (r : Request) :
    (r.serve base t).workingPlace = t.workingPlace := by
  cases r with
  | read name => rfl
  | write name content =>
    obtain ⟨t', fault, hs, hw⟩ | ⟨t', place, hs, hw, -, -⟩ := t.storeAt_cases (joinPath base name) content
    · rw [Request.serve, store, hs, hw.workingPlace]
    · rw [Request.serve, store, hs, hw.workingPlace]

theorem sound_serve (ht : t.Sound) (base : String) (r : Request) : (r.serve base t).Sound := by
  cases r with
  | read name => exact ht
  | write name content => exact ht.storeAt (joinPath base name) content

theorem after_concat (base : String) (t : FileTree) (requests : List Request) (r : Request) :
    after base t (requests ++ [r]) = r.serve base (after base t requests) := by
  rw [after, List.foldl_append, after, List.foldl_cons, List.foldl_nil]

theorem sound_after (ht : t.Sound) (base : String) (requests : List Request) : (after base t requests).Sound := by
  induction requests using List.reverseRecOn with
  | nil => exact ht
  | append_singleton requests r ih =>
    rw [after_concat]
    exact sound_serve ih base r

theorem placeOf_after (base : String) (t : FileTree) (requests : List Request) (path : String) :
    (after base t requests).placeOf path = t.placeOf path := by
  have hw : (after base t requests).workingPlace = t.workingPlace := by
    induction requests using List.reverseRecOn with
    | nil => rfl
    | append_singleton requests r ih => rw [after_concat, workingPlace_serve, ih]
  rw [placeOf, placeOf, start, start, hw]

theorem storedAt?_append {i : Nat} (h : i < requests.length) (base : String) (t : FileTree) (place : Place)
    (more : List Request) : storedAt? base t (requests ++ more) place i = storedAt? base t requests place i := by
  rw [storedAt?, storedAt?, List.getElem?_append_left h, List.take_append_of_le_length (Nat.le_of_lt h)]

/-- The last request counts if it writes to the place, and those before it if not. -/
theorem latest?_concat (base : String) (t : FileTree) (requests : List Request) (r : Request) (place : Place) :
    latest? base t (requests ++ [r]) place =
      (r.stored? base (after base t requests) place).or (latest? base t requests place) := by
  have hbefore : (List.range requests.length).filterMap (storedAt? base t (requests ++ [r]) place) =
      (List.range requests.length).filterMap (storedAt? base t requests place) := by
    refine List.filterMap_congr fun i hi => ?_
    exact storedAt?_append (List.mem_range.mp hi) base t place [r]
  have hlast : storedAt? base t (requests ++ [r]) place requests.length =
      r.stored? base (after base t requests) place := by
    simp [storedAt?]
  rw [latest?, List.length_append, List.length_singleton, List.range_succ, List.filterMap_append, hbefore,
    List.getLast?_append, latest?, List.filterMap_cons, hlast]
  cases r.stored? base (after base t requests) place <;> rfl

theorem file?_after (hf : ∀ r ∈ requests, Forward (joinPath base r.name)) (t : FileTree) (place : Place) :
    (after base t requests).file? place = (latest? base t requests place).or (t.file? place) := by
  induction requests using List.reverseRecOn with
  | nil => rfl
  | append_singleton requests r ih =>
    have hr : Forward (joinPath base r.name) := hf r (by simp)
    rw [after_concat, latest?_concat, file?_serve hr, ih fun r' h => hf r' (by simp [h]), Option.or_assoc]

/-- A read gives what was last written to the place that it names, or what was there at the start. A
write has its effect at one place, and none if it fails. -/
theorem storage_is_a_map (ht : t.Sound) (hbase : Forward base) (hnames : ∀ r ∈ requests, Forward r.name) :
    let now := after base t requests
    (∀ name content, Forward name →
      (∀ written, latest? base t requests (t.placeOf (joinPath base name)) = some written →
        (now.fetch base name = .ok content ↔ NamesFile (joinPath base name) ∧ content = written)) ∧
      (latest? base t requests (t.placeOf (joinPath base name)) = none →
        (now.fetch base name = .ok content ↔ t.fetch base name = .ok content))) ∧
    (∀ name content, Forward name →
      let stored := now.store base name content
      (∀ fault, stored.result = .error fault → ∀ place, stored.tree.file? place = now.file? place) ∧
      ∀ path, stored.result = .ok path →
        path = joinPath base name ∧ stored.tree.fetch base name = .ok content ∧
        ∀ place, place ≠ t.placeOf path → stored.tree.file? place = now.file? place) ∧
    ∀ name, isAbsolute name = true → joinPath base name = name := by
  intro now
  have hnow : now.Sound := sound_after ht base requests
  have hf (name : String) (hname : Forward name) : Forward (joinPath base name) := forward_joinPath hbase hname
  refine ⟨fun name content hname => ?_, fun name content hname => ⟨?_, ?_⟩, fun name h => ?_⟩
  · have hfile := file?_after (fun r hr => hf r.name (hnames r hr)) t (t.placeOf (joinPath base name))
    have hread : now.fetch base name = .ok content ↔
        NamesFile (joinPath base name) ∧ now.file? (t.placeOf (joinPath base name)) = some content := by
      rw [fetch, hnow.read_eq_ok (hf name hname), placeOf_after]
    constructor
    · intro written hl
      rw [hl, Option.some_or] at hfile
      rw [hread, hfile, Option.some.injEq, eq_comm]
    · intro hl
      rw [hl, Option.none_or] at hfile
      rw [hread, hfile, fetch, ht.read_eq_ok (hf name hname)]
  · intro fault hfault
    obtain ⟨-, -, hsame⟩ | ⟨hr, -⟩ := store_cases now content (hf name hname)
    · exact hsame
    · cases hr.symm.trans hfault
  · intro path hpath
    obtain ⟨fault, hr, -⟩ | ⟨hr, hfetch, -, hsame⟩ := store_cases now content (hf name hname)
    · cases hr.symm.trans hpath
    · obtain rfl := Except.ok.inj (hr.symm.trans hpath)
      rw [placeOf_after] at hsame
      exact ⟨rfl, hfetch, hsame⟩
  · rw [joinPath, if_pos h]

/-- A file is written under three spellings of its name; requests that cannot be met change nothing. -/
theorem storage_is_a_map_past_failures :
    let t : FileTree := { entries := [(["f"], .file ⟨#[0]⟩)] }
    let requests : List Request :=
      [.write "a" ⟨#[1]⟩, .read "a", .write "/f/b" ⟨#[2]⟩, .write "./a" ⟨#[3]⟩, .write "a/" ⟨#[4]⟩]
    let now := after "out" t requests
    t.Sound ∧ Forward "out" ∧ (∀ r ∈ requests, Forward r.name) ∧
    now.fetch "out" "/out//./a" = .ok ⟨#[3]⟩ ∧ now.fetch "out" "/f" = .ok ⟨#[0]⟩ ∧
    ∀ place, (now.store "out" "a/b" ⟨#[5]⟩).tree.file? place = now.file? place := by
  intro t requests now
  have ht : t.Sound := by
    refine ⟨rfl, fun place name h => ?_⟩
    have hp : place ++ [name] = [] ++ ["f"] := by
      by_contra hne
      have hne' : ¬ ["f"] = place ++ [name] := fun h => hne h.symm
      exact h (by simp [t, lookup, findEntry, hne'])
    obtain ⟨rfl, hname⟩ := List.append_inj' hp rfl
    obtain rfl : name = "f" := List.singleton_inj.mp hname
    exact ⟨rfl, by decide⟩
  have hbase : Forward "out" := by
    rw [Forward]
    decide
  have hnames : ∀ r ∈ requests, Forward r.name := by
    simp only [requests, Forward]
    decide
  have ha : Forward "/out//./a" ∧ Forward "/f" ∧ Forward "a/b" := by
    simp only [Forward]
    decide
  have hlatest : latest? "out" t requests (t.placeOf (joinPath "out" "/out//./a")) = some ⟨#[3]⟩ ∧
      latest? "out" t requests (t.placeOf (joinPath "out" "/f")) = none := by
    dsimp only [t, requests]
    decide +kernel
  have hfile : NamesFile (joinPath "out" "/out//./a") := ⟨by decide, by decide, by decide⟩
  have hinitial : t.fetch "out" "/f" = .ok ⟨#[0]⟩ := by
    dsimp only [t]
    decide +kernel
  have hblocked : (now.store "out" "a/b" ⟨#[5]⟩).result.isOk = false := by
    dsimp only [now, t, requests]
    decide +kernel
  obtain ⟨fault, hr⟩ := isOk_eq_false_iff.mp hblocked
  obtain ⟨hread, hwrite, -⟩ := storage_is_a_map ht hbase hnames
  have hwritten := ((hread _ ⟨#[3]⟩ ha.1).1 _ hlatest.1).mpr ⟨hfile, rfl⟩
  have hkept := ((hread _ ⟨#[0]⟩ ha.2.1).2 hlatest.2).mpr hinitial
  exact ⟨ht, hbase, hnames, hwritten, hkept, (hwrite _ ⟨#[5]⟩ ha.2.2).1 fault hr⟩

end Storage

end Passbook
