import Mathlib.Data.List.DropRight
import Passbook.Console

/-! # Handles share their lines with their clones

A handle is made afresh or cloned from an earlier one, so that it descends from one fresh handle by
repeated cloning; the handles that descend from one fresh handle are a family. What a handle shows
is determined by the steps taken so far: the lines written through any handle of its family since
one of them was last used to clear, also when the handle itself was made after that.
-/
namespace Passbook.Consoles

/-- How a handle came about. -/
inductive Origin
  | fresh
  | cloneOf (handle : Nat)
deriving DecidableEq, Repr

def Outlet.target : Outlet → Nat
  | .handle j => j
  | .reference outlet => outlet.target

namespace Step

/-- The handle that a step is taken on. -/
def handle? : Step → Option Nat
  | .write outlet _ => some outlet.target
  | .clear handle => some handle
  | .clone handle => some handle
  | .fresh => none

/-- The origin of the handle that a step makes. -/
def origin? : Step → Option Origin
  | .write _ _ => none
  | .clear _ => none
  | .clone handle => some (.cloneOf handle)
  | .fresh => some .fresh

end Step

/-- The origins of all handles in the order in which they were made; the first one is there before
any step. -/
def origins (steps : List Step) : List Origin := .fresh :: steps.filterMap Step.origin?

/-- Every step is taken on a handle that was made before. -/
def Legal (steps : List Step) : Prop :=
  ∀ i < steps.length, ∀ j ∈ steps[i]?.bind Step.handle?, j < (origins (steps.take i)).length

instance : DecidablePred Legal := fun steps =>
  inferInstanceAs (Decidable
    (∀ i < steps.length, ∀ j ∈ steps[i]?.bind Step.handle?, j < (origins (steps.take i)).length))

theorem origins_append (steps more : List Step) :
    origins (steps ++ more) = origins steps ++ more.filterMap Step.origin? := by
  rw [origins, List.filterMap_append, ← List.cons_append, ← origins]

theorem length_origins_le (steps more : List Step) : (origins steps).length ≤ (origins (steps ++ more)).length := by
  rw [origins_append, List.length_append]
  exact Nat.le_add_right _ _

theorem legal_concat {steps : List Step} {step : Step} (h : Legal (steps ++ [step])) :
    Legal steps ∧ ∀ j ∈ step.handle?, j < (origins steps).length := by
  constructor
  · intro i hi j hj
    have hlong := h i (by rw [List.length_append]; omega) j
    rw [List.getElem?_append_left hi, List.take_append_of_le_length hi.le] at hlong
    exact hlong hj
  · intro j hj
    have hlast := h steps.length (by simp) j
    rw [List.getElem?_concat_length, List.take_left] at hlast
    exact hlast hj

theorem Legal.lt_length {steps : List Step} (h : Legal steps) {step : Step} (hs : step ∈ steps) {j : Nat}
    (hj : j ∈ step.handle?) : j < (origins steps).length := by
  obtain ⟨i, hi, rfl⟩ := List.getElem_of_mem hs
  have hmade := h i hi j (by rwa [List.getElem?_eq_getElem hi, Option.bind_some])
  have hle := length_origins_le (steps.take i) (steps.drop i)
  rw [List.take_append_drop] at hle
  exact hmade.trans_le hle

/-- A handle that is the fresh handle `root`, or a clone of an earlier one that descends from it. -/
inductive DescendsFrom (os : List Origin) (root : Nat) : Nat → Prop
  | fresh (h : os[root]? = some .fresh) : DescendsFrom os root root
  | clone {j k : Nat} (hj : DescendsFrom os root j) (hjk : j < k) (hk : os[k]? = some (.cloneOf j)) :
    DescendsFrom os root k

/-- Handles that descend from the same fresh one. -/
def SameFamily (os : List Origin) (j k : Nat) : Prop := ∃ root, DescendsFrom os root j ∧ DescendsFrom os root k

section Families
variable {os more : List Origin} {root i j k : Nat}

theorem descendsFrom_iff : DescendsFrom os root k ↔
    root = k ∧ os[k]? = some .fresh ∨ ∃ j, DescendsFrom os root j ∧ j < k ∧ os[k]? = some (.cloneOf j) := by
  constructor
  · rintro (h | ⟨hj, hjk, hk⟩)
    · exact .inl ⟨rfl, h⟩
    · exact .inr ⟨_, hj, hjk, hk⟩
  · rintro (⟨rfl, h⟩ | ⟨j, hj, hjk, hk⟩)
    · exact .fresh h
    · exact .clone hj hjk hk

theorem DescendsFrom.lt_length (h : DescendsFrom os root k) : k < os.length := by
  obtain ⟨-, hk⟩ | ⟨j, -, -, hk⟩ := descendsFrom_iff.mp h
  · exact (List.getElem?_eq_some_iff.mp hk).1
  · exact (List.getElem?_eq_some_iff.mp hk).1

theorem DescendsFrom.root_le (h : DescendsFrom os root k) : root ≤ k := by
  induction h with
  | fresh h => exact le_rfl
  | clone hj hjk hk ih => exact ih.trans hjk.le

theorem descendsFrom_append (hk : k < os.length) : DescendsFrom (os ++ more) root k ↔ DescendsFrom os root k := by
  constructor
  · intro h
    induction h with
    | fresh h => exact .fresh (by rwa [List.getElem?_append_left hk] at h)
    | clone hj hjk hmade ih => exact .clone (ih (hjk.trans hk)) hjk (by rwa [List.getElem?_append_left hk] at hmade)
  · intro h
    induction h with
    | fresh h => exact .fresh (by rwa [List.getElem?_append_left hk])
    | clone hj hjk hmade ih => exact .clone (ih (hjk.trans hk)) hjk (by rwa [List.getElem?_append_left hk])

theorem descendsFrom_concat {o : Origin} (hk : k ≠ os.length) :
    DescendsFrom (os ++ [o]) root k ↔ DescendsFrom os root k := by
  obtain hlt | hgt := Nat.lt_or_gt_of_ne hk
  · exact descendsFrom_append hlt
  · refine ⟨fun h => absurd h.lt_length ?_, fun h => absurd h.lt_length (by omega)⟩
    rw [List.length_append, List.length_singleton]
    omega

theorem descendsFrom_fresh :
    DescendsFrom (os ++ [.fresh]) root k ↔ if k = os.length then root = k else DescendsFrom os root k := by
  split
  case isTrue hk =>
    rw [descendsFrom_iff, hk, List.getElem?_concat_length]
    simp
  case isFalse hk => exact descendsFrom_concat hk

theorem descendsFrom_clone :
    DescendsFrom (os ++ [.cloneOf j]) root k ↔ DescendsFrom os root (if k = os.length then j else k) := by
  split
  case isFalse hk => exact descendsFrom_concat hk
  case isTrue hk =>
    rw [descendsFrom_iff, hk, List.getElem?_concat_length]
    constructor
    · rintro (⟨-, h⟩ | ⟨i, hi, hlt, h⟩)
      · cases h
      · cases h
        exact (descendsFrom_append hlt).mp hi
    · intro h
      exact .inr ⟨j, (descendsFrom_append h.lt_length).mpr h, h.lt_length, rfl⟩

/-- The fresh handle that a handle descends from, by the origins from the latest to the first. -/
def founderBack : List Origin → Nat → Option Nat
  | [], _ => none
  | .fresh :: os, k => if k = os.length then some k else founderBack os k
  | .cloneOf j :: os, k => founderBack os (if k = os.length then j else k)

def founder? (os : List Origin) (k : Nat) : Option Nat := founderBack os.reverse k

theorem descendsFrom_iff_founder? : DescendsFrom os root k ↔ founder? os k = some root := by
  induction os using List.reverseRecOn generalizing k with
  | nil => exact ⟨fun h => absurd h.lt_length (Nat.not_lt_zero k), fun h => nomatch h⟩
  | append_singleton os o ih =>
    rw [founder?, List.reverse_concat]
    cases o with
    | fresh =>
      rw [descendsFrom_fresh, founderBack, List.length_reverse]
      split
      · rw [Option.some_inj, eq_comm]
      · exact ih
    | cloneOf j =>
      rw [descendsFrom_clone, founderBack, List.length_reverse]
      exact ih

theorem DescendsFrom.unique {root' : Nat} (h : DescendsFrom os root k) (h' : DescendsFrom os root' k) :
    root' = root := by
  rw [descendsFrom_iff_founder?] at h h'
  exact Option.some.inj (h'.symm.trans h)

theorem sameFamily_iff : SameFamily os j k ↔ (founder? os j).isSome ∧ founder? os j = founder? os k := by
  simp only [SameFamily, descendsFrom_iff_founder?, Option.isSome_iff_exists]
  constructor
  · rintro ⟨root, hj, hk⟩
    exact ⟨⟨root, hj⟩, hj.trans hk.symm⟩
  · rintro ⟨⟨root, hj⟩, he⟩
    exact ⟨root, hj, he ▸ hj⟩

instance : Decidable (SameFamily os j k) := decidable_of_iff _ sameFamily_iff.symm

theorem sameFamily_append (hj : j < os.length) (hk : k < os.length) :
    SameFamily (os ++ more) j k ↔ SameFamily os j k := by
  simp only [SameFamily, descendsFrom_append hj, descendsFrom_append hk]

theorem sameFamily_clone : SameFamily (os ++ [.cloneOf j]) i k ↔
    SameFamily os (if i = os.length then j else i) (if k = os.length then j else k) := by
  simp only [SameFamily, descendsFrom_clone]

theorem sameFamily_fresh : SameFamily (os ++ [.fresh]) os.length k ↔ k = os.length := by
  simp only [SameFamily, descendsFrom_fresh, if_true]
  constructor
  · rintro ⟨root, rfl, h⟩
    by_contra hk
    rw [if_neg hk] at h
    exact absurd (h.root_le.trans_lt h.lt_length) (lt_irrefl _)
  · rintro rfl
    exact ⟨os.length, rfl, by rw [if_pos rfl]⟩

theorem sameFamily_comm : SameFamily os j k ↔ SameFamily os k j := exists_congr fun _ => and_comm

end Families

def Step.clears (family : Nat → Bool) : Step → Bool
  | .clear handle => family handle
  | _ => false

def Step.line? (family : Nat → Bool) : Step → Option String
  | .write outlet line => if family outlet.target then some line else none
  | _ => none

/-- The lines written through a family after it was last cleared. -/
def written (family : Nat → Bool) (steps : List Step) : List String :=
  (steps.rtakeWhile fun step => !step.clears family).filterMap (Step.line? family)

section Written
variable {family other : Nat → Bool} {steps more : List Step}

theorem written_concat (family : Nat → Bool) (steps : List Step) (step : Step) :
    written family (steps ++ [step]) =
      if step.clears family then [] else written family steps ++ (step.line? family).toList := by
  rw [written, List.rtakeWhile_concat]
  cases step.clears family with
  | true => rfl
  | false =>
    simp only [Bool.not_false, if_true, Bool.false_eq_true, if_false, List.filterMap_append, written,
      List.filterMap_cons, List.filterMap_nil]
    cases step.line? family <;> rfl

theorem written_write (family : Nat → Bool) (steps : List Step) (outlet : Outlet) (line : String) :
    written family (steps ++ [.write outlet line]) =
      if family outlet.target then written family steps ++ [line] else written family steps := by
  rw [written_concat]
  cases hfamily : family outlet.target <;> simp [Step.clears, Step.line?, hfamily]

theorem written_clear (family : Nat → Bool) (steps : List Step) (j : Nat) :
    written family (steps ++ [.clear j]) = if family j then [] else written family steps := by
  rw [written_concat]
  cases hfamily : family j <;> simp [Step.clears, Step.line?, hfamily]

theorem written_made {step : Step} {o : Origin} (h : step.origin? = some o) :
    written family (steps ++ [step]) = written family steps := by
  cases step with
  | write outlet line => cases h
  | clear j => cases h
  | clone j => rw [written_concat]; exact List.append_nil _
  | fresh => rw [written_concat]; exact List.append_nil _

theorem written_concat_of_apart {step : Step} (h : ∀ j ∈ step.handle?, family j = false) :
    written family (steps ++ [step]) = written family steps := by
  cases step with
  | write outlet line => rw [written_write, h _ rfl]; rfl
  | clear j => rw [written_clear, h _ rfl]; rfl
  | clone j => exact written_made rfl
  | fresh => exact written_made rfl

theorem written_append_of_apart (steps : List Step) (h : ∀ step ∈ more, ∀ j ∈ step.handle?, family j = false) :
    written family (steps ++ more) = written family steps := by
  induction more using List.reverseRecOn with
  | nil => rw [List.append_nil]
  | append_singleton more step ih =>
    rw [← List.append_assoc, written_concat_of_apart (h step (by simp))]
    exact ih fun step hs => h step (List.mem_append_left _ hs)

theorem written_congr (h : ∀ step ∈ steps, ∀ j ∈ step.handle?, family j = other j) :
    written family steps = written other steps := by
  induction steps using List.reverseRecOn with
  | nil => rfl
  | append_singleton steps step ih =>
    have hstep := h step (by simp)
    have hsteps := ih fun step hs => h step (List.mem_append_left _ hs)
    cases step with
    | write outlet line => rw [written_write, written_write, hstep _ rfl, hsteps]
    | clear j => rw [written_clear, written_clear, hstep _ rfl, hsteps]
    | clone j => rw [written_made rfl, written_made rfl, hsteps]
    | fresh => rw [written_made rfl, written_made rfl, hsteps]

/-- Handles made later do not belong to what was written before. -/
theorem Legal.written_later (legal : Legal steps) {k : Nat} (hk : k < (origins steps).length) (more : List Step) :
    written (fun j => SameFamily (origins (steps ++ more)) k j) steps =
      written (fun j => SameFamily (origins steps) k j) steps := by
  apply written_congr
  intro step hs j hj
  rw [decide_eq_decide, origins_append, sameFamily_append hk (legal.lt_length hs hj)]

end Written

theorem writeLine_eq (c : Consoles) (line : String) (outlet : Outlet) :
    c.writeLine line outlet = c.modify outlet.target (· ++ [line]) := by
  induction outlet with
  | handle j => rfl
  | reference outlet ih => exact ih

/-- What the steps so far say about the consoles: handles have the same lines in store exactly if
they are of one family, and these lines are the ones written to the family. -/
structure Agrees (c : Consoles) (steps : List Step) : Prop where
  count : c.handles.length = (origins steps).length
  shared {j k : Nat} (hj : j < (origins steps).length) (hk : k < (origins steps).length) :
    c.handles[j]? = c.handles[k]? ↔ SameFamily (origins steps) j k
  stored {k b : Nat} (hk : c.handles[k]? = some b) :
    c.buffers[b]? = some (written (fun j => SameFamily (origins steps) k j) steps)

namespace Agrees
variable {c : Consoles} {steps : List Step} {j k : Nat}

theorem exists_buffer (h : Agrees c steps) (hk : k < (origins steps).length) : ∃ b, c.handles[k]? = some b :=
  ⟨_, List.getElem?_eq_getElem (h.count ▸ hk)⟩

theorem lt_length (h : Agrees c steps) {b : Nat} (hk : c.handles[k]? = some b) : k < (origins steps).length :=
  h.count ▸ (List.getElem?_eq_some_iff.mp hk).1

theorem lines_eq (h : Agrees c steps) (hk : k < (origins steps).length) :
    c.lines k = written (fun j => SameFamily (origins steps) k j) steps := by
  obtain ⟨b, hb⟩ := h.exists_buffer hk
  rw [lines, hb]
  dsimp only
  rw [h.stored hb, Option.getD_some]

/-- A write and a clear reach the lines of all handles of the family, and of no other. -/
theorem modify (h : Agrees c steps) {step : Step} {f : List String → List String} (hmade : step.origin? = none)
    (hj : j < (origins steps).length)
    (hf : ∀ family : Nat → Bool, written family (steps ++ [step]) =
      if family j then f (written family steps) else written family steps) :
    Agrees (c.modify j f) (steps ++ [step]) := by
  have horigins : origins (steps ++ [step]) = origins steps := by
    rw [origins_append, List.filterMap_cons, hmade]
    exact List.append_nil _
  obtain ⟨b, hb⟩ := h.exists_buffer hj
  rw [Consoles.modify, hb]
  refine ⟨?_, ?_, ?_⟩
  · rw [horigins]
    exact h.count
  · rw [horigins]
    exact h.shared
  · intro k b' hk
    -- the handles with the changed buffer are those of the family of `j`
    have hshared := h.shared (h.lt_length hk) hj
    rw [hk, hb, Option.some_inj] at hshared
    rw [horigins, hf, List.getElem?_modify, h.stored hk]
    by_cases hbuffer : b' = b
    · simp [hshared.mp hbuffer, hbuffer]
    · simp [mt hshared.mpr hbuffer, Ne.symm hbuffer]

theorem clone (h : Agrees c steps) (legal : Legal steps) (hj : j < (origins steps).length) :
    Agrees (c.step (.clone j)) (steps ++ [.clone j]) := by
  obtain ⟨b, hb⟩ := h.exists_buffer hj
  have horigins : origins (steps ++ [.clone j]) = origins steps ++ [.cloneOf j] := origins_append steps [.clone j]
  -- both in the list of handles and in the families a clone stands for its origin
  have hhandle : ∀ k, (c.handles ++ [b])[k]? = c.handles[if k = (origins steps).length then j else k]? := by
    intro k
    rw [← h.count, List.getElem?_append]
    grind
  rw [Consoles.step, hb]
  refine ⟨?_, ?_, ?_⟩
  · rw [horigins, List.length_append, List.length_append, h.count]
    rfl
  · intro i k hi hk
    rw [horigins, List.length_append, List.length_singleton] at hi hk
    rw [horigins, hhandle, hhandle, sameFamily_clone]
    apply h.shared
    · split <;> omega
    · split <;> omega
  · intro k b' hk
    rw [hhandle] at hk
    rw [horigins, written_made rfl, h.stored hk, Option.some_inj]
    apply written_congr
    intro step hs i hi
    -- the steps so far know nothing of the new handle
    have hlt := legal.lt_length hs hi
    rw [decide_eq_decide, sameFamily_clone (k := i), if_neg hlt.ne]

/-- A fresh handle is a family of its own, to which nothing was written. -/
theorem fresh (h : Agrees c steps) (legal : Legal steps) : Agrees (c.step .fresh) (steps ++ [.fresh]) := by
  have horigins : origins (steps ++ [.fresh]) = origins steps ++ [.fresh] := origins_append steps [.fresh]
  have hold : ∀ {k}, k < (origins steps).length → (c.handles ++ [c.buffers.length])[k]? = c.handles[k]? :=
    fun hk => List.getElem?_append_left (h.count ▸ hk)
  have hnew : (c.handles ++ [c.buffers.length])[(origins steps).length]? = some c.buffers.length := by
    rw [← h.count, List.getElem?_concat_length]
  have hapart : ∀ {k}, k < (origins steps).length → c.handles[k]? ≠ some c.buffers.length := by
    intro k hk hlast
    exact absurd (List.getElem?_eq_some_iff.mp (h.stored hlast)).1 (lt_irrefl _)
  rw [Consoles.step]
  refine ⟨?_, ?_, ?_⟩
  · rw [horigins, List.length_append, List.length_append, h.count]
    rfl
  · intro j k hj hk
    rw [horigins, List.length_append, List.length_singleton, Nat.lt_succ_iff_lt_or_eq] at hj hk
    rw [horigins]
    obtain hj | rfl := hj
    · obtain hk | rfl := hk
      · rw [hold hj, hold hk, sameFamily_append hj hk]
        exact h.shared hj hk
      · rw [hold hj, hnew, sameFamily_comm, sameFamily_fresh]
        exact iff_of_false (hapart hj) hj.ne
    · obtain hk | rfl := hk
      · rw [hold hk, hnew, sameFamily_fresh, eq_comm]
        exact iff_of_false (hapart hk) hk.ne
      · exact iff_of_true rfl (sameFamily_fresh.mpr rfl)
  · intro k b hk
    have hlt := (List.getElem?_eq_some_iff.mp hk).1
    rw [List.length_append, List.length_singleton, h.count, Nat.lt_succ_iff_lt_or_eq] at hlt
    rw [written_made rfl]
    obtain hlt | rfl := hlt
    · rw [hold hlt] at hk
      have hstored := h.stored hk
      rw [List.getElem?_append_left (List.getElem?_eq_some_iff.mp hstored).1, hstored, legal.written_later hlt]
    · rw [hnew, Option.some_inj] at hk
      have hnone : ∀ step ∈ steps, ∀ j ∈ step.handle?,
          decide (SameFamily (origins (steps ++ [.fresh])) (origins steps).length j) = false := by
        intro step hs j hj
        rw [decide_eq_false_iff_not, horigins, sameFamily_fresh]
        exact (legal.lt_length hs hj).ne
      have hnothing := written_append_of_apart [] hnone
      rw [List.nil_append] at hnothing
      rw [← hk, List.getElem?_concat_length, hnothing]
      rfl

theorem step (h : Agrees c steps) {step : Step} (legal : Legal (steps ++ [step])) :
    Agrees (c.step step) (steps ++ [step]) := by
  obtain ⟨hlegal, hmade⟩ := legal_concat legal
  cases step with
  | write outlet line =>
    rw [Consoles.step, writeLine_eq]
    exact h.modify rfl (hmade _ rfl) fun family => written_write family steps outlet line
  | clear j => exact h.modify rfl (hmade _ rfl) fun family => written_clear family steps j
  | clone j => exact h.clone hlegal (hmade _ rfl)
  | fresh => exact h.fresh hlegal

end Agrees

theorem agrees_single : Agrees single [] := by
  refine ⟨rfl, fun hj hk => ?_, fun {k b} hk => ?_⟩
  · obtain rfl := Nat.lt_one_iff.mp hj
    obtain rfl := Nat.lt_one_iff.mp hk
    exact iff_of_true rfl (by decide)
  · obtain rfl := Nat.lt_one_iff.mp (List.getElem?_eq_some_iff.mp hk).1
    obtain rfl := Option.some.inj hk
    rfl

theorem agrees_run {steps : List Step} (legal : Legal steps) : Agrees (single.run steps) steps := by
  induction steps using List.reverseRecOn with
  | nil => exact agrees_single
  | append_singleton steps step ih =>
    rw [run, List.foldl_concat]
    exact (ih (legal_concat legal).1).step legal

theorem lines_clone {c : Consoles} {k : Nat} (hk : k < c.handles.length) :
    (c.step (.clone k)).lines c.handles.length = c.lines k := by
  have hb := List.getElem?_eq_getElem hk
  rw [step, hb, lines, lines, hb, List.getElem?_concat_length]

/-- After any steps each handle belongs to one family and shows what was written through this family
since it was last cleared; steps on handles of other families change nothing about it, and a clone
starts with the lines of its origin, in the family of its origin. -/
theorem run_shares_within_families {steps : List Step} (legal : Legal steps) :
    let c := single.run steps
    let os := origins steps
    c.handles.length = os.length ∧
    (∀ k < os.length, ∃! root, DescendsFrom os root k) ∧
    (∀ k < os.length, c.lines k = written (fun j => SameFamily os k j) steps) ∧
    (∀ k < os.length, ∀ more, Legal (steps ++ more) →
      (∀ step ∈ more, ∀ j ∈ step.handle?, ¬ SameFamily (origins (steps ++ more)) k j) →
      (c.run more).lines k = c.lines k) ∧
    ∀ k < os.length, (c.step (.clone k)).lines os.length = c.lines k ∧
      SameFamily (origins (steps ++ [.clone k])) k os.length := by
  intro c os
  have hagrees : Agrees c steps := agrees_run legal
  have hself : ∀ k < os.length, SameFamily os k k := fun k hk => (hagrees.shared hk hk).mp rfl
  refine ⟨hagrees.count, ?_, fun k hk => hagrees.lines_eq hk, ?_, ?_⟩
  · intro k hk
    obtain ⟨root, hroot, -⟩ := hself k hk
    exact ⟨root, hroot, fun other hother => hroot.unique hother⟩
  · intro k hk more hmore hapart
    have hlater : Agrees (c.run more) (steps ++ more) := by
      have hrun := agrees_run hmore
      rwa [run, List.foldl_append] at hrun
    rw [hlater.lines_eq (hk.trans_le (length_origins_le steps more)), hagrees.lines_eq hk,
      ← legal.written_later hk more]
    apply written_append_of_apart
    intro step hs j hj
    exact decide_eq_false (hapart step hs j hj)
  · intro k hk
    have hlines := lines_clone (c := c) (hagrees.count ▸ hk)
    rw [hagrees.count] at hlines
    refine ⟨hlines, ?_⟩
    rw [origins_append]
    exact sameFamily_clone.mpr (by rw [if_neg hk.ne, if_pos rfl]; exact hself k hk)

/-- Handles 0, 1 and 3 are one family, cleared through a handle that was not written to before and
written through references since; handle 2 is another, whose steps they do not notice. -/
theorem run_shares_within_families_past_clear :
    let steps : List Step := [.write (.handle 0) "first", .clone 0, .fresh, .write (.handle 2) "other", .clear 1,
      .write (.reference (.handle 1)) "second", .clone 1, .write (.reference (.reference (.handle 3))) "third"]
    let c := single.run steps
    Legal steps ∧ c.handles.length = 4 ∧ (∀ k ∈ [0, 1, 3], c.lines k = ["second", "third"]) ∧
    c.lines 2 = ["other"] ∧ (c.run [.clear 2, .clone 2]).lines 0 = ["second", "third"] ∧
    (c.step (.clone 0)).lines 4 = ["second", "third"] := by
  intro steps c
  have legal : Legal steps := by decide
  obtain ⟨hcount, -, hlines, hapart, hclone⟩ := run_shares_within_families legal
  have hzero : c.lines 0 = ["second", "third"] := (hlines 0 (by decide)).trans (by decide)
  refine ⟨legal, hcount, ?_, (hlines 2 (by decide)).trans (by decide), ?_, ?_⟩
  · intro k hk
    have hlt : k < (origins steps).length := by
      revert k
      decide
    rw [hlines k hlt]
    revert k
    decide
  · exact (hapart 0 (by decide) [.clear 2, .clone 2] (by decide) (by decide)).trans hzero
  · exact (hclone 0 (by decide)).1.trans hzero

end Passbook.Consoles
