import Mathlib.Data.List.TakeWhile
import Passbook.Placeholder

/-! # Substitution in one pass

A pass over a text meets characters that open no placeholder and placeholders, one after the other.
What it writes for each of them depends on nothing else, so that a text put together from literal
parts and placeholders is replaced part by part, and no value is looked at again. Without any value
to put in, a text stays as it is, however its dollar signs and braces are arranged.

A second pass could find placeholders that the first one put together, from a dollar sign before a
value and a brace in it or after it, or meet a kept one in another place. Neither happens when every
value is plain: each character that opened no placeholder opens none in the result.
-/
namespace Passbook.Placeholder
variable {env : Environment} {name cs : List Char} {c : Char}

/-- What may stand between the braces. -/
structure IsName (name : List Char) : Prop where
  ne_nil : name ≠ []
  unclosed : '}' ∉ name

theorem nameAt?_written (h : IsName name) (cs : List Char) : nameAt? (written name ++ cs) = some name := by
  have hall : ∀ c ∈ name, (c != '}') = true := by
    intro c hc
    rw [bne_iff_ne]
    rintro rfl
    exact h.unclosed hc
  have htake : (name ++ '}' :: cs).takeWhile (· != '}') = name := by
    rw [List.takeWhile_append_of_pos hall]
    simp
  have hw : written name ++ cs = '$' :: '{' :: (name ++ '}' :: cs) := by simp [written]
  rw [hw, nameAt?, htake]
  simp [h.ne_nil]

theorem nameAt?_eq_some (h : nameAt? cs = some name) : IsName name ∧ ∃ rest, cs = written name ++ rest := by
  unfold nameAt? at h
  split at h
  case h_2 => cases h
  case h_1 cs =>
    dsimp only at h
    split at h
    · cases h
    · rename_i hclosed
      obtain rfl := Option.some.inj h
      rw [Bool.or_eq_true, not_or, List.isEmpty_iff, beq_iff_eq] at hclosed
      have hsplit : cs.takeWhile (· != '}') ++ cs.dropWhile (· != '}') = cs := List.takeWhile_append_dropWhile
      refine ⟨⟨hclosed.1, fun hmem => by simpa using List.mem_takeWhile_imp hmem⟩, ?_⟩
      -- the name is not the whole rest of the text, so what stops it is a closing brace
      cases hrest : cs.dropWhile (· != '}') with
      | nil =>
        rw [hrest, List.append_nil] at hsplit
        exact absurd (congrArg List.length hsplit) hclosed.2
      | cons x rest =>
        have hx : x = '}' := by
          have hstop := List.head?_dropWhile_not (· != '}') cs
          rw [hrest] at hstop
          simpa using hstop
        subst hx
        rw [hrest] at hsplit
        refine ⟨rest, ?_⟩
        simp [written, hsplit]

theorem nameAt?_of_ne_dollar (h : c ≠ '$') (cs : List Char) : nameAt? (c :: cs) = none := by
  cases hn : nameAt? (c :: cs) with
  | none => rfl
  | some name =>
    obtain ⟨-, rest, he⟩ := nameAt?_eq_some hn
    exact absurd (List.cons.inj he).1 h

theorem drop_written (name cs : List Char) : (written name ++ cs).drop (name.length + 3) = cs :=
  List.drop_left' (by simp [written])

theorem namesFrom_drop (skip : Nat) (cs : List Char) : namesFrom skip cs = namesFrom 0 (cs.drop skip) := by
  induction cs generalizing skip with
  | nil => cases skip <;> simp [namesFrom]
  | cons c cs ih =>
    cases skip with
    | zero => rfl
    | succ skip => rw [namesFrom, List.drop_succ_cons, ih]

theorem substituteFrom_plain (env : Environment) (h : nameAt? (c :: cs) = none) :
    substituteFrom env 0 (c :: cs) = c :: substituteFrom env 0 cs := by
  rw [substituteFrom, h]

theorem namesFrom_plain (h : nameAt? (c :: cs) = none) : namesFrom 0 (c :: cs) = namesFrom 0 cs := by
  rw [namesFrom, h]

theorem substituteFrom_written (env : Environment) (h : IsName name) (cs : List Char) :
    substituteFrom env 0 (written name ++ cs) = value env name ++ substituteFrom env 0 cs := by
  have hn := nameAt?_written h cs
  have hd := drop_written name cs
  cases ht : written name ++ cs with
  | nil => simp [written] at ht
  | cons c rest =>
    rw [ht] at hn hd
    simp only [substituteFrom, hn]
    rw [substituteFrom_drop, show rest.drop (name.length + 2) = cs from hd]

theorem namesFrom_written (h : IsName name) (cs : List Char) :
    namesFrom 0 (written name ++ cs) = String.ofList name :: namesFrom 0 cs := by
  have hn := nameAt?_written h cs
  have hd := drop_written name cs
  cases ht : written name ++ cs with
  | nil => simp [written] at ht
  | cons c rest =>
    rw [ht] at hn hd
    simp only [namesFrom, hn]
    rw [namesFrom_drop, show rest.drop (name.length + 2) = cs from hd]

/-- Induction along the pass: a text is empty, or it starts with a character that opens no
placeholder, or with a placeholder. -/
@[elab_as_elim]
theorem passInduction {motive : List Char → Prop} (cs : List Char) (nil : motive [])
    (plain : ∀ c cs, nameAt? (c :: cs) = none → motive cs → motive (c :: cs))
    (placeholder : ∀ name cs, IsName name → motive cs → motive (written name ++ cs)) : motive cs := by
  match cs with
  | [] => exact nil
  | c :: cs =>
    cases hn : nameAt? (c :: cs) with
    | none => exact plain c cs hn (passInduction cs nil plain placeholder)
    | some name =>
      obtain ⟨hname, rest, he⟩ := nameAt?_eq_some hn
      have hlt : rest.length < (c :: cs).length := by
        rw [he, List.length_append, written]
        simp
      rw [he]
      exact placeholder name rest hname (passInduction rest nil plain placeholder)
termination_by cs.length
decreasing_by
  · exact Nat.lt_succ_self cs.length
  · exact hlt

def spelled (name : String) : String := String.ofList (written name.toList)

theorem toList_spelled (name : String) : (spelled name).toList = written name.toList := String.toList_ofList

/-- A part of a text: literal text without dollar signs, or a placeholder. -/
inductive Segment
  | literal (text : String) (plain : '$' ∉ text.toList)
  | placeholder (name : String) (isName : IsName name.toList)

namespace Segment

def text : Segment → String
  | .literal text _ => text
  | .placeholder name _ => spelled name

/-- What a part becomes: a placeholder without a value stays as it is. -/
def filled (env : Environment) : Segment → String
  | .literal text _ => text
  | .placeholder name isName => (env name).getD (placeholder name isName).text

def name? : Segment → Option String
  | .literal _ _ => none
  | .placeholder name _ => some name

end Segment

theorem substituteFrom_literal (env : Environment) {text : List Char} (h : '$' ∉ text) (cs : List Char) :
    substituteFrom env 0 (text ++ cs) = text ++ substituteFrom env 0 cs := by
  induction text with
  | nil => rfl
  | cons c text ih =>
    rw [List.mem_cons, not_or] at h
    rw [List.cons_append, substituteFrom_plain env (nameAt?_of_ne_dollar (Ne.symm h.1) _), ih h.2, List.cons_append]

theorem namesFrom_literal {text : List Char} (h : '$' ∉ text) (cs : List Char) :
    namesFrom 0 (text ++ cs) = namesFrom 0 cs := by
  induction text with
  | nil => rfl
  | cons c text ih =>
    rw [List.mem_cons, not_or] at h
    rw [List.cons_append, namesFrom_plain (nameAt?_of_ne_dollar (Ne.symm h.1) _), ih h.2]

theorem substituteFrom_segment (env : Environment) (segment : Segment) (cs : List Char) :
    substituteFrom env 0 (segment.text.toList ++ cs) = (segment.filled env).toList ++ substituteFrom env 0 cs := by
  cases segment with
  | literal text plain => exact substituteFrom_literal env plain cs
  | placeholder name isName =>
    rw [Segment.text, toList_spelled, substituteFrom_written env isName, value, String.ofList_toList,
      Segment.filled]
    cases env name with
    | none => rw [Option.getD_none, Segment.text, toList_spelled]
    | some v => rfl

theorem namesFrom_segment (segment : Segment) (cs : List Char) :
    namesFrom 0 (segment.text.toList ++ cs) = segment.name?.toList ++ namesFrom 0 cs := by
  cases segment with
  | literal text plain => exact namesFrom_literal plain cs
  | placeholder name isName =>
    rw [Segment.text, toList_spelled, namesFrom_written isName, String.ofList_toList]
    rfl

theorem substituteFrom_segments (env : Environment) (segments : List Segment) :
    substituteFrom env 0 (segments.flatMap (·.text.toList)) =
      segments.flatMap fun segment => (segment.filled env).toList := by
  induction segments with
  | nil => rfl
  | cons segment segments ih => rw [List.flatMap_cons, substituteFrom_segment, ih, List.flatMap_cons]

theorem namesFrom_segments (segments : List Segment) :
    namesFrom 0 (segments.flatMap (·.text.toList)) = segments.filterMap Segment.name? := by
  induction segments with
  | nil => rfl
  | cons segment segments ih =>
    rw [List.flatMap_cons, namesFrom_segment, ih, List.filterMap_cons]
    cases segment <;> rfl

theorem substituteFrom_of_unset (cs : List Char) (h : ∀ name ∈ namesFrom 0 cs, env name = none) :
    substituteFrom env 0 cs = cs := by
  induction cs using passInduction with
  | nil => rfl
  | plain c cs hn ih =>
    rw [namesFrom_plain hn] at h
    rw [substituteFrom_plain env hn, ih h]
  | placeholder name cs hname ih =>
    rw [namesFrom_written hname, List.forall_mem_cons] at h
    rw [substituteFrom_written env hname, ih h.2, value, h.1]

/-- A single placeholder gives way to its value, whatever the value looks like. -/
theorem substitute_between {front name back v : String} (hname : IsName name.toList) (hf : '$' ∉ front.toList)
    (hb : '$' ∉ back.toList) (hv : env name = some v) :
    substitute env (front ++ spelled name ++ back) = front ++ v ++ back := by
  have hend := substituteFrom_literal env hb []
  rw [List.append_nil, substituteFrom, List.append_nil] at hend
  rw [← String.toList_inj, substitute, String.toList_ofList, String.toList_append, String.toList_append,
    toList_spelled, List.append_assoc, substituteFrom_literal env hf, substituteFrom_written env hname, hend,
    value, String.ofList_toList, hv, String.toList_append, String.toList_append, List.append_assoc]

/-- The names that the pass over a text looks up. -/
def names (s : String) : List String := namesFrom 0 s.toList

/-- Substitution works part by part, and nothing happens to a text none of whose names is set. -/
theorem substitute_single_pass (env : Environment) :
    (∀ segments : List Segment,
      substitute env (String.join (segments.map Segment.text)) =
        String.join (segments.map (Segment.filled env)) ∧
      names (String.join (segments.map Segment.text)) = segments.filterMap Segment.name?) ∧
    ∀ s : String, (∀ name ∈ names s, env name = none) → substitute env s = s := by
  refine ⟨fun segments => ⟨?_, ?_⟩, fun s h => ?_⟩
  · rw [← String.toList_inj, substitute, String.toList_ofList, String.toList_join, String.toList_join,
      List.flatMap_map, List.flatMap_map, substituteFrom_segments]
  · rw [names, String.toList_join, List.flatMap_map, namesFrom_segments]
  · rw [substitute, substituteFrom_of_unset s.toList h, String.ofList_toList]

/-- A value that looks like a placeholder stays, although its name is set; in the second text the
pass meets an empty pair of braces, a name with an opening brace in it and one that is not closed. -/
theorem substitute_single_pass_past_nested :
    let env : Environment := fun name =>
      if name = "A" then some (spelled "B") else if name = "B" then some "x" else none
    let nested := String.ofList ['$', '{', '}', ' ', '$', '$', '{', 'A', '$', '{', 'B', '}', ' ', '$', '{', 'A']
    (∃ a b c : Segment, a.text = spelled "A" ∧ b.text = "/" ∧ c.text = spelled "C" ∧
      substitute env (String.join [a.text, b.text, c.text]) = spelled "B" ++ "/" ++ spelled "C") ∧
    names nested = [String.ofList ['A', '$', '{', 'B']] ∧ substitute env nested = nested := by
  intro env nested
  obtain ⟨hparts, hunset⟩ := substitute_single_pass env
  let a : Segment := .placeholder "A" ⟨by decide, by decide⟩
  let b : Segment := .literal "/" (by decide)
  let c : Segment := .placeholder "C" ⟨by decide, by decide⟩
  have hnames : names nested = [String.ofList ['A', '$', '{', 'B']] := by decide
  refine ⟨⟨a, b, c, rfl, rfl, rfl, (hparts [a, b, c]).1.trans (by decide)⟩, hnames, hunset nested ?_⟩
  rw [hnames]
  decide

/-- A value with nothing in it that belongs to a placeholder. -/
structure IsPlain (v : List Char) : Prop where
  ne_nil : v ≠ []
  no_dollar : '$' ∉ v
  no_opening : '{' ∉ v
  no_closing : '}' ∉ v

def PlainValued (env : Environment) : Prop := ∀ name v, env name = some v → IsPlain v.toList

theorem substituteFrom_unclosed (env : Environment) (cs : List Char) (h : '}' ∉ cs) :
    substituteFrom env 0 cs = cs := by
  induction cs using passInduction with
  | nil => rfl
  | plain c cs hn ih => rw [substituteFrom_plain env hn, ih (List.not_mem_of_not_mem_cons h)]
  | placeholder name cs hname ih => exact absurd (by simp [written]) h

theorem value_starts (henv : PlainValued env) (name : List Char) : ∃ c v, value env name = c :: v ∧ c ≠ '{' := by
  rw [value]
  cases hv : env (String.ofList name) with
  | none => exact ⟨'$', _, rfl, by decide⟩
  | some v =>
    have hplain := henv _ v hv
    cases hcs : v.toList with
    | nil => exact absurd hcs hplain.ne_nil
    | cons c cs =>
      have hopening := hplain.no_opening
      rw [hcs, List.mem_cons, not_or] at hopening
      exact ⟨c, cs, hcs, Ne.symm hopening.1⟩

theorem substituteFrom_eq_brace (henv : PlainValued env) {out : List Char}
    (h : substituteFrom env 0 cs = '{' :: out) : ∃ rest, cs = '{' :: rest := by
  induction cs using passInduction with
  | nil => cases h
  | plain c cs hn ih =>
    rw [substituteFrom_plain env hn, List.cons.injEq] at h
    exact ⟨cs, by rw [h.1]⟩
  | placeholder name cs hname ih =>
    obtain ⟨c, v, hv, hc⟩ := value_starts henv name
    rw [substituteFrom_written env hname, hv, List.cons_append, List.cons.injEq] at h
    exact absurd h.1 hc

/-- A dollar sign and an opening brace are plain text before a closing brace, or when none follows. -/
theorem nameAt?_opening_eq_none_iff :
    nameAt? ('$' :: '{' :: cs) = none ↔ cs.head? = some '}' ∨ '}' ∉ cs := by
  constructor
  · intro h
    by_contra hclosed
    rw [not_or, not_not] at hclosed
    -- all up to the first closing brace would be a name
    obtain ⟨name, rest, rfl, hname⟩ := List.eq_append_cons_of_mem hclosed.2
    have hne : name ≠ [] := by
      rintro rfl
      exact hclosed.1 rfl
    have hopen := nameAt?_written ⟨hne, hname⟩ rest
    simp only [written, List.cons_append, List.append_assoc, List.nil_append] at hopen
    cases h.symm.trans hopen
  · intro h
    cases hn : nameAt? ('$' :: '{' :: cs) with
    | none => rfl
    | some name =>
      obtain ⟨⟨hne, hunclosed⟩, rest, he⟩ := nameAt?_eq_some hn
      have hcs : cs = name ++ '}' :: rest := by simpa [written] using he
      obtain ⟨c, name, rfl⟩ := List.exists_cons_of_ne_nil hne
      obtain hhead | hnot := h
      · rw [hcs, List.cons_append, List.head?_cons, Option.some_inj] at hhead
        exact absurd (hhead ▸ List.mem_cons_self) hunclosed
      · exact absurd (by simp [hcs]) hnot

/-- What opens no placeholder before the pass opens none after it. -/
theorem nameAt?_substituteFrom (henv : PlainValued env) (h : nameAt? (c :: cs) = none) :
    nameAt? (c :: substituteFrom env 0 cs) = none := by
  by_contra hopen
  obtain ⟨name, hn⟩ := Option.ne_none_iff_exists'.mp hopen
  obtain ⟨-, out, he⟩ := nameAt?_eq_some hn
  obtain ⟨rfl, hout⟩ := List.cons.inj he
  obtain ⟨rest, rfl⟩ := substituteFrom_eq_brace henv hout
  rw [substituteFrom_plain env (nameAt?_of_ne_dollar (by decide) rest)] at hopen
  rw [nameAt?_opening_eq_none_iff] at h hopen
  obtain hhead | hunclosed := h
  · obtain ⟨back, rfl⟩ := List.head?_eq_some_iff.mp hhead
    rw [substituteFrom_plain env (nameAt?_of_ne_dollar (by decide) back)] at hopen
    exact hopen (.inl rfl)
  · rw [substituteFrom_unclosed env rest hunclosed] at hopen
    exact hopen (.inr hunclosed)

/-- The pass leaves the placeholders without a value, and no others. -/
theorem namesFrom_substituteFrom (henv : PlainValued env) (cs : List Char) :
    namesFrom 0 (substituteFrom env 0 cs) = (namesFrom 0 cs).filter fun name => (env name).isNone := by
  induction cs using passInduction with
  | nil => rfl
  | plain c cs hn ih =>
    rw [substituteFrom_plain env hn, namesFrom_plain (nameAt?_substituteFrom henv hn), namesFrom_plain hn, ih]
  | placeholder name cs hname ih =>
    rw [substituteFrom_written env hname, namesFrom_written hname, value]
    cases hv : env (String.ofList name) with
    | none => rw [namesFrom_written hname, ih, List.filter_cons_of_pos (by simp [hv])]
    | some v =>
      rw [namesFrom_literal (henv _ v hv).no_dollar, ih, List.filter_cons_of_neg (by simp [hv])]

/-- With plain values a second pass changes nothing: what it meets are the placeholders of the text
whose names have no value. -/
theorem substitute_idempotent (henv : PlainValued env) (s : String) :
    substitute env (substitute env s) = substitute env s ∧
    names (substitute env s) = (names s).filter fun name => (env name).isNone := by
  have hnames : names (substitute env s) = (names s).filter fun name => (env name).isNone := by
    rw [names, substitute, String.toList_ofList, namesFrom_substituteFrom henv, names]
  refine ⟨?_, hnames⟩
  have hunset : substituteFrom env 0 (substitute env s).toList = (substitute env s).toList := by
    apply substituteFrom_of_unset
    intro name hname
    rw [← names, hnames, List.mem_filter] at hname
    exact Option.isNone_iff_eq_none.mp hname.2
  rw [← String.toList_inj, substitute, String.toList_ofList, hunset]

/-- The dollar sign before a value and the braces after it do not come together; an empty pair of
braces, a name with a placeholder in it and one that is not closed stay. -/
theorem substitute_idempotent_across_seams :
    let env : Environment := fun name => if name = "A" then some "x" else if name = "B" then some "y" else none
    let kept := ['{', 'B', '}', '$', '{', '}', '$', '{', 'C', '$', '{', 'A', '}', '$', '{']
    let s := "$" ++ spelled "A" ++ String.ofList kept
    let nested := String.ofList ['C', '$', '{', 'A']
    PlainValued env ∧ substitute env s = "$x" ++ String.ofList kept ∧
    substitute env (substitute env s) = substitute env s ∧ names s = ["A", nested] ∧
    names (substitute env s) = [nested] := by
  intro env kept s nested
  have henv : PlainValued env := by
    intro name v hv
    have hcases : v = "x" ∨ v = "y" := by
      dsimp only [env] at hv
      split at hv
      · exact .inl (Option.some.inj hv).symm
      · split at hv
        · exact .inr (Option.some.inj hv).symm
        · cases hv
    obtain rfl | rfl := hcases <;> exact ⟨by decide, by decide, by decide, by decide⟩
  obtain ⟨hsecond, hnames⟩ := substitute_idempotent henv s
  exact ⟨henv, by decide, hsecond, by decide, hnames.trans (by decide)⟩

end Passbook.Placeholder
