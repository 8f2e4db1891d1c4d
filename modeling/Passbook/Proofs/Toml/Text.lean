import Mathlib.Data.List.Infix
import Mathlib.Data.List.TakeWhile
import Passbook.Toml.Reader

/-! # Quoted texts

Between double quotes most characters stand for themselves. A text of such characters is read as it
is, and only such a text is: an escape takes more characters than it gives, and so do the longer
quotes of a text over several lines.
-/
namespace Passbook.Toml

open Text

variable {cs xs rest : List Char} {fuel : Nat} {x mark : Char}

/-- The characters that stand for themselves between double quotes. -/
def isBare (c : Char) : Bool := isPlain c && c != '"' && c != '\\'

theorem isBare_iff {c : Char} : isBare c = true ↔ isPlain c = true ∧ c ≠ '"' ∧ c ≠ '\\' := by
  simp [isBare, and_assoc]

theorem basic_bare (h : ∀ c ∈ cs, isBare c = true) (hf : cs.length < fuel) (rest : List Char) :
    basic fuel (cs ++ '"' :: rest) = some (cs, rest) := by
  induction cs generalizing fuel with
  | nil =>
    obtain ⟨fuel, rfl⟩ := Nat.exists_eq_add_of_lt hf
    rfl
  | cons c cs ih =>
    rw [List.length_cons] at hf
    obtain ⟨fuel, rfl⟩ : ∃ k, fuel = k + 1 := Nat.exists_eq_succ_of_ne_zero (by omega)
    rw [List.forall_mem_cons] at h
    obtain ⟨hplain, hquote, hescape⟩ := isBare_iff.mp h.1
    have hrest : basic fuel (cs ++ '"' :: rest) = some (cs, rest) := ih h.2 (by omega)
    rw [List.cons_append, basic]
    simp [hplain, hquote, hescape, hrest]

theorem codePoint_eq_some {digits : List Char} {width : Nat} (h : codePoint digits width = some x) :
    '\n' ∉ digits := by
  unfold codePoint at h
  split at h
  · rename_i hd
    rw [Bool.and_eq_true, List.all_eq_true] at hd
    intro hmem
    cases hd.2 _ hmem
  · cases h

theorem escaped_eq_some (h : escaped cs = some (x, rest)) : ∃ code, cs = code ++ rest ∧ code ≠ [] ∧ '\n' ∉ code := by
  cases cs with
  | nil => cases h
  | cons c cs =>
    have hc : c ≠ '\n' := by
      rintro rfl
      simp [escaped] at h
    have hletter : ∃ code, c :: cs = code ++ cs ∧ code ≠ [] ∧ '\n' ∉ code :=
      ⟨[c], rfl, List.cons_ne_nil _ _, by simpa using Ne.symm hc⟩
    have hcode (width : Nat) (h : (codePoint (cs.take width) width).map (·, cs.drop width) = some (x, rest)) :
        ∃ code, c :: cs = code ++ rest ∧ code ≠ [] ∧ '\n' ∉ code := by
      obtain ⟨y, hy, he⟩ := Option.map_eq_some_iff.mp h
      cases he
      refine ⟨c :: cs.take width, by simp, List.cons_ne_nil _ _, ?_⟩
      rw [List.mem_cons, not_or]
      exact ⟨Ne.symm hc, codePoint_eq_some hy⟩
    rw [escaped] at h
    iterate 8
      rcases ite_eq_iff.mp h with ⟨-, h⟩ | ⟨-, h⟩
      · cases h
        exact hletter
    iterate 3
      rcases ite_eq_iff.mp h with ⟨-, h⟩ | ⟨-, h⟩
      · exact hcode _ h
    cases h

/-- A text on one line comes from as many characters as it has, or from more if any of them is not
taken as it is. -/
theorem basic_eq_some (h : basic fuel cs = some (xs, rest)) :
    ∃ raw, cs = raw ++ '"' :: rest ∧ '\n' ∉ raw ∧ xs.length ≤ raw.length ∧
      (raw.length ≤ xs.length → ∀ c ∈ raw, isBare c = true) := by
  induction fuel generalizing cs xs with
  | zero => cases h
  | succ fuel ih =>
    cases cs with
    | nil => cases h
    | cons c cs =>
      rw [basic] at h
      split at h
      · rename_i hquote
        cases h
        exact ⟨[], by rw [eq_of_beq hquote]; rfl, by simp, le_rfl, by simp⟩
      · rename_i hquote
        split at h
        · rename_i hescape
          obtain ⟨⟨x, after⟩, hx, h⟩ := Option.bind_eq_some_iff.mp h
          obtain ⟨⟨ys, last⟩, hys, h⟩ := Option.bind_eq_some_iff.mp h
          cases h
          obtain ⟨code, rfl, hne, hline⟩ := escaped_eq_some hx
          obtain ⟨raw, rfl, hraw, hle, -⟩ := ih hys
          have hpos := List.length_pos_iff.mpr hne
          refine ⟨c :: (code ++ raw), by simp, ?_, ?_, fun hge => ?_⟩
          · rw [List.mem_cons, List.mem_append, eq_of_beq hescape]
            simp [hline, hraw]
          · simp only [List.length_cons, List.length_append]
            omega
          · simp only [List.length_cons, List.length_append] at hge
            omega
        · rename_i hescape
          split at h
          · rename_i hplain
            obtain ⟨⟨ys, last⟩, hys, h⟩ := Option.bind_eq_some_iff.mp h
            cases h
            obtain ⟨raw, rfl, hraw, hle, hbare⟩ := ih hys
            have hc : isBare c = true := isBare_iff.mpr ⟨hplain, by simpa using hquote, by simpa using hescape⟩
            refine ⟨c :: raw, rfl, ?_, Nat.succ_le_succ hle, fun hge => ?_⟩
            · rw [List.mem_cons, not_or]
              refine ⟨?_, hraw⟩
              rintro rfl
              cases hc
            · exact List.forall_mem_cons.mpr ⟨hc, hbare (Nat.le_of_succ_le_succ hge)⟩
          · cases h

theorem closing_eq_some (h : closing mark cs = some (xs, rest)) : cs = xs ++ mark :: mark :: mark :: rest := by
  unfold closing at h
  dsimp only at h
  split at h
  · rename_i hcount
    cases h
    generalize hn : (cs.takeWhile (· == mark)).length = count at hcount ⊢
    have hmarks : cs.takeWhile (· == mark) = List.replicate count mark := by
      refine List.eq_replicate_iff.mpr ⟨hn, fun c hc => ?_⟩
      simpa using List.mem_takeWhile_imp hc
    generalize he : min (count - 3) 2 = extra
    have htake : cs.take (3 + extra) = List.replicate (3 + extra) mark := by
      rw [← List.takeWhile_append_dropWhile (p := (· == mark)) (l := cs), hmarks,
        List.take_append_of_le_length (by rw [List.length_replicate]; omega), List.take_replicate,
        Nat.min_eq_left (by omega)]
    calc cs = cs.take (3 + extra) ++ cs.drop (3 + extra) := (List.take_append_drop _ _).symm
      _ = List.replicate (extra + 3) mark ++ cs.drop (3 + extra) := by rw [htake, Nat.add_comm]
      _ = List.replicate extra mark ++ mark :: mark :: mark :: cs.drop (3 + extra) := by
        rw [List.replicate_add, List.append_assoc]
        rfl
  · cases h

theorem lineBreak?_eq_some (h : lineBreak? cs = some rest) : rest <:+ cs := by
  unfold lineBreak? at h
  split at h
  · cases h
    exact List.suffix_cons _ _
  · cases h
    exact ⟨['\r', '\n'], rfl⟩
  · cases h

theorem dropSpace_suffix (cs : List Char) : continued.dropSpace cs <:+ cs := by
  fun_induction continued.dropSpace cs with
  | case1 => exact List.suffix_rfl
  | case2 cs ih => exact ih.trans ⟨['\r', '\n'], rfl⟩
  | case3 c cs _ _ ih => exact ih.trans (List.suffix_cons _ _)
  | case4 => exact List.suffix_rfl

theorem continued_eq_some (h : continued cs = some rest) : rest <:+ cs := by
  obtain ⟨next, hnext, rfl⟩ := Option.map_eq_some_iff.mp h
  exact (dropSpace_suffix next).trans ((lineBreak?_eq_some hnext).trans (List.dropWhile_suffix _))

/-- Three marks end what is read, before them stand so many characters at least. -/
def EndsAfter (mark : Char) (rest : List Char) (count : Nat) (cs : List Char) : Prop :=
  ∃ raw, cs = raw ++ mark :: mark :: mark :: rest ∧ count ≤ raw.length

theorem EndsAfter.append {count more : Nat} (h : EndsAfter mark rest count cs) (before : List Char)
    (hm : more ≤ before.length + count) : EndsAfter mark rest more (before ++ cs) := by
  obtain ⟨raw, rfl, hle⟩ := h
  refine ⟨before ++ raw, by simp, ?_⟩
  rw [List.length_append]
  omega

theorem block_eq_some (h : block mark fuel cs = some (xs, rest)) : EndsAfter mark rest xs.length cs := by
  induction fuel generalizing cs xs with
  | zero => cases h
  | succ fuel ih =>
    cases cs with
    | nil => cases h
    | cons c cs =>
      unfold block at h
      split at h
      · rename_i hclosing
        cases h
        split at hclosing
        · exact ⟨xs, closing_eq_some hclosing, le_rfl⟩
        · cases hclosing
      · split at h
        · split at h
          · rename_i next hnext
            obtain ⟨dropped, rfl⟩ := continued_eq_some hnext
            exact (ih h).append (c :: dropped) (by simp)
          · obtain ⟨⟨x, after⟩, hx, h⟩ := Option.bind_eq_some_iff.mp h
            obtain ⟨⟨ys, last⟩, hys, h⟩ := Option.bind_eq_some_iff.mp h
            cases h
            obtain ⟨code, rfl, -, -⟩ := escaped_eq_some hx
            exact (ih hys).append (c :: code) (by simp only [List.length_cons]; omega)
        · split at h
          · split at h
            · obtain ⟨⟨ys, last⟩, hys, h⟩ := Option.bind_eq_some_iff.mp h
              cases h
              exact (ih hys).append [c, '\n'] (by simp only [List.length_cons, List.length_nil]; omega)
            · cases h
          · split at h
            · obtain ⟨⟨ys, last⟩, hys, h⟩ := Option.bind_eq_some_iff.mp h
              cases h
              exact (ih hys).append [c] (by simp only [List.length_cons, List.length_nil]; omega)
            · cases h

theorem readBlock_eq_some (h : readBlock mark cs = some (xs, rest)) : EndsAfter mark rest xs.length cs := by
  have hblock := block_eq_some h
  cases hbreak : lineBreak? cs with
  | none => rwa [hbreak] at hblock
  | some next =>
    rw [hbreak] at hblock
    obtain ⟨dropped, rfl⟩ := lineBreak?_eq_some hbreak
    exact hblock.append dropped (Nat.le_add_left _ _)

theorem readText_bare (h : ∀ c ∈ cs, isBare c = true) (hr : rest.head? ≠ some '"') :
    readText ('"' :: (cs ++ '"' :: rest)) = some (cs, rest) := by
  have hbasic : basic ((cs ++ '"' :: rest).length + 1) (cs ++ '"' :: rest) = some (cs, rest) :=
    basic_bare h (by rw [List.length_append]; omega) rest
  unfold readText
  split
  · rename_i after he
    -- only an empty text could start with three quotes
    cases cs with
    | nil =>
      rw [List.nil_append, List.cons.injEq, List.cons.injEq] at he
      rw [he.2.2] at hr
      exact absurd rfl hr
    | cons c cs =>
      rw [List.cons_append, List.cons.injEq, List.cons.injEq] at he
      exact absurd he.2.1 (isBare_iff.mp (h c List.mem_cons_self)).2.1
  · rename_i he
    cases he
  · rename_i he
    cases he
    exact hbasic
  · rename_i he
    cases he
  · rename_i hquote _
    exact absurd rfl (hquote _)

/-- What is read as it stands, up to the quote that ends the line, is bare. There are too few quotes
after it for a text over several lines. -/
theorem bare_of_readText {tail : List Char} (h : readText ('"' :: (cs ++ '"' :: '\n' :: tail)) = some (cs, rest))
    (ht : tail.count '"' ≤ 2) : ∀ c ∈ cs, isBare c = true := by
  unfold readText at h
  split at h
  · rename_i after he
    obtain ⟨raw, rfl, hle⟩ := readBlock_eq_some h
    have htail : tail = raw.drop cs.length ++ '"' :: '"' :: '"' :: rest := by
      have hdrop := congrArg (List.drop (cs.length + 3)) he
      simp only [List.drop_succ_cons, List.drop_append_of_le_length hle] at hdrop
      rw [← hdrop]
      simp
    rw [htail, List.count_append] at ht
    simp at ht
    omega
  · rename_i he
    cases he
  · rename_i he
    cases he
    obtain ⟨raw, he, hline, hle, hbare⟩ := basic_eq_some h
    have hraw : raw = cs := by
      rcases List.append_eq_append_iff.mp he with ⟨more, rfl, hmore⟩ | ⟨more, rfl, -⟩
      · rcases List.cons_eq_append_iff.mp hmore with ⟨rfl, -⟩ | ⟨line, rfl, hbreak⟩
        · exact List.append_nil cs
        · -- the reader would have gone past the end of the line
          rcases List.cons_eq_append_iff.mp hbreak with ⟨rfl, hend⟩ | ⟨next, rfl, -⟩
          · cases hend
          · simp at hline
      · rw [List.length_append] at hle
        rw [List.length_eq_zero_iff.mp (by omega : more.length = 0), List.append_nil]
    rw [hraw] at hbare
    exact hbare le_rfl
  · rename_i he
    cases he
  · cases h

end Passbook.Toml
