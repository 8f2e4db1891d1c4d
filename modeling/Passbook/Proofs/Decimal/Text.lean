import Passbook.Decimal.Printer
import Passbook.Decimal.Reader

/-! # Decimal text is read back

The text of a decimal holds the digits of its coefficient and puts the point where the scale says.
The reader takes in one digit after the other; as long as the number read so far is in range,
nothing is rounded, so that coefficient, sign and scale come out as they went in.
-/
namespace Passbook

namespace Text
variable {cs ds : List Char}

theorem foldl_digits (n : Nat) (cs : List Char) :
    cs.foldl (fun n c => 10 * n + digitValue c) n = n * pow10 cs.length + digitsValue cs := by
  induction cs generalizing n with
  | nil => simp [digitsValue]
  | cons c cs ih =>
    rw [digitsValue, List.foldl_cons, List.foldl_cons, ih, ih, List.length_cons, pow10_succ,
      Nat.mul_zero, Nat.zero_add, Nat.add_mul, Nat.mul_comm (pow10 _) 10, ← Nat.mul_assoc, Nat.mul_comm n 10]
    omega

theorem digitsValue_cons (c : Char) (cs : List Char) :
    digitsValue (c :: cs) = digitValue c * pow10 cs.length + digitsValue cs := by
  rw [digitsValue, List.foldl_cons, foldl_digits, Nat.mul_zero, Nat.zero_add]

theorem digitsValue_append (cs ds : List Char) :
    digitsValue (cs ++ ds) = digitsValue cs * pow10 ds.length + digitsValue ds := by
  induction cs with
  | nil => simp [digitsValue]
  | cons c cs ih =>
    rw [List.cons_append, digitsValue_cons, digitsValue_cons, ih, List.length_append, pow10_add,
      Nat.add_mul, ← Nat.mul_assoc, Nat.add_assoc]

theorem digitsValue_replicate_zero (k : Nat) : digitsValue (List.replicate k '0') = 0 := by
  induction k with
  | zero => rfl
  | succ k ih =>
    have h0 : digitValue '0' = 0 := rfl
    rw [List.replicate_succ, digitsValue_cons, ih, h0, Nat.zero_mul]

theorem digitsValue_padded (width n : Nat) : digitsValue (padded width n) = n := by
  rw [padded, digitsValue_append, digitsValue_replicate_zero, digitsValue_digits, Nat.zero_mul, Nat.zero_add]

theorem isDigit_of_mem_padded {width n : Nat} {c : Char} (h : c ∈ padded width n) : isDigit c = true := by
  rcases List.mem_append.mp h with h | h
  · rw [List.eq_of_mem_replicate h]
    rfl
  · exact isDigit_of_mem_digits n c h

theorem le_length_padded (width n : Nat) : width ≤ (padded width n).length := by
  rw [padded, List.length_append, List.length_replicate]
  omega

theorem ne_of_isDigit {c x : Char} (h : isDigit c = true) (hx : isDigit x = false) : c ≠ x := by
  rintro rfl
  rw [h] at hx
  cases hx

end Text

namespace Decimal
open Text
variable {n scale : Nat}

/-- At a positive scale the text is a whole part, the point and as many digits as the scale says. -/
theorem magnitudeChars_eq (n : Nat) (h : scale ≠ 0) : ∃ whole fraction,
    magnitudeChars n scale = whole ++ '.' :: fraction ∧ whole ≠ [] ∧ fraction.length = scale ∧
    (∀ c ∈ whole ++ fraction, isDigit c = true) ∧ digitsValue (whole ++ fraction) = n := by
  have hlen := le_length_padded (scale + 1) n
  refine ⟨_, _, by rw [magnitudeChars, if_neg h], ?_, ?_, ?_, ?_⟩
  · rw [ne_eq, ← List.length_eq_zero_iff, List.length_take]
    omega
  · rw [List.length_drop]
    omega
  · rw [List.take_append_drop]
    exact fun c => isDigit_of_mem_padded
  · rw [List.take_append_drop]
    exact digitsValue_padded _ n

theorem mem_magnitudeChars {c : Char} (h : c ∈ magnitudeChars n scale) : isDigit c = true ∨ c = '.' := by
  by_cases hs : scale = 0
  · rw [magnitudeChars, if_pos hs] at h
    exact Or.inl (isDigit_of_mem_digits n c h)
  · obtain ⟨whole, fraction, he, -, -, hd, -⟩ := magnitudeChars_eq n hs
    rw [he, List.mem_append, List.mem_cons] at h
    rcases h with h | rfl | h
    · exact Or.inl (hd c (List.mem_append_left _ h))
    · exact Or.inr rfl
    · exact Or.inl (hd c (List.mem_append_right _ h))

theorem magnitudeChars_eq_cons (n scale : Nat) : ∃ c cs, magnitudeChars n scale = c :: cs ∧ isDigit c = true := by
  by_cases hs : scale = 0
  · obtain ⟨c, cs, hc⟩ := List.exists_cons_of_ne_nil (digits_ne_nil n)
    refine ⟨c, cs, by rw [magnitudeChars, if_pos hs, hc], ?_⟩
    exact isDigit_of_mem_digits n c (by rw [hc]; exact List.mem_cons_self)
  · obtain ⟨whole, fraction, he, hne, -, hd, -⟩ := magnitudeChars_eq n hs
    obtain ⟨c, cs, rfl⟩ := List.exists_cons_of_ne_nil hne
    exact ⟨c, cs ++ '.' :: fraction, he, hd c List.mem_cons_self⟩

theorem chars_ne_nil (d : Decimal) : d.chars ≠ [] := by
  obtain ⟨c, cs, hc, -⟩ := magnitudeChars_eq_cons d.coefficient.natAbs d.scale
  rw [chars]
  split
  · exact List.cons_ne_nil _ _
  · rw [hc]
    exact List.cons_ne_nil _ _

theorem mem_chars {d : Decimal} {c : Char} (h : c ∈ d.chars) : isDigit c = true ∨ c = '.' ∨ c = '-' := by
  rw [chars] at h
  split at h
  · rcases List.mem_cons.mp h with rfl | h
    · exact Or.inr (Or.inr rfl)
    · exact (mem_magnitudeChars h).imp_right Or.inl
  · exact (mem_magnitudeChars h).imp_right Or.inl

namespace Scan

/-- The scan after more digits. -/
def push (s : Scan) (ds : List Char) : Scan :=
  { s with
    mantissa := s.mantissa * pow10 ds.length + digitsValue ds
    scale := if s.point then s.scale + ds.length else s.scale
    digit := s.digit || !ds.isEmpty }

@[simp] theorem push_nil (s : Scan) : s.push [] = s := by
  simp [push, digitsValue]

theorem push_cons (s : Scan) (c : Char) (ds : List Char) : s.push (c :: ds) = (s.push [c]).push ds := by
  have hm : s.mantissa * pow10 (ds.length + 1) + digitsValue (c :: ds) =
      (s.mantissa * pow10 1 + digitsValue [c]) * pow10 ds.length + digitsValue ds := by
    have h1 : pow10 1 = 10 := rfl
    have h2 : digitsValue [c] = digitValue c := by simp [digitsValue]
    rw [digitsValue_cons, pow10_succ, h1, h2, Nat.add_mul, Nat.mul_assoc s.mantissa 10, Nat.mul_comm 10,
      Nat.add_assoc]
  cases hp : s.point <;> simp [push, hm, hp, Nat.add_assoc, Nat.add_comm 1]

/-- Digits in range are taken in without rounding. -/
theorem run_append (s : Scan) (ds rest : List Char) (hd : ∀ c ∈ ds, isDigit c = true)
    (hm : (s.push ds).mantissa < limit) (hs : s.point = true → s.scale + ds.length ≤ maxScale) :
    s.run (ds ++ rest) = (s.push ds).run rest := by
  induction ds generalizing s with
  | nil => rw [push_nil, List.nil_append]
  | cons c ds ih =>
    rw [push_cons] at hm ⊢
    have hc : isDigit c = true := hd c List.mem_cons_self
    -- the number only grows, so it is in range after the first digit already
    have hle : (s.push [c]).mantissa ≤ ((s.push [c]).push ds).mantissa :=
      Nat.le_trans (Nat.le_mul_of_pos_right _ (pow10_pos _)) (Nat.le_add_right _ _)
    have hlt : s.mantissa * 10 + digitValue c < limit := by
      have he : (s.push [c]).mantissa = s.mantissa * 10 + digitValue c := by
        simp [push, digitsValue, pow10]
      omega
    have hroom : (s.point && s.scale == maxScale) = false := by
      cases hp : s.point with
      | false => rfl
      | true =>
        have := hs hp
        rw [List.length_cons] at this
        simp only [Bool.true_and, beq_eq_false_iff_ne, ne_eq]
        omega
    have hstep : s.run (c :: (ds ++ rest)) = (s.push [c]).run (ds ++ rest) := by
      rw [run, hroom]
      simp [hc, hlt, push, digitsValue, pow10]
    rw [List.cons_append, hstep]
    refine ih (s.push [c]) (fun x hx => hd x (List.mem_cons_of_mem c hx)) hm fun hp => ?_
    have hp' : s.point = true := hp
    have := hs hp'
    simp only [push, hp', List.length_cons, List.length_nil, ↓reduceIte] at this ⊢
    omega

theorem run_point (s : Scan) (cs : List Char) (h : s.point = false) :
    s.run ('.' :: cs) = { s with point := true }.run cs := by
  have hd : isDigit '.' = false := rfl
  rw [run]
  simp [h, hd]

end Scan

theorem run_magnitudeChars (hn : n < limit) (hs : scale ≤ maxScale) :
    ∃ s : Scan, Scan.run {} (magnitudeChars n scale) = .ok s ∧ s.mantissa = n ∧ s.scale = scale := by
  by_cases h0 : scale = 0
  · have hp : Scan.push {} (digits n) = { mantissa := n, digit := true } := by
      simp [Scan.push, digitsValue_digits, digits_ne_nil]
    have hr := Scan.run_append {} (digits n) [] (isDigit_of_mem_digits n) (by rw [hp]; exact hn) (by simp)
    rw [List.append_nil, hp] at hr
    exact ⟨_, by rw [magnitudeChars, if_pos h0, hr]; rfl, rfl, h0.symm⟩
  · obtain ⟨whole, fraction, he, hne, hl, hd, hv⟩ := magnitudeChars_eq n h0
    have hsum : digitsValue whole * pow10 scale + digitsValue fraction = n := by
      rw [← hl, ← digitsValue_append, hv]
    have hw : Scan.push {} whole = { mantissa := digitsValue whole, digit := true } := by
      simp [Scan.push, hne]
    have hle : digitsValue whole ≤ digitsValue whole * pow10 scale :=
      Nat.le_mul_of_pos_right _ (pow10_pos _)
    have h1 := Scan.run_append {} whole ('.' :: fraction) (fun c hc => hd c (List.mem_append_left _ hc))
      (by rw [hw]; exact (by omega : digitsValue whole < limit)) (by simp)
    rw [hw, Scan.run_point _ _ rfl] at h1
    -- the point is behind us: every further digit counts towards the scale
    let s : Scan := { mantissa := digitsValue whole, point := true, digit := true }
    have hf : s.push fraction = { mantissa := n, scale := scale, point := true, digit := true } := by
      simp [Scan.push, s, hsum, hl]
    have h2 := Scan.run_append s fraction [] (fun c hc => hd c (List.mem_append_right _ hc))
      (by rw [hf]; exact hn) (by simp [s, hl, hs])
    rw [List.append_nil, hf] at h2
    exact ⟨_, by rw [he, h1, h2]; rfl, rfl, rfl⟩

theorem readPlain_chars (d : Decimal) : readPlain d.chars = .ok d := by
  obtain ⟨s, hr, hm, hs⟩ := run_magnitudeChars d.coefficient_lt d.scale_le
  by_cases h : d.coefficient < 0
  · have hc : -(d.coefficient.natAbs : Int) = d.coefficient := by omega
    have ht : s.toDecimal true = .ok d := by
      simp only [Scan.toDecimal, hm, hs, hc, ofParts?_coefficient, ↓reduceIte]
    rw [chars, if_pos h, readPlain, hr]
    exact ht
  · have hc : (d.coefficient.natAbs : Int) = d.coefficient := by omega
    have ht : s.toDecimal false = .ok d := by
      simp only [Scan.toDecimal, hm, hs, hc, ofParts?_coefficient, Bool.false_eq_true, ↓reduceIte]
    obtain ⟨c, cs, he, hd⟩ := magnitudeChars_eq_cons d.coefficient.natAbs d.scale
    have h1 : (c == '-') = false := beq_false_of_ne (ne_of_isDigit hd rfl)
    have h2 : (c == '+') = false := beq_false_of_ne (ne_of_isDigit hd rfl)
    rw [he] at hr
    rw [chars, if_neg h, he, readPlain, h1, h2, hr]
    exact ht

theorem readChars_chars (d : Decimal) : readChars d.chars = .ok d := by
  rw [readChars, readPlain_chars]

theorem read_text (d : Decimal) : read d.text = .ok d := by
  rw [read, text, String.toList_ofList, readChars_chars]

theorem text_injective {d e : Decimal} (h : d.text = e.text) : d = e := by
  have hr := d.read_text
  rw [h, read_text] at hr
  exact (Except.ok.inj hr).symm

end Decimal

end Passbook
