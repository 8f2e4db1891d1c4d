import Passbook.Decimal.Currency
import Passbook.Proofs.Decimal.Sum
import Passbook.Proofs.Decimal.Text
import Passbook.Proofs.Text.Blank

/-! # What currency text says

Currency text is written in two stages: digits beyond the hundredths are rounded away, then zeros
are filled in. The first stage fixes the value, which is the nearest whole number of cents; the
second one has no part in it. It only decides how many places are shown, and it stops early when
the coefficient has no more room, whatever the value is.
-/
namespace Passbook.Decimal

open Text

variable {d v w : Decimal} {n : ℤ}

theorem toCents_of_scale_le (h : d.scale ≤ currencyPlaces) : d.toCents = d := if_pos h

theorem scale_toCents_le (d : Decimal) : d.toCents.scale ≤ currencyPlaces := by
  unfold toCents
  split
  · assumption
  · exact le_rfl

/-- The value is a whole number of cents, the nearest one. -/
theorem value_toCents (h : IsNearest (d.value * 100) n) : d.toCents.value = n / 100 := by
  by_cases hs : d.scale ≤ currencyPlaces
  · have hc : (d.coefficientAt currencyPlaces : ℚ) = d.value * 100 := by
      rw [cast_coefficientAt hs]
      norm_num [currencyPlaces]
    rw [← hc] at h
    rw [toCents_of_scale_le hs, h.eq_of_intCast, hc]
    ring
  · have hdrop := isNearest_dropDigits_at d.coefficient (d.scale - currencyPlaces) currencyPlaces
    have hvalue : (d.coefficient : ℚ) / 10 ^ (d.scale - currencyPlaces + currencyPlaces) = d.value := by
      rw [Nat.sub_add_cancel (by omega), value]
    have hpow : (10 : ℚ) ^ currencyPlaces = 100 := by norm_num [currencyPlaces]
    rw [hvalue, hpow] at hdrop
    rw [toCents, if_neg hs, value, h.unique hdrop, hpow]

/-- Zeros are filled in as long as they fit, and the value stays. -/
theorem roundsTo_widen (d : Decimal) (steps : ℕ) (h : d.scale + steps ≤ maxScale) :
    RoundsTo d.value (d.scale + steps) (d.widen steps) := by
  fun_induction widen d steps with
  | case1 d => exact .self d
  | case2 d steps wider hw ih =>
    obtain ⟨hc, hs⟩ := ofParts?_eq_some hw
    have hvalue : wider.value = d.value := by
      rw [value, value, hc, hs, pow_succ]
      push_cast
      field_simp
    have hscale : wider.scale + steps = d.scale + (steps + 1) := by omega
    have hr := ih (by omega)
    rwa [hvalue, hscale] at hr
  | case3 d steps hw =>
    have hn : IsNearest (d.value * 10 ^ (d.scale + 1)) (d.coefficient * 10) := by
      rw [pow_succ, ← mul_assoc, value_mul_pow_scale]
      exact_mod_cast IsNearest.intCast (d.coefficient * 10)
    have ho : Overflows d.value (d.scale + 1) := overflows_of_ofParts? hn (by omega) hw
    exact ⟨by omega, (RoundsTo.self d).nearest, fun s hlt _ => ho.mono hlt⟩

theorem roundsTo_rounded (d : Decimal) : RoundsTo d.toCents.value currencyPlaces d.rounded := by
  have hs := d.scale_toCents_le
  have hr := roundsTo_widen d.toCents (currencyPlaces - d.toCents.scale)
  rw [Nat.add_sub_cancel' hs] at hr
  exact hr (by decide)

theorem value_rounded_eq_toCents (d : Decimal) : d.rounded.value = d.toCents.value :=
  d.roundsTo_rounded.value_eq d.scale_toCents_le (value_mul_pow_scale _) d.toCents.coefficient_lt

theorem value_rounded (h : IsNearest (d.value * 100) n) : d.rounded.value = n / 100 := by
  rw [value_rounded_eq_toCents, value_toCents h]

theorem rounded_rounded (d : Decimal) : d.rounded.rounded = d.rounded := by
  have hagain := d.rounded.roundsTo_rounded
  rw [toCents_of_scale_le d.roundsTo_rounded.scale_le, value_rounded_eq_toCents] at hagain
  exact hagain.unique d.roundsTo_rounded

theorem value_rounded_le (h : v ≤ w) : v.rounded.value ≤ w.rounded.value := by
  obtain ⟨m, hm⟩ := exists_isNearest (v.value * 100)
  obtain ⟨n, hn⟩ := exists_isNearest (w.value * 100)
  have hle : m ≤ n := by
    refine hm.le_of_le hn ?_
    have hv := value_le_value.mpr h
    linarith
  rw [value_rounded hm, value_rounded hn]
  gcongr

/-- Both places are there unless the number of cents is too large for a coefficient. -/
theorem scale_rounded_eq_iff (d : Decimal) :
    d.rounded.scale = currencyPlaces ↔ |d.value| * 100 < (limit : ℚ) - 1 / 2 := by
  obtain ⟨n, hn⟩ := exists_isNearest (d.value * 100)
  have hr := d.roundsTo_rounded
  have hcents : d.toCents.value * 10 ^ currencyPlaces = n := by
    rw [value_toCents hn]
    norm_num [currencyPlaces]
  have hover : Overflows d.toCents.value currencyPlaces ↔ (limit : ℚ) - 1 / 2 ≤ |d.value| * 100 := by
    have habs : |d.value| * 100 = |d.value * 100| := by
      rw [abs_mul, abs_of_pos (by norm_num : (0 : ℚ) < 100)]
    rw [habs, ← hn.le_natAbs_iff even_limit]
    constructor
    · intro ho
      exact ho n (hcents ▸ .intCast n)
    · intro hle m hm
      rw [hcents] at hm
      rwa [hm.eq_of_intCast]
  rw [← not_le, ← hover]
  constructor
  · intro hs
    rw [← hs]
    exact hr.not_overflows
  · intro hno
    by_contra hne
    exact hno (hr.fewest currencyPlaces (lt_of_le_of_ne hr.scale_le hne) le_rfl)

theorem read_currency (d : Decimal) : read d.currency = .ok d.rounded := read_text d.rounded

theorem minus_mem_text (d : Decimal) : '-' ∈ d.text.toList ↔ d.value < 0 := by
  have hpos : (0 : ℚ) < 10 ^ d.scale := by positivity
  have hvalue : d.value < 0 ↔ d.coefficient < 0 := by
    rw [value, div_lt_iff₀ hpos, zero_mul]
    exact_mod_cast Iff.rfl
  have hdigits : '-' ∉ magnitudeChars d.coefficient.natAbs d.scale := by
    intro h
    rcases mem_magnitudeChars h with h | h
    · cases h
    · cases h
  rw [hvalue, text, String.toList_ofList, chars]
  split
  · rename_i hneg
    exact iff_of_true List.mem_cons_self hneg
  · rename_i hneg
    exact iff_of_false hdigits hneg

/-- Currency text stands for the nearest whole number of cents, an even one on a tie, and only an
amount below zero has a minus sign. So it is monotone, and to format it again changes nothing. -/
theorem currency_rounds_half_even (v : Decimal) : ∃ (shown : Decimal) (cents : ℤ),
    read v.currency = .ok shown ∧ shown.value = cents / 100 ∧ IsNearest (v.value * 100) cents ∧
    ('-' ∈ v.currency.toList ↔ cents < 0) ∧ shown.currency = v.currency ∧
    ∀ w shown', v ≤ w → read w.currency = .ok shown' → shown.value ≤ shown'.value := by
  obtain ⟨n, hn⟩ := exists_isNearest (v.value * 100)
  have hvalue : v.rounded.value = n / 100 := value_rounded hn
  refine ⟨v.rounded, n, v.read_currency, hvalue, hn, ?_, congrArg text v.rounded_rounded, ?_⟩
  · rw [currency, minus_mem_text, hvalue, div_lt_iff₀ (by norm_num), zero_mul]
    exact_mod_cast Iff.rfl
  · intro w shown' hle hread
    cases w.read_currency.symm.trans hread
    exact value_rounded_le hle

/-- Half a cent owed is nothing, without a minus sign, and one cent and a half is two cents. -/
theorem currency_rounds_half_even_on_ties :
    let owed : Decimal := ⟨-5, 3, by decide, by decide⟩
    let paid : Decimal := ⟨15, 3, by decide, by decide⟩
    owed ≤ paid ∧ ∃ shown shown', read owed.currency = .ok shown ∧ read paid.currency = .ok shown' ∧
      shown.value = 0 ∧ '-' ∉ owed.currency.toList ∧ shown'.value = 2 / 100 ∧ shown.value ≤ shown'.value := by
  intro owed paid
  have hle : owed ≤ paid := by decide
  have howed : IsNearest (owed.value * 100) 0 := by
    rw [show owed.value * 100 = ((0 : ℤ) : ℚ) - 1 / 2 by norm_num [owed, value]]
    exact .of_sub_half Even.zero
  have hpaid : IsNearest (paid.value * 100) 2 := by
    rw [show paid.value * 100 = ((2 : ℤ) : ℚ) - 1 / 2 by norm_num [paid, value]]
    exact .of_sub_half even_two
  obtain ⟨shown, cents, hread, hvalue, hnear, hminus, -, hmono⟩ := currency_rounds_half_even owed
  obtain ⟨shown', cents', hread', hvalue', hnear', -⟩ := currency_rounds_half_even paid
  obtain rfl : cents = 0 := hnear.unique howed
  obtain rfl : cents' = 2 := hnear'.unique hpaid
  refine ⟨hle, shown, shown', hread, hread', ?_, ?_, ?_, hmono paid shown' hle hread'⟩
  · rw [hvalue]
    norm_num
  · rw [hminus]
    exact lt_irrefl 0
  · rw [hvalue']
    norm_num

/-- One decimal point, and two digits behind it. -/
def ShowsCents (s : String) : Prop := ∃ whole a b,
  s.toList = whole ++ ['.', a, b] ∧ '.' ∉ whole ∧ isDigit a = true ∧ isDigit b = true

theorem chars_eq (h : d.scale ≠ 0) : ∃ whole fraction, d.chars = whole ++ '.' :: fraction ∧
    '.' ∉ whole ∧ fraction.length = d.scale ∧ ∀ c ∈ fraction, isDigit c = true := by
  obtain ⟨whole, fraction, he, -, hl, hd, -⟩ := magnitudeChars_eq d.coefficient.natAbs h
  have hwhole : '.' ∉ whole := fun hp => by cases hd '.' (List.mem_append_left _ hp)
  have hfraction : ∀ c ∈ fraction, isDigit c = true := fun c hc => hd c (List.mem_append_right _ hc)
  by_cases hneg : d.coefficient < 0
  · refine ⟨'-' :: whole, fraction, by rw [chars, if_pos hneg, he, List.cons_append], ?_, hl, hfraction⟩
    simp [hwhole]
  · exact ⟨whole, fraction, by rw [chars, if_neg hneg, he], hwhole, hl, hfraction⟩

theorem point_not_mem_chars (h : d.scale = 0) : '.' ∉ d.chars := by
  have hdigits : '.' ∉ digits d.coefficient.natAbs := fun hp => by cases isDigit_of_mem_digits _ '.' hp
  rw [chars, magnitudeChars, if_pos h]
  split
  · simp [hdigits]
  · exact hdigits

theorem showsCents_text_iff (d : Decimal) : ShowsCents d.text ↔ d.scale = currencyPlaces := by
  rw [ShowsCents, text, String.toList_ofList]
  constructor
  · rintro ⟨whole, a, b, he, hwhole, -⟩
    by_cases hs : d.scale = 0
    · refine absurd ?_ (point_not_mem_chars hs)
      simp [he]
    · -- the text has one point only, so that the two ways to cut it at a point are the same
      obtain ⟨whole', fraction, he', hwhole', hl, -⟩ := chars_eq hs
      have hcut := splitFirst_append hwhole [a, b]
      rw [← he, he', splitFirst_append hwhole'] at hcut
      cases hcut
      exact hl.symm
  · intro hs
    have hs0 : d.scale ≠ 0 := by
      rw [hs]
      decide
    obtain ⟨whole, fraction, he, hwhole, hl, hfraction⟩ := chars_eq hs0
    obtain ⟨a, b, rfl⟩ : ∃ a b, fraction = [a, b] := List.length_eq_two.mp (hl.trans hs)
    exact ⟨whole, a, b, he, hwhole, hfraction a (by simp), hfraction b (by simp)⟩

theorem showsCents_currency_iff (d : Decimal) :
    ShowsCents d.currency ↔ |d.value| * 100 < (limit : ℚ) - 1 / 2 := by
  rw [currency, showsCents_text_iff, scale_rounded_eq_iff]

end Passbook.Decimal
