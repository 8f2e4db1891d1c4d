import Passbook.Proofs.Decimal.Nearest

/-! # Sums that have to be rounded

A number that has too many digits is rounded to the largest scale at which the result is in
range. What this means is said here without the search for that scale, and the arithmetic is
shown to follow it. Such a number has a result unless it is within one half of the limit or
above. Rounding is exact whenever it can be, and it never passes a decimal on its way: the result
stands on the same side of every decimal as the number itself, although that decimal need not be
a multiple of the result's last digit.
-/
namespace Passbook.Decimal
variable {a b c d : Decimal} {x : ℚ} {s t scale : ℕ}

theorem even_limit : Even limit := by decide

theorem cast_limit : (limit : ℚ) = 2 ^ 96 := by
  rw [limit, pow2, Nat.pow_eq, Nat.cast_pow, Nat.cast_ofNat]

/-- Rounded at the scale, the number is too large for a coefficient. -/
def Overflows (x : ℚ) (scale : ℕ) : Prop := ∀ n, IsNearest (x * 10 ^ scale) n → limit ≤ n.natAbs

/-- `d` is the number rounded half to even at the largest scale up to `scale` where it fits. -/
structure RoundsTo (x : ℚ) (scale : ℕ) (d : Decimal) : Prop where
  scale_le : d.scale ≤ scale
  nearest : IsNearest (x * 10 ^ d.scale) d.coefficient
  fewest : ∀ s, d.scale < s → s ≤ scale → Overflows x s

theorem overflows_iff : Overflows x s ↔ (limit : ℚ) - 1 / 2 ≤ |x| * 10 ^ s := by
  have habs : |x * 10 ^ s| = |x| * 10 ^ s := by
    rw [abs_mul, abs_of_nonneg (by positivity : (0 : ℚ) ≤ 10 ^ s)]
  rw [← habs]
  constructor
  · intro h
    obtain ⟨n, hn⟩ := exists_isNearest (x * 10 ^ s)
    exact (hn.le_natAbs_iff even_limit).mp (h n hn)
  · intro h n hn
    exact (hn.le_natAbs_iff even_limit).mpr h

theorem Overflows.mono (h : Overflows x s) (hst : s ≤ t) : Overflows x t := by
  rw [overflows_iff] at *
  have hp : (10 : ℚ) ^ s ≤ 10 ^ t := pow_le_pow_right₀ (by norm_num) hst
  exact h.trans (mul_le_mul_of_nonneg_left hp (abs_nonneg x))

/-- At a scale up to its own, a decimal is smaller than the limit by at least one. -/
theorem abs_value_mul_pow_le (h : s ≤ d.scale) : |d.value| * 10 ^ s ≤ (limit : ℚ) - 1 := by
  have hc : |(d.coefficient : ℚ)| ≤ limit - 1 := by
    have hz : (d.coefficient.natAbs : ℤ) + 1 ≤ limit := by exact_mod_cast d.coefficient_lt
    rw [← Int.cast_abs, Int.abs_eq_natAbs, le_sub_iff_add_le]
    exact_mod_cast hz
  have hp : (10 : ℚ) ^ s ≤ 10 ^ d.scale := pow_le_pow_right₀ (by norm_num) h
  calc |d.value| * 10 ^ s ≤ |d.value| * 10 ^ d.scale := by gcongr
    _ = |(d.coefficient : ℚ)| := by
      rw [← value_mul_pow_scale, abs_mul, abs_of_nonneg (by positivity : (0 : ℚ) ≤ 10 ^ d.scale)]
    _ ≤ limit - 1 := hc

theorem abs_value_lt (d : Decimal) : |d.value| < (limit : ℚ) - 1 / 2 := by
  have h : |d.value| * 10 ^ 0 ≤ (limit : ℚ) - 1 := abs_value_mul_pow_le (Nat.zero_le _)
  rw [pow_zero, mul_one] at h
  linarith

/-- The limit ends in the digit 6. For this reason the smallest number that overflows is rounded
upwards when its last digit is dropped. -/
theorem exists_tenth_of_limit : ∃ m : ℤ, (limit : ℚ) / 10 ≤ m ∧ IsNearest (((limit : ℚ) - 1 / 2) / 10) m := by
  obtain ⟨k, hk⟩ : ∃ k, limit + 4 = 10 * k := ⟨(limit + 4) / 10, by decide⟩
  have hq : (limit : ℚ) + 4 = 10 * k := by exact_mod_cast hk
  have he : ((limit : ℚ) - 1 / 2) / 10 - ((k : ℤ) : ℚ) = -(9 / 20) := by
    rw [Int.cast_natCast]
    linarith
  refine ⟨k, ?_, ?_, ?_⟩
  · rw [Int.cast_natCast]
    linarith
  · rw [he, abs_neg]
    norm_num
  · rw [he, abs_neg]
    norm_num

namespace RoundsTo

theorem not_overflows (h : RoundsTo x scale d) : ¬ Overflows x d.scale := by
  intro ho
  have hd := ho _ h.nearest
  have hlt := d.coefficient_lt
  omega

theorem unique (hc : RoundsTo x scale c) (hd : RoundsTo x scale d) : c = d := by
  have hle : d.scale ≤ c.scale := by
    by_contra hlt
    exact hd.not_overflows (hc.fewest _ (by omega) hd.scale_le)
  have hge : c.scale ≤ d.scale := by
    by_contra hlt
    exact hc.not_overflows (hd.fewest _ (by omega) hc.scale_le)
  have hs : c.scale = d.scale := le_antisymm hge hle
  have hn := hc.nearest
  rw [hs] at hn
  exact Decimal.ext (hn.unique hd.nearest) hs

theorem self (d : Decimal) : RoundsTo d.value d.scale d := by
  refine ⟨le_rfl, ?_, fun s hlt hle => by omega⟩
  rw [value_mul_pow_scale]
  exact .intCast _

theorem neg (h : RoundsTo x scale d) : RoundsTo (-x) scale d.neg := by
  refine ⟨h.scale_le, ?_, ?_⟩
  · have hn := h.nearest.neg
    rwa [← neg_mul] at hn
  · intro s hd hs
    have ho := h.fewest s hd hs
    rw [overflows_iff] at *
    rwa [abs_neg]

/-- A number that some scale can hold is not rounded. -/
theorem value_eq (h : RoundsTo x scale d) {n : ℤ} (hs : s ≤ scale) (hx : x * 10 ^ s = n)
    (hn : n.natAbs < limit) : d.value = x := by
  have hle : s ≤ d.scale := by
    by_contra hlt
    have ho := h.fewest s (by omega) hs n (by rw [hx]; exact .intCast n)
    omega
  have hm : x * 10 ^ d.scale = ((n * 10 ^ (d.scale - s) : ℤ) : ℚ) := by
    have hp : (10 : ℚ) ^ d.scale = 10 ^ s * 10 ^ (d.scale - s) := by
      rw [← pow_add, Nat.add_sub_cancel' hle]
    rw [hp, ← mul_assoc, hx]
    push_cast
    rfl
  have hc : d.coefficient = n * 10 ^ (d.scale - s) := by
    have hnear := h.nearest
    rw [hm] at hnear
    exact hnear.eq_of_intCast
  rw [← hc, ← value_mul_pow_scale] at hm
  exact (mul_right_cancel₀ (by positivity) hm).symm

theorem value_eq_iff (h : RoundsTo x scale d) {n : ℤ} (hx : x * 10 ^ scale = n) :
    d.value = x ↔ ∃ e : Decimal, e.value = x := by
  constructor
  · intro he
    exact ⟨d, he⟩
  · rintro ⟨e, rfl⟩
    by_cases hs : e.scale ≤ scale
    · exact h.value_eq hs (value_mul_pow_scale e) e.coefficient_lt
    · -- a decimal with more digits than necessary: the digits beyond `scale` are zeros
      refine h.value_eq le_rfl hx ?_
      have hle : scale ≤ e.scale := by omega
      have hc : (e.coefficient : ℚ) = n * 10 ^ (e.scale - scale) := by
        rw [← value_mul_pow_scale, ← hx, mul_assoc, ← pow_add, Nat.add_sub_cancel' hle]
      have hz : e.coefficient = n * 10 ^ (e.scale - scale) := by exact_mod_cast hc
      have hlt := e.coefficient_lt
      rw [hz, Int.natAbs_mul] at hlt
      have hp : 0 < (10 ^ (e.scale - scale) : ℤ).natAbs := Int.natAbs_pos.mpr (by positivity)
      exact lt_of_le_of_lt (Nat.le_mul_of_pos_right _ hp) hlt

/-- A number that lost digits is larger than every decimal that still has them. -/
theorem abs_value_lt_abs (h : RoundsTo x scale d) (hs : d.scale < a.scale) (ha : a.scale ≤ scale) :
    |a.value| < |x| := by
  have ho : (limit : ℚ) - 1 / 2 ≤ |x| * 10 ^ a.scale := overflows_iff.mp (h.fewest _ hs ha)
  have hle : |a.value| * 10 ^ a.scale ≤ (limit : ℚ) - 1 := abs_value_mul_pow_le le_rfl
  refine lt_of_mul_lt_mul_right ?_ (by positivity : (0 : ℚ) ≤ 10 ^ a.scale)
  linarith

/-- A positive number that lost digits has a tenth of the limit for a coefficient, at least. -/
theorem limit_div_ten_le (h : RoundsTo x scale d) (hs : d.scale < scale) (hx : 0 ≤ x) :
    (limit : ℚ) / 10 ≤ d.coefficient := by
  have ho : (limit : ℚ) - 1 / 2 ≤ x * 10 ^ d.scale * 10 := by
    have ho := overflows_iff.mp (h.fewest (d.scale + 1) (by omega) hs)
    rwa [abs_of_nonneg hx, pow_succ, ← mul_assoc] at ho
  obtain ⟨m, hm, hnear⟩ := exists_tenth_of_limit
  have hmd : m ≤ d.coefficient := hnear.le_of_le h.nearest (by linarith)
  exact hm.trans (by exact_mod_cast hmd)

/-- A decimal of few enough digits that is not above the number is not above the result. -/
theorem le_value (h : RoundsTo x scale d) (ha : a.scale ≤ scale) (hle : a.value ≤ x) :
    a.value ≤ d.value := by
  have hpos : (0 : ℚ) < 10 ^ d.scale := by positivity
  refine le_of_mul_le_mul_right ?_ hpos
  rw [value_mul_pow_scale]
  rcases Nat.lt_or_ge d.scale a.scale with hs | hs
  · have hx : 0 ≤ x := by
      have hlt := h.abs_value_lt_abs hs ha
      by_contra hneg
      rw [abs_of_neg (not_le.mp hneg)] at hlt
      have hna := neg_le_abs a.value
      linarith
    have htenth := h.limit_div_ten_le (by omega) hx
    have hbound : |a.value| * 10 ^ (d.scale + 1) ≤ limit - 1 := abs_value_mul_pow_le hs
    rw [pow_succ, ← mul_assoc] at hbound
    have habs : a.value * 10 ^ d.scale ≤ |a.value| * 10 ^ d.scale :=
      mul_le_mul_of_nonneg_right (le_abs_self _) hpos.le
    linarith
  · -- a multiple of the last digit of the result
    have hmul : a.value * 10 ^ d.scale ≤ x * 10 ^ d.scale := mul_le_mul_of_nonneg_right hle hpos.le
    rw [← cast_coefficientAt hs] at *
    exact_mod_cast (IsNearest.intCast _).le_of_le h.nearest hmul

theorem value_le (h : RoundsTo x scale d) (ha : a.scale ≤ scale) (hle : x ≤ a.value) :
    d.value ≤ a.value := by
  have hneg : a.neg.value ≤ d.neg.value := h.neg.le_value ha (by rw [value_neg]; linarith)
  rw [value_neg, value_neg] at hneg
  linarith

end RoundsTo

theorem roundsTo_of_ofParts? {n : ℤ} (hn : IsNearest (x * 10 ^ scale) n) (h : ofParts? n scale = some d) :
    RoundsTo x scale d := by
  obtain ⟨hc, hs⟩ := ofParts?_eq_some h
  refine ⟨hs.le, ?_, fun s hlt hle => by omega⟩
  rwa [hc, hs]

theorem overflows_of_ofParts? {n : ℤ} (hn : IsNearest (x * 10 ^ scale) n) (hs : scale ≤ maxScale)
    (h : ofParts? n scale = none) : Overflows x scale := by
  intro m hm
  rw [hm.unique hn]
  by_contra hlt
  simp [ofParts?, hs, show n.natAbs < limit by omega] at h

/-- At a scale where the number overflows, the next smaller scale decides. -/
theorem RoundsTo.succ (h : RoundsTo x scale d) (ho : Overflows x (scale + 1)) : RoundsTo x (scale + 1) d := by
  refine ⟨h.scale_le.trans (Nat.le_succ _), h.nearest, ?_⟩
  intro s hlt hle
  rcases Nat.lt_or_ge scale s with hs | hs
  · rwa [show s = scale + 1 by omega]
  · exact h.fewest s hlt hs

theorem isNearest_dropDigits_at (n : ℤ) (dropped scale : ℕ) :
    IsNearest (n / 10 ^ (dropped + scale) * 10 ^ scale) (dropDigits .toEven n dropped) := by
  have he : (n : ℚ) / 10 ^ (dropped + scale) * 10 ^ scale = n / 10 ^ dropped := by
    rw [pow_add]
    field_simp
  rw [he]
  exact isNearest_dropDigits n dropped

/-- The search finds the scale, unless the number is too large for any. -/
theorem fit_cases (n : ℤ) (dropped : ℕ) (hs : scale ≤ maxScale) :
    (∃ d, fit n dropped scale = some d ∧ RoundsTo (n / 10 ^ (dropped + scale)) scale d) ∨
    (fit n dropped scale = none ∧ Overflows (n / 10 ^ (dropped + scale)) 0) := by
  induction scale generalizing dropped with
  | zero =>
    have hn := isNearest_dropDigits_at n dropped 0
    rw [fit]
    cases hp : ofParts? (dropDigits .toEven n dropped) 0 with
    | none => exact Or.inr ⟨rfl, overflows_of_ofParts? hn hs hp⟩
    | some d => exact Or.inl ⟨d, rfl, roundsTo_of_ofParts? hn hp⟩
  | succ scale ih =>
    have hn := isNearest_dropDigits_at n dropped (scale + 1)
    rw [fit]
    cases hp : ofParts? (dropDigits .toEven n dropped) (scale + 1) with
    | some d => exact Or.inl ⟨d, rfl, roundsTo_of_ofParts? hn hp⟩
    | none =>
      have ih := ih (dropped + 1) (by omega)
      rw [show dropped + 1 + scale = dropped + (scale + 1) by omega] at ih
      rcases ih with ⟨d, hf, hd⟩ | ih
      · exact Or.inl ⟨d, hf, hd.succ (overflows_of_ofParts? hn hs hp)⟩
      · exact Or.inr ih

/-- What the sum of two decimals is: a zero gives back the other one as it is, and otherwise the
exact sum is rounded from the larger of the two scales downwards. -/
inductive IsSum (a b : Decimal) : Decimal → Prop
  | left (zero : a.coefficient = 0) : IsSum a b b
  | right (nonzero : a.coefficient ≠ 0) (zero : b.coefficient = 0) : IsSum a b a
  | rounded {c : Decimal} (nonzero : a.coefficient ≠ 0) (nonzero' : b.coefficient ≠ 0)
      (rounds : RoundsTo (a.value + b.value) (max a.scale b.scale) c) : IsSum a b c

namespace IsSum

/-- A sum is the exact one rounded at the scale that it has. -/
theorem roundsTo (h : IsSum a b c) : RoundsTo (a.value + b.value) c.scale c := by
  cases h with
  | left zero =>
    rw [value_of_coefficient_eq_zero zero, zero_add]
    exact .self b
  | right nonzero zero =>
    rw [value_of_coefficient_eq_zero zero, add_zero]
    exact .self a
  | rounded ha hb rounds => exact ⟨le_rfl, rounds.nearest, fun s hlt hle => by omega⟩

theorem not_overflows (h : IsSum a b c) : ¬ Overflows (a.value + b.value) 0 := by
  intro ho
  exact h.roundsTo.not_overflows (ho.mono (Nat.zero_le _))

theorem scale_le (h : IsSum a b c) : c.scale ≤ max a.scale b.scale := by
  cases h with
  | left zero => exact le_max_right _ _
  | right nonzero zero => exact le_max_left _ _
  | rounded _ _ rounds => exact rounds.scale_le

theorem le_value (h : IsSum a b c) (hb : 0 ≤ b.value) : a.value ≤ c.value := by
  cases h with
  | left zero => rwa [value_of_coefficient_eq_zero zero]
  | right nonzero zero => exact le_rfl
  | rounded _ _ rounds => exact rounds.le_value (le_max_left _ _) (by linarith)

theorem value_le (h : IsSum a b c) (hb : b.value ≤ 0) : c.value ≤ a.value := by
  cases h with
  | left zero => rwa [value_of_coefficient_eq_zero zero]
  | right nonzero zero => exact le_rfl
  | rounded _ _ rounds => exact rounds.value_le (le_max_left _ _) (by linarith)

theorem value_eq_iff (h : IsSum a b c) :
    c.value = a.value + b.value ↔ ∃ d : Decimal, d.value = a.value + b.value := by
  cases h with
  | left zero => exact ⟨fun he => ⟨_, he⟩, fun _ => by rw [value_of_coefficient_eq_zero zero, zero_add]⟩
  | right nonzero zero => exact ⟨fun he => ⟨_, he⟩, fun _ => by rw [value_of_coefficient_eq_zero zero, add_zero]⟩
  | rounded _ _ rounds => exact rounds.value_eq_iff (cast_sumCoefficient a b).symm

/-- A sum that is not exact has lost only digits without room. -/
theorem no_room (h : IsSum a b c) (hne : c.value ≠ a.value + b.value) (hlt : c.scale < s)
    (hle : s ≤ max a.scale b.scale) : (2 : ℚ) ^ 96 - 1 / 2 ≤ |a.value + b.value| * 10 ^ s := by
  cases h with
  | left zero => exact absurd (by rw [value_of_coefficient_eq_zero zero, zero_add]) hne
  | right nonzero zero => exact absurd (by rw [value_of_coefficient_eq_zero zero, add_zero]) hne
  | rounded _ _ rounds =>
    rw [← cast_limit]
    exact overflows_iff.mp (rounds.fewest s hlt hle)

end IsSum

theorem add?_cases (a b : Decimal) :
    (∃ c, add? a b = some c ∧ IsSum a b c) ∨ (add? a b = none ∧ Overflows (a.value + b.value) 0) := by
  by_cases ha : a.coefficient = 0
  · exact Or.inl ⟨b, add?_of_left_zero ha, .left ha⟩
  by_cases hb : b.coefficient = 0
  · exact Or.inl ⟨a, add?_of_right_zero ha hb, .right ha hb⟩
  have hadd : add? a b = fit (sumCoefficient a b) 0 (max a.scale b.scale) := by
    simp only [add?, ha, hb, if_false, sumCoefficient]
  have hsum : (sumCoefficient a b : ℚ) / 10 ^ (0 + max a.scale b.scale) = a.value + b.value := by
    rw [cast_sumCoefficient, Nat.zero_add]
    field_simp
  have hfit := fit_cases (sumCoefficient a b) 0 (max_le a.scale_le b.scale_le)
  rw [hsum, ← hadd] at hfit
  rcases hfit with ⟨c, hc, hr⟩ | hn
  · exact Or.inl ⟨c, hc, .rounded ha hb hr⟩
  · exact Or.inr hn

theorem add?_eq_some_iff : add? a b = some c ↔ IsSum a b c := by
  constructor
  · intro h
    obtain ⟨d, hd, hsum⟩ | ⟨hn, -⟩ := add?_cases a b
    · cases hd.symm.trans h
      exact hsum
    · cases hn.symm.trans h
  · intro h
    cases h with
    | left zero => exact add?_of_left_zero zero
    | right nonzero zero => exact add?_of_right_zero nonzero zero
    | rounded ha hb rounds =>
      obtain ⟨d, hd, hsum⟩ | ⟨-, ho⟩ := add?_cases a b
      · cases hsum with
        | left zero => exact absurd zero ha
        | right _ zero => exact absurd zero hb
        | rounded _ _ hr => rw [hd, hr.unique rounds]
      · exact absurd (ho.mono (Nat.zero_le _)) rounds.not_overflows

/-- There is no sum exactly if the exact one is within one half of the limit, or above. -/
theorem add?_eq_none_iff : add? a b = none ↔ (limit : ℚ) - 1 / 2 ≤ |a.value + b.value| := by
  have ho : Overflows (a.value + b.value) 0 ↔ (limit : ℚ) - 1 / 2 ≤ |a.value + b.value| := by
    rw [overflows_iff, pow_zero, mul_one]
  rw [← ho]
  obtain ⟨c, hc, hsum⟩ | ⟨hn, hover⟩ := add?_cases a b
  · simp only [hc, reduceCtorEq, hsum.not_overflows]
  · simp only [hn, hover]

theorem add?_nonneg (h : add? a b = some c) (hv : 0 ≤ a.value + b.value) : 0 ≤ c.value := by
  have hr := (add?_eq_some_iff.mp h).roundsTo
  have hle : zero.value ≤ c.value := hr.le_value (Nat.zero_le _) (by rwa [value_zero])
  rwa [value_zero] at hle

theorem sub?_nonneg (h : sub? a b = some c) (hle : b ≤ a) : 0 ≤ c.value := by
  refine add?_nonneg h ?_
  have hv := value_le_value.mpr hle
  rw [value_neg]
  linarith

/-- A sum whose value fits at a scale that both summands keep to is exact and keeps to it, too. -/
theorem add?_exact (hs : s ≤ maxScale) (ha : a.scale ≤ s) (hb : b.scale ≤ s)
    (h : |a.value + b.value| * 10 ^ s < limit) :
    ∃ c, add? a b = some c ∧ c.scale ≤ s ∧ c.value = a.value + b.value := by
  have hm : max a.scale b.scale ≤ s := max_le ha hb
  have hn : (sumCoefficient a b).natAbs < limit := by
    have hle : |(sumCoefficient a b : ℚ)| ≤ |a.value + b.value| * 10 ^ s := by
      rw [cast_sumCoefficient, abs_mul, abs_of_nonneg (by positivity : (0 : ℚ) ≤ 10 ^ _)]
      gcongr
      norm_num
    have hlt := hle.trans_lt h
    rw [← Int.cast_abs, Int.abs_eq_natAbs] at hlt
    exact_mod_cast hlt
  -- the exact sum is a decimal, so that the arithmetic can neither miss it nor fail
  obtain ⟨e, he⟩ : ∃ e : Decimal, e.value = a.value + b.value := by
    refine ⟨⟨sumCoefficient a b, max a.scale b.scale, hn, hm.trans hs⟩, ?_⟩
    rw [value, cast_sumCoefficient]
    field_simp
  obtain ⟨c, hc, hsum⟩ | ⟨hnone, -⟩ := add?_cases a b
  · exact ⟨c, hc, hsum.scale_le.trans hm, hsum.value_eq_iff.mpr ⟨e, he⟩⟩
  · have hbig := add?_eq_none_iff.mp hnone
    rw [← he] at hbig
    exact absurd e.abs_value_lt (not_lt.mpr hbig)

theorem sub?_exact (hs : s ≤ maxScale) (ha : a.scale ≤ s) (hb : b.scale ≤ s)
    (h : |a.value - b.value| * 10 ^ s < limit) :
    ∃ c, sub? a b = some c ∧ c.scale ≤ s ∧ c.value = a.value - b.value := by
  have he : a.value + b.neg.value = a.value - b.value := by rw [value_neg, sub_eq_add_neg]
  rw [← he] at h ⊢
  exact add?_exact hs ha hb h

end Passbook.Decimal
