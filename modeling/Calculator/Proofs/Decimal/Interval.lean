import Calculator.Decimal.Notation
import Mathlib.Algebra.Order.Field.Power
import Mathlib.Data.Rat.Cast.Order
import Mathlib.Tactic.FieldSimp
import Mathlib.Tactic.Linarith
import Mathlib.Tactic.Positivity
import Mathlib.Tactic.Ring

/-! # The shortest decimal rounds to its double

The numbers that round to a double are those between the midpoints to its neighbours, and a midpoint
itself only if the mantissa is even (`Dyadic.Rounds`). The search for the shortest decimal asks for
this in integers (`Dyadic.rounds_of_attracts`), and where it finds nothing it takes the double
itself, so its result always rounds to the double (`Dyadic.rounds_shortest`). -/

namespace Calculator

/-- The number that a decimal writes. -/
def Decimal.value (d : Decimal) : ℚ := d.digits * 10 ^ d.scale

namespace Dyadic

/-- The magnitude as a number. -/
def value (d : Dyadic) : ℚ := d.mantissa * 2 ^ d.exponent

/-- How far below the mantissa, in units, the interval of the double reaches. -/
def reach (d : Dyadic) : ℚ := if d.narrowBelow then 1 / 4 else 1 / 2

/-- **The number rounds to the double.** -/
structure Rounds (d : Dyadic) (x : ℚ) : Prop where
  below : d.mantissa - d.reach ≤ x / 2 ^ d.exponent
  above : x / 2 ^ d.exponent ≤ d.mantissa + 1 / 2
  even_of_eq : x / 2 ^ d.exponent = d.mantissa - d.reach ∨ x / 2 ^ d.exponent = d.mantissa + 1 / 2 →
    d.mantissa % 2 = 0

/-! ### Scaled integers -/

theorem pow_toNat {b : ℚ} (hb : b ≠ 0) (i : Int) : b ^ i.toNat = b ^ i * b ^ (-i).toNat := by
  rcases Int.le_total 0 i with h | h
  · obtain ⟨n, rfl⟩ := Int.eq_ofNat_of_zero_le h
    simp
  · obtain ⟨n, hn⟩ := Int.eq_ofNat_of_zero_le (Int.neg_nonneg_of_nonpos h)
    obtain rfl : i = -n := by omega
    simp [hb]

section Compare

variable {a b : Nat} {i j : Int}

/-- Both sides are multiplied by the same number, which leaves no negative power. -/
theorem exists_scale (a : Nat) (i : Int) (b : Nat) (j : Int) :
    ∃ c : ℚ, 0 < c ∧ ((a * tens i * twos (-j) : Nat) : ℚ) = a * 10 ^ i * c ∧
      ((b * twos j * tens (-i) : Nat) : ℚ) = b * 2 ^ j * c := by
  refine ⟨10 ^ (-i).toNat * 2 ^ (-j).toNat, by positivity, ?_, ?_⟩
  · simp only [tens, twos, Nat.pow_eq, Nat.cast_mul, Nat.cast_pow, Nat.cast_ofNat]
    rw [pow_toNat (by norm_num) i]
    ring
  · simp only [tens, twos, Nat.pow_eq, Nat.cast_mul, Nat.cast_pow, Nat.cast_ofNat]
    rw [pow_toNat (by norm_num) j]
    ring

theorem compareScaled_lt_iff :
    compareScaled a i b j = .lt ↔ (a : ℚ) * 10 ^ i < b * 2 ^ j := by
  obtain ⟨c, hc, hl, hr⟩ := exists_scale a i b j
  rw [compareScaled, compare_lt_iff_lt, ← Nat.cast_lt (α := ℚ), hl, hr, mul_lt_mul_iff_left₀ hc]

theorem compareScaled_eq_iff :
    compareScaled a i b j = .eq ↔ (a : ℚ) * 10 ^ i = b * 2 ^ j := by
  obtain ⟨c, hc, hl, hr⟩ := exists_scale a i b j
  rw [compareScaled, compare_eq_iff_eq, ← Nat.cast_inj (R := ℚ), hl, hr, mul_left_inj' hc.ne']

theorem compareScaled_gt_iff :
    compareScaled a i b j = .gt ↔ (b : ℚ) * 2 ^ j < a * 10 ^ i := by
  obtain ⟨c, hc, hl, hr⟩ := exists_scale a i b j
  rw [compareScaled, compare_gt_iff_gt, ← Nat.cast_lt (α := ℚ), hl, hr, mul_lt_mul_iff_left₀ hc]

end Compare

/-! ### The interval of a double -/

variable {d : Dyadic}

/-- What attracts a decimal is the interval of the double. -/
theorem rounds_of_attracts (hpos : 0 < d.mantissa) {digits : Nat} {scale : Int}
    (h : d.attracts digits scale) : d.Rounds (digits * 10 ^ scale) := by
  have hunit : (0 : ℚ) < 2 ^ d.exponent := by positivity
  have hquarter : (2 : ℚ) ^ (d.exponent - 2) = 2 ^ d.exponent / 4 := by
    rw [zpow_sub₀ (by norm_num)]
    norm_num
  have hlow : ((if d.narrowBelow then 4 * d.mantissa - 1 else 4 * d.mantissa - 2 : Nat) : ℚ) *
      2 ^ (d.exponent - 2) = (d.mantissa - d.reach) * 2 ^ d.exponent := by
    rw [hquarter, reach]
    split
    · rw [Nat.cast_sub (by omega)]
      push_cast
      ring
    · rw [Nat.cast_sub (by omega)]
      push_cast
      ring
  have hhigh : ((4 * d.mantissa + 2 : Nat) : ℚ) * 2 ^ (d.exponent - 2) =
      (d.mantissa + 1 / 2) * 2 ^ d.exponent := by
    rw [hquarter]
    push_cast
    ring
  simp only [attracts, Bool.and_eq_true, Bool.or_eq_true, decide_eq_true_eq, compareScaled_gt_iff,
    compareScaled_lt_iff, compareScaled_eq_iff, hlow, hhigh] at h
  obtain ⟨hbelow, habove⟩ := h
  refine ⟨?_, ?_, ?_⟩
  · rw [le_div_iff₀ hunit]
    rcases hbelow with h | h
    · exact h.le
    · exact h.1.ge
  · rw [div_le_iff₀ hunit]
    rcases habove with h | h
    · exact h.le
    · exact h.1.le
  · rw [div_eq_iff hunit.ne', div_eq_iff hunit.ne']
    rintro (heq | heq)
    · rcases hbelow with h | h
      · exact absurd heq h.ne'
      · exact h.2
    · rcases habove with h | h
      · exact absurd heq h.ne
      · exact h.2

theorem rounds_value (d : Dyadic) : d.Rounds d.value := by
  have hunit : (2 : ℚ) ^ d.exponent ≠ 0 := by positivity
  have hvalue : d.value / 2 ^ d.exponent = d.mantissa := mul_div_cancel_right₀ _ hunit
  have hreach : 0 < d.reach := by
    unfold reach
    split <;> norm_num
  refine ⟨by rw [hvalue]; linarith, by rw [hvalue]; linarith, fun h => ?_⟩
  rw [hvalue] at h
  rcases h with h | h <;> linarith

/-! ### The shortest decimal -/

theorem value_stripWithin (fuel digits : Nat) (scale : Int) :
    (Decimal.stripWithin fuel digits scale).value = Decimal.value ⟨digits, scale⟩ := by
  induction fuel generalizing digits scale with
  | zero => rfl
  | succ fuel ih =>
    unfold Decimal.stripWithin
    split
    · next hzero =>
      have hdigits : digits = digits / 10 * 10 := by omega
      rw [ih, Decimal.value, Decimal.value, zpow_add_one₀ (by norm_num)]
      conv_rhs => rw [hdigits]
      push_cast
      ring
    · rfl

theorem rounds_of_onGrid? (hpos : 0 < d.mantissa) {n : Nat} {found : Decimal}
    (h : d.onGrid? n = some found) : d.Rounds found.value := by
  unfold onGrid? at h
  simp only at h
  split at h
  · next hbelow habove =>
    obtain rfl := Option.some.inj h
    split
    · exact rounds_of_attracts hpos hbelow
    · exact rounds_of_attracts hpos habove
  · next hbelow _ =>
    obtain rfl := Option.some.inj h
    exact rounds_of_attracts hpos hbelow
  · next _ habove =>
    obtain rfl := Option.some.inj h
    exact rounds_of_attracts hpos habove
  · cases h

theorem value_exact (d : Dyadic) : d.exact.value = d.value := by
  unfold exact
  split
  · next h =>
    obtain ⟨n, hn⟩ := Int.eq_ofNat_of_zero_le h
    simp [Decimal.value, value, numerator, twos, hn]
  · next h =>
    obtain ⟨n, hn⟩ := Int.eq_ofNat_of_zero_le (show 0 ≤ -d.exponent by omega)
    have hexponent : d.exponent = -n := by omega
    have hten : (5 : ℚ) ^ n * (10 ^ n)⁻¹ = (2 ^ n)⁻¹ := by
      rw [show (10 : ℚ) = 5 * 2 by norm_num, mul_pow, mul_inv, ← mul_assoc,
        mul_inv_cancel₀ (by positivity), one_mul]
    simp only [Decimal.value, value, hexponent, Nat.pow_eq, neg_neg, Int.toNat_natCast,
      Nat.cast_mul, Nat.cast_pow, Nat.cast_ofNat, zpow_neg, zpow_natCast]
    rw [mul_assoc, hten]

/-- **The shortest decimal rounds to the double.** -/
theorem rounds_shortest (hpos : 0 < d.mantissa) : d.Rounds d.shortest.value := by
  rw [shortest, Decimal.strip, value_stripWithin]
  rcases h : (List.range' 1 17).findSome? d.onGrid? with _ | found
  · rw [Option.getD_none]
    change d.Rounds d.exact.value
    rw [value_exact]
    exact d.rounds_value
  · rw [Option.getD_some]
    obtain ⟨n, -, hn⟩ := List.exists_of_findSome?_eq_some h
    exact rounds_of_onGrid? hpos hn

end Dyadic

end Calculator
