import Calculator.Proofs.Decimal.Interval
import Mathlib

/-! # Rounding to doubles

A mantissa with a round bit and a sticky bit says where a number lies between two integers
(`Represents`): a shift halves the number, and the bits decide which integer is nearest. From this,
what the double arithmetic makes of a number that lies in the interval of a double is this double
(`roundWithAccuracy_of_rounds`), and so is the quotient of two doubles (`div_of_rounds`). Only
doubles well above the smallest normal one are considered, where the unit does not stop
shrinking. -/

namespace Calculator

open Float.Model Float.Model.UnpackedFloat

/-- **The two bits behind a mantissa** say where the number lies above it. -/
structure Represents (em : ExtendedMantissa) (y : ℚ) : Prop where
  le : em.mantissa ≤ y
  lt : y < em.mantissa + 1
  round_iff : em.roundBit = true ↔ em.mantissa + 1 / 2 ≤ y
  sticky_iff : em.stickyBit = true ↔ y ≠ em.mantissa ∧ y ≠ em.mantissa + 1 / 2

namespace Represents

variable {em : ExtendedMantissa} {y : ℚ}

theorem exact (n : Nat) : Represents (.ofMantissaAndAccuracy n .exact) n := by
  refine ⟨le_refl _, lt_add_one _, ?_, ?_⟩
  · simp [ExtendedMantissa.ofMantissaAndAccuracy]
  · simp [ExtendedMantissa.ofMantissaAndAccuracy]

/-- A number between two integers, by its order to the half between them. -/
theorem inexact {n : Nat} (hn : n < y) (hlt : y < n + 1) {order : Ordering}
    (horder : compare y (n + 1 / 2) = order) :
    Represents (.ofMantissaAndAccuracy n (.inexact order)) y := by
  rcases order with _ | _ | _
  · have h := compare_lt_iff_lt.1 horder
    exact ⟨hn.le, hlt, iff_of_false Bool.false_ne_true h.not_ge, iff_of_true rfl ⟨hn.ne', h.ne⟩⟩
  · have h := compare_eq_iff_eq.1 horder
    exact ⟨hn.le, hlt, iff_of_true rfl h.ge, iff_of_false Bool.false_ne_true fun hne => hne.2 h⟩
  · have h := compare_gt_iff_gt.1 horder
    exact ⟨hn.le, hlt, iff_of_true rfl h.le, iff_of_true rfl ⟨hn.ne', h.ne'⟩⟩

theorem quotient (m : Nat) {n : Nat} (hn : 0 < n) :
    Represents (.ofMantissaAndAccuracy (m / n) (accuracyOfFraction (m % n) n)) (m / n) := by
  have hn' : (0 : ℚ) < n := Nat.cast_pos.2 hn
  have hy : (m : ℚ) / n = (m / n : Nat) + (m % n : Nat) / n := by
    rw [eq_comm, eq_div_iff hn'.ne', add_mul, div_mul_cancel₀ _ hn'.ne', mul_comm]
    exact_mod_cast Nat.div_add_mod m n
  have hlt : ((m % n : Nat) : ℚ) / n < 1 := by
    rw [div_lt_one hn', Nat.cast_lt]
    exact Nat.mod_lt m hn
  rw [hy]
  generalize m / n = q
  generalize m % n = r at *
  unfold accuracyOfFraction
  split
  · next hzero =>
    rw [hzero, Nat.cast_zero, zero_div, add_zero]
    exact exact q
  · next hne =>
    have hpos : 0 < (r : ℚ) / n := div_pos (Nat.cast_pos.2 (Nat.pos_of_ne_zero hne)) hn'
    refine inexact (by linarith) (by linarith) ?_
    rcases hcompare : compare (2 * r) n with _ | _ | _
    · have h : (r : ℚ) * 2 < 1 * n := by
        rw [one_mul, mul_comm]
        exact_mod_cast compare_lt_iff_lt.1 hcompare
      exact compare_lt_iff_lt.2 (add_lt_add_right ((div_lt_div_iff₀ hn' two_pos).2 h) _)
    · have h : (r : ℚ) * 2 = 1 * n := by
        rw [one_mul, mul_comm]
        exact_mod_cast compare_eq_iff_eq.1 hcompare
      rw [compare_eq_iff_eq, (div_eq_div_iff hn'.ne' two_ne_zero).2 h]
    · have h : 1 * (n : ℚ) < r * 2 := by
        rw [one_mul, mul_comm]
        exact_mod_cast compare_gt_iff_gt.1 hcompare
      exact compare_gt_iff_gt.2 (add_lt_add_right ((div_lt_div_iff₀ two_pos hn').2 h) _)

theorem shiftRightOne (h : Represents em y) : Represents em.shiftRightOne (y / 2) := by
  obtain ⟨m, round, sticky⟩ := em
  obtain ⟨hle, hlt, hround, hsticky⟩ := h
  simp only at hle hlt hround hsticky
  have hinexact : (round || sticky) = true ↔ y ≠ m := by
    rw [Bool.or_eq_true, hround, hsticky]
    constructor
    · rintro (h | h) heq
      · linarith
      · exact h.1 heq
    · intro hne
      by_cases h : y = m + 1 / 2
      · exact Or.inl h.ge
      · exact Or.inr ⟨hne, h⟩
  have hm : ((2 * (m / 2) + m % 2 : Nat) : ℚ) = m := by rw [Nat.div_add_mod]
  push_cast at hm
  have hshift : (⟨m, round, sticky⟩ : ExtendedMantissa).shiftRightOne =
      ⟨m / 2, m % 2 != 0, round || sticky⟩ := rfl
  rw [hshift]
  generalize m / 2 = k at *
  rcases Nat.mod_two_eq_zero_or_one m with hbit | hbit <;> rw [hbit] at hm ⊢
  · rw [Nat.cast_zero, add_zero] at hm
    refine ⟨by simp only; linarith, by simp only; linarith, iff_of_false (by simp) ?_, ?_⟩
    · simp only
      linarith
    · rw [hinexact]
      constructor
      · intro hne
        exact ⟨fun h => hne (by simp only at h; linarith), fun h => by simp only at h; linarith⟩
      · rintro ⟨hne, -⟩ h
        exact hne (by simp only; linarith)
  · rw [Nat.cast_one] at hm
    refine ⟨by simp only; linarith, by simp only; linarith, iff_of_true (by simp) ?_, ?_⟩
    · simp only
      linarith
    · rw [hinexact]
      constructor
      · intro hne
        exact ⟨fun h => by simp only at h; linarith, fun h => hne (by simp only at h; linarith)⟩
      · rintro ⟨-, hne⟩ h
        exact hne (by simp only; linarith)

theorem shiftRight (h : Represents em y) (n : Nat) : Represents (em >>> n) (y / 2 ^ n) := by
  change Represents (n.repeat ExtendedMantissa.shiftRightOne em) _
  induction n with
  | zero => simpa [Nat.repeat] using h
  | succ n ih =>
    rw [pow_succ, ← div_div]
    exact ih.shiftRightOne

/-- **The nearest integer**, and of two equally near ones the even one. -/
theorem roundedMantissa_eq (h : Represents em y) {n : Nat} (hlow : n - 1 / 2 ≤ y)
    (hhigh : y ≤ n + 1 / 2) (heven : y = n - 1 / 2 ∨ y = n + 1 / 2 → n % 2 = 0) :
    em.roundedMantissa = n := by
  obtain ⟨m, round, sticky⟩ := em
  obtain ⟨hle, hlt, hround, hsticky⟩ := h
  simp only at hle hlt hround hsticky
  have hnear : n = m ∨ n = m + 1 := by
    have hm : (m : ℚ) < n + 1 := by linarith
    have hn : (n : ℚ) < m + 2 := by linarith
    have hm' : m < n + 1 := by exact_mod_cast hm
    have hn' : n < m + 2 := by exact_mod_cast hn
    omega
  cases round with
  | false =>
    -- the number lies below the half
    have hbelow : y < m + 1 / 2 := by simpa using hround
    have hn : n = m := by
      rcases hnear with rfl | rfl
      · rfl
      · push_cast at hlow
        linarith
    cases sticky <;> exact hn.symm
  | true =>
    have habove : (m : ℚ) + 1 / 2 ≤ y := hround.1 rfl
    cases sticky with
    | true =>
      have hne := (hsticky.1 rfl).2
      rcases hnear with rfl | rfl
      · exact absurd (le_antisymm hhigh habove) hne
      · rfl
    | false =>
      have hhalf : y = m + 1 / 2 := by
        by_contra hne
        have hm : y = m := by_contra fun h => Bool.false_ne_true (hsticky.2 ⟨h, hne⟩)
        linarith
      change m + m % 2 = n
      rcases hnear with rfl | rfl
      · have := heven (Or.inr hhalf)
        omega
      · have := heven (Or.inl (by rw [hhalf]; push_cast; ring))
        omega

end Represents


/-! ### A number in the interval of a double -/

section Round

variable {sign : Sign} {mantissa m₁ m₂ : Nat} {exponent e₁ e₂ : Int} {accuracy : Accuracy} {y : ℚ}

theorem shiftToTargetExponent_of_log2 {shift : Nat} (hlog : mantissa.log2 = 52 + shift)
    (hexponent : -1074 ≤ exponent) :
    shiftToTargetExponent .binary64 mantissa (exponent - shift) accuracy =
      (ExtendedMantissa.ofMantissaAndAccuracy mantissa accuracy >>> shift, exponent) := by
  have htarget : Format.binary64.targetExponent (totalExponent mantissa (exponent - shift)) =
      exponent := by
    simp only [Format.targetExponent, totalExponent, hlog, Format.mantissaBits, Format.minExponent]
    omega
  have hshift : (exponent - (exponent - shift)).toNat = shift := by omega
  simp only [shiftToTargetExponent, htarget, shiftToExponent, hshift, Prod.mk.injEq, true_and]
  omega

theorem log2_eq {n k : Nat} (hlow : 2 ^ k ≤ n) (hhigh : n < 2 ^ (k + 1)) : n.log2 = k := by
  have hn : n ≠ 0 := by
    have := Nat.two_pow_pos k
    omega
  have hle := (Nat.le_log2 hn).2 hlow
  have hlt := (Nat.log2_lt hn).2 hhigh
  omega

theorem mantissa_ofMantissaAndAccuracy (mantissa : Nat) (accuracy : Accuracy) :
    (ExtendedMantissa.ofMantissaAndAccuracy mantissa accuracy).mantissa = mantissa := by
  rcases accuracy with _ | _ | _ | _ <;> rfl

theorem Represents.log2 (h : Represents (.ofMantissaAndAccuracy mantissa accuracy) y) {k : Nat}
    (hlow : 2 ^ k ≤ y) (hhigh : y < 2 ^ (k + 1)) : mantissa.log2 = k := by
  have hle := h.le
  have hlt := h.lt
  rw [mantissa_ofMantissaAndAccuracy] at hle hlt
  have habove : (2 : ℚ) ^ k < mantissa + 1 := by linarith
  have hbelow : (mantissa : ℚ) < 2 ^ (k + 1) := by linarith
  have habove' : 2 ^ k < mantissa + 1 := by exact_mod_cast habove
  exact log2_eq (by omega) (by exact_mod_cast hbelow)

/-- The double that rounding gives, from what its two shifts give. -/
theorem roundWithAccuracy_of_shifts {rounded final : Nat} {between : Int}
    {em last : ExtendedMantissa}
    (hfirst : shiftToTargetExponent .binary64 mantissa exponent accuracy = (em, between))
    (hrounded : em.roundedMantissa = rounded)
    (hsecond : shiftToTargetExponent .binary64 rounded between .exact = (last, e₁))
    (hlast : last.mantissa = final) (hfinal : 0 < final) :
    roundWithAccuracy .binary64 sign mantissa exponent accuracy =
      .finite sign final e₁ hfinal := by
  subst hlast hrounded
  simp only [roundWithAccuracy, hfirst, hsecond]
  exact dif_neg hfinal.ne'

/-- The unit of a double is not smaller than that of a number which lies in its interval and has at
least fifty-three bits before its point. -/
theorem exists_shift (hy : 2 ^ 52 ≤ y) (hhigh : m₁ < 2 ^ 53)
    (habove : y * 2 ^ exponent / 2 ^ e₁ ≤ m₁ + 1 / 2) :
    ∃ shift : Nat, exponent = e₁ - shift ∧ y * 2 ^ exponent / 2 ^ e₁ = y / 2 ^ shift := by
  have hscale : y * 2 ^ exponent / 2 ^ e₁ = y * 2 ^ (exponent - e₁) := by
    rw [mul_div_assoc, ← zpow_sub₀ two_ne_zero]
  have hm : (m₁ : ℚ) + 1 ≤ 2 ^ 53 := by exact_mod_cast hhigh
  have hle : exponent ≤ e₁ := by
    by_contra hlt
    have htwo : (2 : ℚ) ^ (1 : Int) ≤ 2 ^ (exponent - e₁) :=
      zpow_le_zpow_right₀ one_le_two (by omega)
    have hdouble := mul_le_mul hy htwo (by positivity) (by positivity)
    rw [hscale] at habove
    rw [zpow_one] at hdouble
    linarith
  refine ⟨(e₁ - exponent).toNat, by omega, ?_⟩
  rw [hscale, show exponent - e₁ = -((e₁ - exponent).toNat : Int) by omega, zpow_neg,
    zpow_natCast, ← div_eq_mul_inv]

theorem shiftToTargetExponent_exact (hlow : 2 ^ 52 ≤ m₁) (hhigh : m₁ < 2 ^ 53)
    (hexponent : -1074 ≤ e₁) :
    shiftToTargetExponent .binary64 m₁ e₁ .exact =
      (ExtendedMantissa.ofMantissaAndAccuracy m₁ .exact, e₁) := by
  have h : shiftToTargetExponent .binary64 m₁ (e₁ - (0 : Nat)) .exact = _ :=
    shiftToTargetExponent_of_log2 (log2_eq hlow hhigh) hexponent
  rwa [Nat.cast_zero, sub_zero] at h

/-- A number with as many bits as the double is rounded to the nearest mantissa. -/
theorem roundWithAccuracy_of_near {shift : Nat}
    (h : Represents (.ofMantissaAndAccuracy mantissa accuracy) y) (hlow : 2 ^ 52 ≤ m₁)
    (hhigh : m₁ < 2 ^ 53) (hexponent : -1074 ≤ e₁) (hfull : 2 ^ 52 ≤ y / 2 ^ shift)
    (hbelow : m₁ - 1 / 2 ≤ y / 2 ^ shift) (habove : y / 2 ^ shift ≤ m₁ + 1 / 2)
    (heven : y / 2 ^ shift = m₁ - 1 / 2 ∨ y / 2 ^ shift = m₁ + 1 / 2 → m₁ % 2 = 0) :
    roundWithAccuracy .binary64 sign mantissa (e₁ - shift) accuracy =
      .finite sign m₁ e₁ (by omega) := by
  have hpow : (0 : ℚ) < 2 ^ shift := by positivity
  have hm : (m₁ : ℚ) + 1 ≤ 2 ^ 53 := by exact_mod_cast hhigh
  have hlog : mantissa.log2 = 52 + shift := by
    refine h.log2 ?_ ?_
    · rw [pow_add]
      exact (le_div_iff₀ hpow).1 hfull
    · rw [Nat.add_right_comm, pow_add]
      exact (div_lt_iff₀ hpow).1 (by linarith)
  exact roundWithAccuracy_of_shifts (shiftToTargetExponent_of_log2 hlog hexponent)
    ((h.shiftRight shift).roundedMantissa_eq hbelow habove heven)
    (shiftToTargetExponent_exact hlow hhigh hexponent) rfl _

/-- A number just below a power of two has one bit less than the double. It is rounded up into the
power, which takes a second shift. -/
theorem roundWithAccuracy_of_below_power {shift : Nat}
    (h : Represents (.ofMantissaAndAccuracy mantissa accuracy) y) (hexponent : -1074 < e₁)
    (hbelow : 2 ^ 52 - 1 / 4 ≤ y / 2 ^ (shift + 1)) (habove : y / 2 ^ (shift + 1) < 2 ^ 52) :
    roundWithAccuracy .binary64 sign mantissa (e₁ - (shift + 1 : Nat)) accuracy =
      .finite sign (2 ^ 52) e₁ (by norm_num) := by
  have hpow : (0 : ℚ) < 2 ^ shift := by positivity
  have hhalf : y / 2 ^ (shift + 1) = y / 2 ^ shift / 2 := by rw [pow_succ, div_div]
  rw [hhalf] at hbelow habove
  have hlog : mantissa.log2 = 52 + shift := by
    refine h.log2 ?_ ?_
    · rw [pow_add]
      exact (le_div_iff₀ hpow).1 (by linarith)
    · rw [Nat.add_right_comm, pow_add]
      exact (div_lt_iff₀ hpow).1 (by linarith)
  have hexp : e₁ - (shift + 1 : Nat) = e₁ - 1 - shift := by omega
  have hrounded : (ExtendedMantissa.ofMantissaAndAccuracy mantissa accuracy >>>
      shift).roundedMantissa = 2 ^ 53 := by
    refine (h.shiftRight shift).roundedMantissa_eq ?_ ?_ fun _ => rfl
    · push_cast
      linarith
    · push_cast
      linarith
  have hsecond : shiftToTargetExponent .binary64 (2 ^ 53) (e₁ - (1 : Nat)) .exact = _ :=
    shiftToTargetExponent_of_log2 (log2_eq le_rfl (by norm_num)) hexponent.le
  rw [hexp]
  exact roundWithAccuracy_of_shifts (shiftToTargetExponent_of_log2 hlog (by omega)) hrounded
    hsecond rfl _

/-- **Rounding finds the double** in whose interval the number lies. -/
theorem roundWithAccuracy_of_rounds (h : Represents (.ofMantissaAndAccuracy mantissa accuracy) y)
    (hmantissa : 2 ^ 52 ≤ mantissa) (hlow : 2 ^ 52 ≤ m₁) (hhigh : m₁ < 2 ^ 53)
    (hexponent : -1074 < e₁)
    (hrounds : Dyadic.Rounds ⟨m₁, e₁, m₁ = 2 ^ 52⟩ (y * 2 ^ exponent)) :
    roundWithAccuracy .binary64 sign mantissa exponent accuracy =
      .finite sign m₁ e₁ (by omega) := by
  have hle := h.le
  rw [mantissa_ofMantissaAndAccuracy] at hle
  have hy : (2 : ℚ) ^ 52 ≤ y := le_trans (by exact_mod_cast hmantissa) hle
  obtain ⟨shift, rfl, hscale⟩ := exists_shift hy hhigh hrounds.above
  obtain ⟨hbelow, habove, heven⟩ := hrounds
  simp only [hscale, Dyadic.reach, decide_eq_true_eq] at hbelow habove heven
  rcases le_or_gt (2 ^ 52) (y / 2 ^ shift) with hfull | hless
  · refine roundWithAccuracy_of_near h hlow hhigh hexponent.le hfull ?_ habove ?_
    · split at hbelow <;> linarith
    · rintro (heq | heq)
      · split at hbelow
        · linarith
        · next hne => exact heven (Or.inl (by rw [if_neg hne, heq]))
      · exact heven (Or.inr heq)
  · have hpower : m₁ = 2 ^ 52 := by
      by_contra hne
      have hlt : 2 ^ 52 + 1 ≤ m₁ := by omega
      have hlt' : (2 : ℚ) ^ 52 + 1 ≤ m₁ := by exact_mod_cast hlt
      rw [if_neg hne] at hbelow
      linarith
    obtain ⟨shift, rfl⟩ : ∃ k, shift = k + 1 := by
      refine Nat.exists_eq_succ_of_ne_zero ?_
      rintro rfl
      rw [pow_zero, div_one] at hless
      linarith
    subst hpower
    rw [if_pos rfl] at hbelow
    push_cast at hbelow
    exact roundWithAccuracy_of_below_power h hexponent hbelow hless

end Round

/-! ### The quotient of two doubles -/

section Div

variable {m m₁ m₂ : Nat} {e e₁ e₂ : Int}

theorem le_totalExponent_sub (h₂ : 0 < m₂)
    (hlow : 2 ^ 51 * 2 ^ e < m₁ * 2 ^ e₁ / (m₂ * 2 ^ e₂ : ℚ)) :
    e + 51 ≤ totalExponent m₁ e₁ - totalExponent m₂ e₂ := by
  have hm₁ : (m₁ : ℚ) < 2 ^ (m₁.log2 + 1) := by exact_mod_cast Nat.lt_log2_self
  have hm₂ : (2 : ℚ) ^ m₂.log2 ≤ m₂ := by exact_mod_cast Nat.log2_self_le h₂.ne'
  have hlt : (2 : ℚ) ^ (51 + e + (m₂.log2 + e₂)) < 2 ^ ((m₁.log2 + 1 : Nat) + e₁) := by
    calc (2 : ℚ) ^ (51 + e + (m₂.log2 + e₂))
        = 2 ^ 51 * 2 ^ e * (2 ^ m₂.log2 * 2 ^ e₂) := by
          simp only [zpow_add₀ (two_ne_zero (α := ℚ)), zpow_natCast]
          norm_num
      _ ≤ 2 ^ 51 * 2 ^ e * (m₂ * 2 ^ e₂) := by gcongr
      _ < m₁ * 2 ^ e₁ := (lt_div_iff₀ (by positivity)).1 hlow
      _ ≤ 2 ^ (m₁.log2 + 1) * 2 ^ e₁ := by gcongr
      _ = 2 ^ ((m₁.log2 + 1 : Nat) + e₁) := by
          rw [zpow_add₀ (two_ne_zero (α := ℚ)), zpow_natCast]
  have hexp := (zpow_lt_zpow_iff_right₀ one_lt_two).1 hlt
  unfold totalExponent
  omega

/-- What the division hands to the rounding lies at the quotient and has at least fifty-three
bits. -/
theorem divCore_spec (h₁ : 0 < m₁) (h₂ : 0 < m₂)
    (hfar : -1021 ≤ totalExponent m₁ e₁ - totalExponent m₂ e₂) {mantissa : Nat} {exponent : Int}
    {accuracy : Accuracy} (h : divCore .binary64 m₁ e₁ m₂ e₂ = (mantissa, exponent, accuracy)) :
    2 ^ 52 ≤ mantissa ∧ ∃ y : ℚ, Represents (.ofMantissaAndAccuracy mantissa accuracy) y ∧
      y * 2 ^ exponent = m₁ * 2 ^ e₁ / (m₂ * 2 ^ e₂) := by
  have htarget : Format.binary64.targetExponent (totalExponent m₁ e₁ - totalExponent m₂ e₂) =
      totalExponent m₁ e₁ - totalExponent m₂ e₂ - 53 := by
    simp only [Format.targetExponent, Format.mantissaBits, Format.minExponent]
    omega
  simp only [divCore, htarget, Prod.mk.injEq] at h
  obtain ⟨rfl, hexponent, rfl⟩ := h
  obtain ⟨shift, hshift⟩ : ∃ shift : Nat, e₁ - e₂ - exponent = shift :=
    ⟨(e₁ - e₂ - exponent).toNat, by omega⟩
  have hbits : m₂.log2 + 53 ≤ m₁.log2 + shift := by
    unfold totalExponent at hexponent
    omega
  rw [hexponent, hshift, Int.toNat_natCast, Nat.shiftLeft_eq]
  refine ⟨?_, _, Represents.quotient _ h₂, ?_⟩
  · rw [Nat.le_div_iff_mul_le h₂]
    calc 2 ^ 52 * m₂ ≤ 2 ^ 52 * 2 ^ (m₂.log2 + 1) := by
          exact Nat.mul_le_mul_left _ Nat.lt_log2_self.le
      _ = 2 ^ (m₂.log2 + 53) := by rw [← pow_add]; congr 1; omega
      _ ≤ 2 ^ (m₁.log2 + shift) := Nat.pow_le_pow_right two_pos hbits
      _ = 2 ^ m₁.log2 * 2 ^ shift := pow_add ..
      _ ≤ m₁ * 2 ^ shift := Nat.mul_le_mul_right _ (Nat.log2_self_le h₁.ne')
  · have hpow : (2 : ℚ) ^ e₁ = 2 ^ shift * 2 ^ exponent * 2 ^ e₂ := by
      rw [← zpow_natCast, ← zpow_add₀ two_ne_zero, ← zpow_add₀ two_ne_zero]
      congr 1
      omega
    have hm₂ : (m₂ : ℚ) ≠ 0 := Nat.cast_ne_zero.2 h₂.ne'
    rw [hpow, div_mul_eq_mul_div, div_eq_div_iff hm₂ (by positivity)]
    push_cast
    ring

/-- **Division finds the double** in whose interval the quotient lies. -/
theorem div_of_rounds (h₁ : 0 < m₁) (h₂ : 0 < m₂) (hlow : 2 ^ 52 ≤ m) (hhigh : m < 2 ^ 53)
    (hexponent : -1072 ≤ e)
    (hrounds : Dyadic.Rounds ⟨m, e, m = 2 ^ 52⟩ (m₁ * 2 ^ e₁ / (m₂ * 2 ^ e₂))) :
    div .binary64 (.finite .positive m₁ e₁ h₁) (.finite .positive m₂ e₂ h₂) =
      .finite .positive m e (by omega) := by
  have hquotient : (2 : ℚ) ^ 51 * 2 ^ e < m₁ * 2 ^ e₁ / (m₂ * 2 ^ e₂) := by
    have hbelow := hrounds.below
    have hm : (2 : ℚ) ^ 52 ≤ m := by exact_mod_cast hlow
    rw [← lt_div_iff₀ (by positivity)]
    simp only [Dyadic.reach] at hbelow
    split at hbelow <;> linarith
  have hfar : -1021 ≤ totalExponent m₁ e₁ - totalExponent m₂ e₂ := by
    have := le_totalExponent_sub h₂ hquotient
    omega
  obtain ⟨hbits, y, hy, hvalue⟩ := divCore_spec h₁ h₂ hfar rfl
  rw [← hvalue] at hrounds
  exact roundWithAccuracy_of_rounds hy hbits hlow hhigh (by omega) hrounds

end Div

end Calculator
