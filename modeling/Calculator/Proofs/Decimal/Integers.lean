import Calculator.Number
import Calculator.Proofs.Decimal.Reading

/-! # Integers as doubles

An integer is rounded to the nearest double. Whatever rounding does to it, the result keeps
fifty-three bits and an exponent near zero (`exists_round_eq`), far from the least double. So the
only integer that becomes a zero is zero (`toFloat_integer_eq_zero_iff`), and the values that divide
nothing are this integer and the two zeros among the doubles (`toFloat_eq_zero_iff`). -/

namespace Calculator

open Float.Model Float.Model.UnpackedFloat

/-! ### Rounding a long mantissa -/

section Round

variable {sign : Sign} {mantissa m : Nat} {exponent e : Int}

theorem mantissa_shiftRight (em : ExtendedMantissa) (shift : Nat) :
    (em >>> shift).mantissa = em.mantissa / 2 ^ shift := by
  change (shift.repeat ExtendedMantissa.shiftRightOne em).mantissa = _
  induction shift with
  | zero => rw [pow_zero, Nat.div_one]; rfl
  | succ shift ih =>
    rw [pow_succ, ← Nat.div_div_eq_div_mul, ← ih]
    rfl

theorem roundedMantissa_bounds (em : ExtendedMantissa) :
    em.mantissa ≤ em.roundedMantissa ∧ em.roundedMantissa ≤ em.mantissa + 1 := by
  obtain ⟨mantissa, round, sticky⟩ := em
  cases round
  · cases sticky <;> exact ⟨Nat.le_refl _, Nat.le_succ _⟩
  · cases sticky
    · change mantissa ≤ mantissa + mantissa % 2 ∧ mantissa + mantissa % 2 ≤ mantissa + 1
      omega
    · exact ⟨Nat.le_succ _, Nat.le_refl _⟩

/-- A mantissa of at least fifty-three bits keeps this many, and the exponent does not fall. -/
theorem exists_roundWithAccuracy (sign : Sign) (accuracy : Accuracy) (hmantissa : 2 ^ 52 ≤ mantissa)
    (hexponent : -1074 ≤ exponent) :
    ∃ m e, ∃ hpos : 0 < m, 2 ^ 52 ≤ m ∧ m < 2 ^ 53 ∧ exponent ≤ e ∧
      roundWithAccuracy .binary64 sign mantissa exponent accuracy = .finite sign m e hpos := by
  have hlow : 52 ≤ mantissa.log2 := (Nat.le_log2 (by omega)).2 hmantissa
  obtain ⟨shift, hlog⟩ := Nat.exists_eq_add_of_le hlow
  have hfirst : shiftToTargetExponent .binary64 mantissa (exponent + shift - shift) accuracy = _ :=
    shiftToTargetExponent_of_log2 hlog (by omega)
  rw [Int.add_sub_cancel] at hfirst
  have hbits : (ExtendedMantissa.ofMantissaAndAccuracy mantissa accuracy >>> shift).mantissa =
      mantissa / 2 ^ shift := by
    rw [mantissa_shiftRight, mantissa_ofMantissaAndAccuracy]
  obtain ⟨hbelow, habove⟩ := roundedMantissa_bounds
    (ExtendedMantissa.ofMantissaAndAccuracy mantissa accuracy >>> shift)
  rw [hbits] at hbelow habove
  have hle : 2 ^ 52 ≤ mantissa / 2 ^ shift := by
    rw [Nat.le_div_iff_mul_le (Nat.two_pow_pos shift), ← pow_add, ← hlog]
    exact Nat.log2_self_le (by omega)
  have hlt : mantissa / 2 ^ shift < 2 ^ 53 := by
    rw [Nat.div_lt_iff_lt_mul (Nat.two_pow_pos shift), ← pow_add,
      show 53 + shift = mantissa.log2 + 1 by omega]
    exact Nat.lt_log2_self
  obtain ⟨rounded, hrounded⟩ : ∃ rounded, (ExtendedMantissa.ofMantissaAndAccuracy mantissa accuracy
      >>> shift).roundedMantissa = rounded := ⟨_, rfl⟩
  rw [hrounded] at hbelow habove
  have hfull : 2 ^ 52 ≤ rounded := Nat.le_trans hle hbelow
  rcases Nat.lt_or_ge rounded (2 ^ 53) with hfits | hcarry
  · exact ⟨rounded, _, by omega, hfull, hfits, by omega, roundWithAccuracy_of_shifts hfirst hrounded
      (shiftToTargetExponent_exact hfull hfits (by omega)) (mantissa_ofMantissaAndAccuracy _ _) _⟩
  · -- the mantissa was rounded up to the next power of two, and is shifted once more
    obtain rfl : rounded = 2 ^ 53 := by omega
    have hsecond : shiftToTargetExponent .binary64 (2 ^ 53)
        (exponent + shift + 1 - (1 : Nat)) .exact = _ :=
      shiftToTargetExponent_of_log2 (log2_eq le_rfl (by norm_num)) (by omega)
    rw [Nat.cast_one, Int.add_sub_cancel] at hsecond
    exact ⟨2 ^ 52, _, by omega, le_rfl, by omega, by omega,
      roundWithAccuracy_of_shifts hfirst hrounded hsecond rfl _⟩

/-- **A positive integer has a normal double**, with an exponent near zero. -/
theorem exists_round_eq {n : Nat} (hpos : 0 < n) :
    ∃ m e, ∃ hm : 0 < m, 2 ^ 52 ≤ m ∧ m < 2 ^ 53 ∧ -52 ≤ e ∧
      UnpackedFloat.round .binary64 sign n 0 = .finite sign m e hm := by
  have htarget : Format.binary64.targetExponent (totalExponent n 0) = (n.log2 : Int) - 52 := by
    simp only [Format.targetExponent, totalExponent, Format.mantissaBits, Format.minExponent]
    omega
  have hshift : (0 - ((n.log2 : Int) - 52)).toNat = 52 - n.log2 := by omega
  have hexponent : -1074 ≤ (0 : Int) - ((52 - n.log2 : Nat) : Int) := by omega
  obtain ⟨m, e, hm, hlow, hhigh, hle, hround⟩ :=
    exists_roundWithAccuracy sign .exact (le_normalized hpos) hexponent
  refine ⟨m, e, hm, hlow, hhigh, by omega, ?_⟩
  simp only [UnpackedFloat.round, htarget, decreaseExponent, hshift, Nat.shiftLeft_eq]
  exact hround

theorem pack_ne_packedZero {hpos : 0 < m} (hlow : 2 ^ 52 ≤ m) (hhigh : m < 2 ^ 53)
    (hmin : -1074 ≤ e) (other : Sign) :
    UnpackedFloat.pack .binary64 (.finite sign m e hpos) ≠ packedZero .binary64 other := by
  intro h
  have hbits : unpackExponent (UnpackedFloat.pack .binary64 (.finite sign m e hpos)) = 0#11 := by
    rw [h, packedZero, unpackExponent_packComponents]
    rfl
  have hlog : m.log2 = 52 := log2_eq hlow hhigh
  simp only [UnpackedFloat.pack, biased_exponent] at hbits
  split at hbits
  · rw [packedInfinity, unpackExponent_packComponents] at hbits
    exact absurd hbits (by decide)
  · next hfits =>
    rw [if_pos (by rw [hlog]; rfl), unpackExponent_packComponents, ← BitVec.toNat_inj,
      toNat_exponent (by omega)] at hbits
    change (e + 1075).toNat = 0 at hbits
    omega

end Round

/-! ### Zeros -/

theorem ofInt_ne_packedZero {k : Int} (hk : k ≠ 0) (sign : Sign) :
    (Float.Model.ofInt k).toBits.toBitVec ≠ packedZero .binary64 sign := by
  change UnpackedFloat.pack .binary64 (UnpackedFloat.ofInt .binary64 k) ≠ _
  have hround : ∃ (s : Sign) (n : Nat), 0 < n ∧
      UnpackedFloat.ofInt .binary64 k = UnpackedFloat.round .binary64 s n 0 := by
    rcases Int.lt_or_gt_of_ne hk with hneg | hpos
    · refine ⟨.negative, (-k).toNat, by omega, ?_⟩
      rw [UnpackedFloat.ofInt, UnpackedFloat.normalize, Int.compare_eq_lt.2 hneg]
    · refine ⟨.positive, k.toNat, by omega, ?_⟩
      rw [UnpackedFloat.ofInt, UnpackedFloat.normalize, Int.compare_eq_gt.2 hpos]
  obtain ⟨s, n, hn, hround⟩ := hround
  obtain ⟨m, e, hm, hlow, hhigh, hmin, heq⟩ := exists_round_eq hn
  rw [hround, heq]
  exact pack_ne_packedZero hlow hhigh (by omega) sign

theorem beq_zero_iff {x : Float} : (x == 0) = true ↔ x = 0 ∨ x = -0 := by
  constructor
  · intro h
    obtain ⟨-, -, hx | ⟨hx, -⟩ | ⟨hx, -⟩⟩ := Float.beq_iff_ne_nan_and_eq.1 h
    · exact Or.inl hx
    · exact Or.inl hx
    · exact Or.inr hx
  · rintro (rfl | rfl) <;> decide +kernel

namespace Number

theorem toFloat_integer_eq_zero_iff {n : Int64} :
    ((integer n).toFloat == 0) = true ↔ n = 0 := by
  constructor
  · intro h
    by_contra hn
    have hk : n.toInt ≠ 0 := fun hk => hn (Int64.toInt_inj.mp hk)
    rcases beq_zero_iff.mp h with hzero | hzero
    · exact ofInt_ne_packedZero hk .positive
        (congrArg (fun x : Float => x.toModel.toBits.toBitVec) hzero)
    · exact ofInt_ne_packedZero hk .negative
        (congrArg (fun x : Float => x.toModel.toBits.toBitVec) hzero)
  · rintro rfl
    decide +kernel

/-- **The values that are a zero as a double**: the integer zero and the two zeros among the
doubles. -/
theorem toFloat_eq_zero_iff {v : Number} :
    (v.toFloat == 0) = true ↔ v = .integer 0 ∨ v = .float 0 ∨ v = .float (-0) := by
  cases v with
  | integer n => simp [toFloat_integer_eq_zero_iff]
  | float x => simp [toFloat, beq_zero_iff]

end Number

end Calculator
