import Calculator.Proofs.Decimal.Packing

/-! # Reading a decimal

A decimal with a point is read by a division by a power of ten. Where both numbers are doubles the
division is one of doubles; beyond, the digits and the power are taken as they are. Either way the
quotient is rounded once, so a decimal in the interval of a double is read as this double
(`ofScientific_of_rounds`). -/

namespace Calculator

open Float.Model Float.Model.UnpackedFloat

/-! ### Integers and powers of ten as doubles -/

section Normalized

/-- The mantissa of a natural number as a double: its bits moved up until there are fifty-three. -/
def normalized (n : Nat) : Nat := n * 2 ^ (52 - n.log2)

variable {n : Nat}

theorem le_normalized (hpos : 0 < n) : 2 ^ 52 ≤ normalized n := by
  calc 2 ^ 52 ≤ 2 ^ (n.log2 + (52 - n.log2)) := Nat.pow_le_pow_right two_pos (by omega)
    _ = 2 ^ n.log2 * 2 ^ (52 - n.log2) := pow_add ..
    _ ≤ n * 2 ^ (52 - n.log2) := Nat.mul_le_mul_right _ (Nat.log2_self_le hpos.ne')

theorem normalized_pos (hpos : 0 < n) : 0 < normalized n :=
  Nat.lt_of_lt_of_le (Nat.two_pow_pos 52) (le_normalized hpos)

theorem log2_le (hpos : 0 < n) (hlt : n < 2 ^ 53) : n.log2 ≤ 52 := by
  have := (Nat.log2_lt hpos.ne').2 hlt
  omega

theorem normalized_lt (hpos : 0 < n) (hlt : n < 2 ^ 53) : normalized n < 2 ^ 53 := by
  have hlog := log2_le hpos hlt
  calc n * 2 ^ (52 - n.log2) < 2 ^ (n.log2 + 1) * 2 ^ (52 - n.log2) :=
        Nat.mul_lt_mul_of_pos_right Nat.lt_log2_self (Nat.two_pow_pos _)
    _ = 2 ^ 53 := by
        rw [← pow_add]
        congr 1
        omega

theorem normalized_mul (hpos : 0 < n) (hlt : n < 2 ^ 53) (k : Nat) :
    (normalized n : ℚ) * 2 ^ ((n.log2 : Int) - 52 + k) = n * 2 ^ k := by
  have hlog := log2_le hpos hlt
  rw [normalized, Nat.cast_mul, Nat.cast_pow, Nat.cast_ofNat, mul_assoc, ← zpow_natCast,
    ← zpow_add₀ two_ne_zero, ← zpow_natCast]
  congr 2
  omega

theorem round_eq (hpos : 0 < n) (hlt : n < 2 ^ 53) :
    UnpackedFloat.round .binary64 .positive n 0 =
      .finite .positive (normalized n) ((n.log2 : Int) - 52) (normalized_pos hpos) := by
  have hlog := log2_le hpos hlt
  have htarget : Format.binary64.targetExponent (totalExponent n 0) = (n.log2 : Int) - 52 := by
    simp only [Format.targetExponent, totalExponent, Format.mantissaBits, Format.minExponent]
    omega
  have hshift : (0 - ((n.log2 : Int) - 52)).toNat = 52 - n.log2 := by omega
  have hexp : (0 : Int) - ((52 - n.log2 : Nat) : Int) = (n.log2 : Int) - 52 := by omega
  have hstays : shiftToTargetExponent .binary64 (normalized n) ((n.log2 : Int) - 52) .exact = _ :=
    shiftToTargetExponent_exact (le_normalized hpos) (normalized_lt hpos hlt) (by omega)
  simp only [UnpackedFloat.round, htarget, decreaseExponent, hshift, hexp, Nat.shiftLeft_eq]
  exact roundWithAccuracy_of_shifts hstays rfl hstays rfl _

theorem unpack_toFloat (hpos : 0 < n) (hlt : n < 2 ^ 53) :
    n.toUInt64.toFloat.toModel.unpack =
      .finite .positive (normalized n) ((n.log2 : Int) - 52) (normalized_pos hpos) := by
  have hlog := log2_le hpos hlt
  have hn : n.toUInt64.toNat = n :=
    UInt64.toNat_ofNat_of_lt (Nat.lt_trans hlt (by decide))
  have hof : UnpackedFloat.ofUInt64 .binary64 n.toUInt64 =
      UnpackedFloat.round .binary64 .positive n 0 := by
    rw [UnpackedFloat.ofUInt64, hn, UnpackedFloat.ofNat, UnpackedFloat.ofInt,
      UnpackedFloat.normalize, Int.compare_eq_gt.2 (by omega)]
    rfl
  change (Float.Model.pack (UnpackedFloat.ofUInt64 .binary64 n.toUInt64)).unpack = _
  rw [hof, round_eq hpos hlt]
  exact unpack_pack (le_normalized hpos) (normalized_lt hpos hlt) (by omega) (by omega) _

theorem powerOfTen_eq : ∀ (k : Nat) (hk : k < Float.exactlyRepresentablePowersOfTen.size),
    (Float.exactlyRepresentablePowersOfTen[k]).toModel =
      Float.Model.pack (.finite .positive (normalized (5 ^ k)) (((5 ^ k).log2 : Int) - 52 + k)
        (normalized_pos (Nat.pow_pos (by decide)))) := by
  decide +kernel

theorem five_pow_lt {k : Nat} (hk : k < Float.exactlyRepresentablePowersOfTen.size) :
    5 ^ k < 2 ^ 53 :=
  Nat.lt_of_le_of_lt (Nat.pow_le_pow_right (by decide) (Nat.le_of_lt_succ hk)) (by decide)

theorem unpack_powerOfTen {k : Nat} (hk : k < Float.exactlyRepresentablePowersOfTen.size) :
    (Float.exactlyRepresentablePowersOfTen[k]).toModel.unpack =
      .finite .positive (normalized (5 ^ k)) (((5 ^ k).log2 : Int) - 52 + k)
        (normalized_pos (Nat.pow_pos (by decide))) := by
  have hpos : 0 < 5 ^ k := Nat.pow_pos (by decide)
  have hsize : k ≤ 22 := Nat.le_of_lt_succ hk
  have hlt := five_pow_lt hk
  have hlog := log2_le hpos hlt
  rw [powerOfTen_eq k hk]
  exact unpack_pack (le_normalized hpos) (normalized_lt hpos hlt) (by omega) (by omega) _

end Normalized

/-! ### A decimal in the interval of a double -/

section Read

variable {m n k : Nat} {e : Int}

/-- A decimal in the interval of a double has no more places than digits, up to a constant. -/
theorem places_le (hlow : 2 ^ 52 ≤ m) (hexponent : -1072 ≤ e)
    (hrounds : Dyadic.Rounds ⟨m, e, m = 2 ^ 52⟩ (n / 10 ^ k)) : 0 < n ∧ k ≤ n.log2 + 1022 := by
  have hten : (0 : ℚ) < 10 ^ k := by positivity
  have hvalue : (2 : ℚ) ^ (-1021 : Int) < n / 10 ^ k := by
    have hbelow := hrounds.below
    have hm : (2 : ℚ) ^ 52 ≤ m := by exact_mod_cast hlow
    calc (2 : ℚ) ^ (-1021 : Int) ≤ 2 ^ (51 + e) :=
          zpow_le_zpow_right₀ one_le_two (by omega)
      _ = 2 ^ 51 * 2 ^ e := by rw [zpow_add₀ two_ne_zero]; rfl
      _ < n / 10 ^ k := by
          rw [← lt_div_iff₀ (by positivity)]
          simp only [Dyadic.reach] at hbelow
          split at hbelow <;> linarith
  rw [lt_div_iff₀ hten] at hvalue
  have hn : 0 < n := Nat.cast_pos.1 (lt_trans (by positivity) hvalue)
  refine ⟨hn, ?_⟩
  have hlt : (2 : ℚ) ^ (-1021 + k : Int) < 2 ^ ((n.log2 + 1 : Nat) : Int) := by
    calc (2 : ℚ) ^ (-1021 + k : Int) = 2 ^ (-1021 : Int) * 2 ^ k := by
          rw [zpow_add₀ two_ne_zero, zpow_natCast]
      _ ≤ 2 ^ (-1021 : Int) * 10 ^ k := by gcongr; norm_num
      _ < n := hvalue
      _ ≤ 2 ^ ((n.log2 + 1 : Nat) : Int) := by
          rw [zpow_natCast]
          exact_mod_cast Nat.lt_log2_self.le
  have := (zpow_lt_zpow_iff_right₀ one_lt_two).1 hlt
  omega

/-- **Reading finds the double** in whose interval the decimal lies. -/
theorem ofScientific_of_rounds {x : Float} {hpos : 0 < m}
    (h : x.toModel.unpack = .finite .positive m e hpos) (hexponent : -1072 ≤ e) (hk : 0 < k)
    (hrounds : Dyadic.Rounds ⟨m, e, m = 2 ^ 52⟩ (n / 10 ^ k)) :
    Float.ofScientific n true k = x := by
  obtain ⟨hlow, hhigh, -⟩ := bounds_of_unpack h (by omega)
  obtain ⟨hn, hplaces⟩ := places_le hlow hexponent hrounds
  have hx : Float.ofModel (.pack (.finite .positive m e hpos)) = x :=
    congrArg Float.ofModel (pack_of_unpack h)
  rw [← hx]
  unfold Float.ofScientific
  split
  · next hfast =>
    obtain ⟨hlt, hsize⟩ := hfast
    have hsize : k < Float.exactlyRepresentablePowersOfTen.size := Nat.lt_succ_of_le hsize
    have hten := normalized_mul (Nat.pow_pos (by decide : 0 < 5)) (five_pow_lt hsize) k
    rw [Nat.cast_pow, Nat.cast_ofNat, ← mul_pow, show (5 : ℚ) * 2 = 10 by norm_num] at hten
    have hwhole := normalized_mul hn hlt 0
    rw [Nat.cast_zero, add_zero, pow_zero, mul_one] at hwhole
    rw [← hten, ← hwhole] at hrounds
    change Float.ofModel (.pack (UnpackedFloat.div .binary64 n.toUInt64.toFloat.toModel.unpack
      (Float.exactlyRepresentablePowersOfTen[k]).toModel.unpack)) = _
    rw [unpack_toFloat hn hlt, unpack_powerOfTen hsize,
      div_of_rounds _ _ hlow hhigh hexponent hrounds]
  · have hplace : Int.negOfNat k = -(k : Int) := Int.negOfNat_eq
    simp only [if_true, Float.Model.ofScientific, UnpackedFloat.ofScientific, hplace, neg_neg,
      Int.toNat_natCast]
    rw [dif_neg hn.ne', if_neg (by omega), if_neg (by omega), if_neg (by omega),
      div_of_rounds _ _ hlow hhigh hexponent]
    rwa [zpow_zero, mul_one, mul_one, Nat.cast_pow, Nat.cast_ofNat]

end Read

end Calculator
