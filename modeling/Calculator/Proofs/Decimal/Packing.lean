import Calculator.Proofs.Decimal.Rounding

/-! # The bits of a normal double

A positive double that is normal has its exponent and the last fifty-two bits of its mantissa in its
bits (`pack_eq`). So packing and unpacking are inverse to each other on these doubles
(`unpack_pack`, `pack_of_unpack`), and the magnitude in the bits is the unpacked double
(`ofBits_of_unpack`). -/

namespace Calculator

open Float.Model Float.Model.UnpackedFloat

theorem toNat_packComponents (sign : Sign) (exponent : BitVec 11) (mantissa : BitVec 52) :
    (packComponents .binary64 sign exponent mantissa).toNat =
      sign.toBitVec.toNat * 2 ^ 63 + exponent.toNat * 2 ^ 52 + mantissa.toNat := by
  change (sign.toBitVec ++ exponent ++ mantissa).toNat = _
  rw [BitVec.toNat_append, BitVec.toNat_append, ← Nat.shiftLeft_add_eq_or_of_lt mantissa.isLt,
    ← Nat.shiftLeft_add_eq_or_of_lt exponent.isLt, Nat.shiftLeft_eq, Nat.shiftLeft_eq]
  ring

theorem toNat_append_one (mantissa : BitVec 52) :
    (1#1 ++ mantissa).toNat = 2 ^ 52 + mantissa.toNat := by
  rw [BitVec.toNat_append, ← Nat.shiftLeft_add_eq_or_of_lt mantissa.isLt]
  rfl

variable {m : Nat} {e : Int}

theorem toNat_mantissa (hlow : 2 ^ 52 ≤ m) (hhigh : m < 2 ^ 53) :
    (BitVec.ofNat 52 m).toNat = m - 2 ^ 52 := by
  rw [BitVec.toNat_ofNat, Nat.mod_eq_sub_mod hlow, Nat.mod_eq_of_lt (by omega)]

theorem toNat_exponent (hmax : e ≤ 971) :
    (BitVec.ofNat 11 (e + 1075).toNat).toNat = (e + 1075).toNat := by
  rw [BitVec.toNat_ofNat, Nat.mod_eq_of_lt (by omega)]

theorem biased_exponent (e : Int) :
    (e + Format.binary64.exponentBias + (52 : Nat)).toNat = (e + 1075).toNat := by
  change (e + (1023 : Nat) + (52 : Nat)).toNat = _
  omega

theorem pack_eq (hlow : 2 ^ 52 ≤ m) (hhigh : m < 2 ^ 53) (hmax : e ≤ 971) (hpos : 0 < m) :
    UnpackedFloat.pack .binary64 (.finite .positive m e hpos) =
      packComponents .binary64 .positive (BitVec.ofNat 11 (e + 1075).toNat)
        (BitVec.ofNat 52 m) := by
  have hlog : m.log2 = 52 := log2_eq hlow hhigh
  have hfits : ¬2 ^ 11 ≤ (e + 1075).toNat + 1 := by omega
  simp only [UnpackedFloat.pack, biased_exponent]
  rw [if_neg hfits, if_pos (by rw [hlog]; rfl)]

theorem unpack_pack (hlow : 2 ^ 52 ≤ m) (hhigh : m < 2 ^ 53) (hmin : -1074 ≤ e) (hmax : e ≤ 971)
    (hpos : 0 < m) :
    (Float.Model.pack (.finite .positive m e hpos)).unpack = .finite .positive m e hpos := by
  have hexponent := toNat_exponent hmax
  have htop : BitVec.ofNat 11 (e + 1075).toNat ≠ -1#11 := by
    rw [ne_eq, ← BitVec.toNat_inj, hexponent]
    change ¬_ = 2047
    omega
  have hzero : BitVec.ofNat 11 (e + 1075).toNat ≠ 0#11 := by
    rw [ne_eq, ← BitVec.toNat_inj, hexponent]
    change ¬_ = 0
    omega
  change UnpackedFloat.unpack .binary64 (UnpackedFloat.pack .binary64 _) = _
  rw [pack_eq hlow hhigh hmax hpos]
  simp only [UnpackedFloat.unpack, unpackExponent_packComponents, unpackMantissa_packComponents,
    unpackSign_packComponents, Sign.ofBitVec_toBitVec]
  rw [if_neg htop, if_neg hzero, finite.injEq, toNat_append_one, toNat_mantissa hlow hhigh,
    hexponent]
  change _ ∧ _ ∧ ((e + 1075).toNat : Int) - (1023 + 52 : Nat) = e
  exact ⟨rfl, by omega, by omega⟩

/-- A double whose exponent is not the least one is normal. -/
theorem bounds_of_unpack {bits : BitVec Format.binary64.numBits} {sign : Sign} {hpos : 0 < m}
    (h : UnpackedFloat.unpack .binary64 bits = .finite sign m e hpos) (he : -1074 < e) :
    2 ^ 52 ≤ m ∧ m < 2 ^ 53 ∧ e ≤ 971 := by
  simp only [UnpackedFloat.unpack] at h
  split at h
  · split at h <;> cases h
  · next htop =>
    split at h
    · next hzero =>
      split at h
      · cases h
      · rw [finite.injEq, hzero] at h
        obtain ⟨-, -, rfl⟩ := h
        exact absurd he (by decide)
    · rw [finite.injEq, toNat_append_one] at h
      obtain ⟨-, rfl, rfl⟩ := h
      have hexponent : (unpackExponent bits).toNat < 2 ^ 11 := (unpackExponent bits).isLt
      have hmantissa : (unpackMantissa bits).toNat < 2 ^ 52 := (unpackMantissa bits).isLt
      rw [← BitVec.toNat_inj] at htop
      change ¬_ = 2047 at htop
      change _ ∧ _ ∧ ((unpackExponent bits).toNat : Int) - (1023 + 52 : Nat) ≤ 971
      omega

theorem pack_of_unpack {x : Float.Model} {hpos : 0 < m}
    (h : x.unpack = .finite .positive m e hpos) :
    Float.Model.pack (.finite .positive m e hpos) = x := by
  rw [← h, Float.Model.mk.injEq, ← UInt64.toBitVec_inj]
  exact pack_unpack_of_valid x.valid

theorem ofBits_of_unpack {x : Float} {hpos : 0 < m}
    (h : x.toModel.unpack = .finite .positive m e hpos) (he : -1074 < e) :
    Dyadic.ofBits x.toBits = ⟨m, e, m = 2 ^ 52⟩ := by
  obtain ⟨hlow, hhigh, hmax⟩ := bounds_of_unpack h he
  have hbits : x.toBits.toNat = (e + 1075).toNat * 2 ^ 52 + (m - 2 ^ 52) := by
    have hpack : UnpackedFloat.pack .binary64 x.toModel.unpack = x.toBits.toBitVec :=
      pack_unpack_of_valid x.toModel.valid
    change x.toBits.toBitVec.toNat = _
    rw [← hpack, h, pack_eq hlow hhigh hmax, toNat_packComponents, toNat_exponent hmax,
      toNat_mantissa hlow hhigh]
    simp [Sign.toBitVec]
  have hfraction : x.toBits.toNat % 2 ^ 52 = m - 2 ^ 52 := by omega
  have hbiased : x.toBits.toNat / 2 ^ 52 % 2 ^ 11 = (e + 1075).toNat := by omega
  have htwos : Dyadic.twos 52 = 2 ^ 52 ∧ Dyadic.twos 11 = 2 ^ 11 := ⟨rfl, rfl⟩
  simp only [Dyadic.ofBits, htwos, hfraction, hbiased]
  rw [if_neg (by omega), Dyadic.mk.injEq, ← Bool.decide_and, decide_eq_decide]
  omega

end Calculator
