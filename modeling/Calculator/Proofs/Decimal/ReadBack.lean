import Calculator.Proofs.Decimal.Reading

/-! # A double in plain notation reads back

Plain notation writes the shortest decimal of a double with digits on either side of a point
(`exists_pointed_plain`). This decimal lies in the interval of the double, so reading it gives the
double again (`exists_pointed_positive`). A zero is written like any other number, and what is read
is the zero without a sign (`read_zero`). -/

namespace Calculator

open Float.Model Float.Model.UnpackedFloat

/-! ### The bounds of plain notation -/

section Bounds

variable {x : Float}

theorem unpack_least : (1e-4 : Float).toModel.unpack =
    .finite .positive 7378697629483821 (-66) (by decide) := by
  have h : (1e-4 : Float).toModel =
      .pack (.finite .positive 7378697629483821 (-66) (by decide)) := by
    decide +kernel
  rw [h, unpack_pack (by decide) (by decide) (by decide) (by decide)]

theorem unpack_bound : (1e16 : Float).toModel.unpack =
    .finite .positive 5000000000000000 1 (by decide) := by
  have h : (1e16 : Float).toModel = .pack (.finite .positive 5000000000000000 1 (by decide)) := by
    decide +kernel
  rw [h, unpack_pack (by decide) (by decide) (by decide) (by decide)]

theorem unpack_of_le_of_lt (hlow : 1e-4 ≤ x) (hhigh : x < 1e16) :
    ∃ m e hpos, x.toModel.unpack = .finite .positive m e hpos ∧ -66 ≤ e := by
  have hlow : (1e-4 : Float).toModel.unpack.le x.toModel.unpack = true := of_decide_eq_true hlow
  have hhigh : x.toModel.unpack.lt (1e16 : Float).toModel.unpack = true := of_decide_eq_true hhigh
  rw [unpack_least] at hlow
  rw [unpack_bound] at hhigh
  rcases hx : x.toModel.unpack with sign | _ | sign | ⟨sign, m, e, hpos⟩ <;> rw [hx] at hlow hhigh
  · cases sign with
    | positive => cases hhigh
    | negative => cases hlow
  · cases hlow
  · cases hlow
  · cases sign with
    | negative => cases hlow
    | positive =>
      refine ⟨m, e, hpos, rfl, ?_⟩
      simp only [UnpackedFloat.le, UnpackedFloat.compare, Option.any_some] at hlow
      by_contra hlt
      rw [Int.compare_eq_gt.2 (by omega)] at hlow
      cases hlow

end Bounds

/-! ### Plain notation -/

namespace Decimal

theorem valueOf_zeros_append (k : Nat) (digits : List Char) :
    valueOf (List.replicate k '0' ++ digits) = valueOf digits := by
  rw [valueOf, Nat.ofDigitChars_append, Nat.ofDigitChars_replicate_zero, Nat.mul_zero, valueOf]

theorem valueOf_append_zeros (digits : List Char) (k : Nat) :
    valueOf (digits ++ List.replicate k '0') = 10 ^ k * valueOf digits := by
  rw [valueOf, Nat.ofDigitChars_append, Nat.ofDigitChars_replicate_zero, valueOf]

/-- A text with digits on either side of a point. -/
structure Pointed (text whole fraction : List Char) : Prop where
  eq : text = whole ++ '.' :: fraction
  whole_digits : ∀ c ∈ whole, c.isDigit
  fraction_digits : ∀ c ∈ fraction, c.isDigit
  fraction_ne : fraction ≠ []

/-- The number that a text with a point in it writes. -/
def pointedValue (whole fraction : List Char) : ℚ :=
  valueOf (whole ++ fraction) / 10 ^ fraction.length

section Plain

variable {digits : List Char} {scale : Int}

theorem isDigit_of_mem_zeros {k : Nat} {c : Char} (h : c ∈ List.replicate k '0') : c.isDigit := by
  rw [(List.mem_replicate.1 h).2]
  rfl

theorem pointedValue_of_places {whole fraction : List Char} {n : Nat}
    (hvalue : valueOf (whole ++ fraction) = n) (hplaces : scale = -(fraction.length : Int)) :
    pointedValue whole fraction = Decimal.value ⟨n, scale⟩ := by
  rw [pointedValue, Decimal.value, hvalue, hplaces, zpow_neg, zpow_natCast, div_eq_mul_inv]

/-- All digits stand after the point. -/
theorem pointed_plain_of_nonpos (hdigits : ∀ c ∈ digits, c.isDigit) (hne : digits ≠ [])
    (hpoint : digits.length + scale ≤ 0) :
    ∃ whole fraction, Pointed (plain digits (digits.length + scale)) whole fraction ∧
      pointedValue whole fraction = Decimal.value ⟨valueOf digits, scale⟩ := by
  obtain ⟨zeros, hzeros⟩ : ∃ zeros : Nat, -(digits.length + scale) = zeros :=
    ⟨(-(digits.length + scale)).toNat, by omega⟩
  refine ⟨['0'], List.replicate zeros '0' ++ digits, ⟨?_, by simp, ?_, by simp [hne]⟩,
    pointedValue_of_places ?_ ?_⟩
  · rw [plain, if_pos hpoint, hzeros]
    rfl
  · intro c hc
    exact (List.mem_append.1 hc).elim isDigit_of_mem_zeros (hdigits c)
  · exact valueOf_zeros_append (zeros + 1) digits
  · rw [List.length_append, List.length_replicate]
    omega

/-- The point stands among the digits. -/
theorem pointed_plain_of_inside (hdigits : ∀ c ∈ digits, c.isDigit)
    (hpoint : 0 < digits.length + scale) (hscale : scale < 0) :
    ∃ whole fraction, Pointed (plain digits (digits.length + scale)) whole fraction ∧
      pointedValue whole fraction = Decimal.value ⟨valueOf digits, scale⟩ := by
  obtain ⟨before, hbefore⟩ : ∃ before : Nat, digits.length + scale = before :=
    ⟨(digits.length + scale).toNat, by omega⟩
  have hlt : before < digits.length := by omega
  have hafter : digits.drop before ≠ [] := by
    rw [ne_eq, List.drop_eq_nil_iff]
    omega
  refine ⟨digits.take before, digits.drop before,
    ⟨?_, fun c hc => hdigits c (List.mem_of_mem_take hc),
      fun c hc => hdigits c (List.mem_of_mem_drop hc), hafter⟩, pointedValue_of_places ?_ ?_⟩
  · rw [plain, if_neg (by omega), hbefore, Int.toNat_natCast]
    simp [hafter, Nat.sub_eq_zero_of_le hlt.le]
  · rw [List.take_append_drop]
  · rw [List.length_drop]
    omega

/-- The point stands behind the digits, and perhaps some zeros. -/
theorem pointed_plain_of_nonneg (hdigits : ∀ c ∈ digits, c.isDigit) (hne : digits ≠ [])
    (hscale : 0 ≤ scale) :
    ∃ whole fraction, Pointed (plain digits (digits.length + scale)) whole fraction ∧
      pointedValue whole fraction = Decimal.value ⟨valueOf digits, scale⟩ := by
  obtain ⟨zeros, rfl⟩ := Int.eq_ofNat_of_zero_le hscale
  have hpos := List.length_pos_iff.2 hne
  refine ⟨digits ++ List.replicate zeros '0', ['0'], ⟨?_, ?_, by simp, by simp⟩, ?_⟩
  · have hpoint : ((digits.length : Int) + zeros).toNat = digits.length + zeros := by omega
    rw [plain, if_neg (by omega), hpoint]
    simp
  · intro c hc
    exact (List.mem_append.1 hc).elim (hdigits c) isDigit_of_mem_zeros
  · have hzeros : digits ++ List.replicate zeros '0' ++ ['0'] =
        digits ++ List.replicate (zeros + 1) '0' := by
      rw [List.append_assoc, List.replicate_succ']
    rw [pointedValue, hzeros, valueOf_append_zeros, Decimal.value, zpow_natCast]
    simp only [List.length_singleton]
    push_cast
    ring

/-- **Plain notation writes the number**, with a point in it. -/
theorem exists_pointed_plain (n : Nat) (scale : Int) :
    ∃ whole fraction, Pointed (plain (digitsOf n) ((digitsOf n).length + scale)) whole fraction ∧
      pointedValue whole fraction = Decimal.value ⟨n, scale⟩ := by
  have hdigits : ∀ c ∈ digitsOf n, c.isDigit := fun c hc => isDigit_of_mem_digitsOf hc
  have hne : digitsOf n ≠ [] := Nat.toDigits_ne_nil
  have hvalue := valueOf_digitsOf n
  generalize digitsOf n = digits at *
  subst hvalue
  rcases Int.lt_or_le scale 0 with hneg | hnonneg
  · rcases Int.lt_or_le 0 (digits.length + scale) with hinside | hnonpos
    · exact pointed_plain_of_inside hdigits hinside hneg
    · exact pointed_plain_of_nonpos hdigits hne hnonpos
  · exact pointed_plain_of_nonneg hdigits hne hnonneg

end Plain

/-- **A double in plain notation reads back.** -/
theorem exists_pointed_positive {x : Float} (hlow : 1e-4 ≤ x) (hhigh : x < 1e16) :
    ∃ whole fraction, Pointed (positive x) whole fraction ∧ read whole fraction = x := by
  obtain ⟨m, e, hpos, hx, he⟩ := unpack_of_le_of_lt hlow hhigh
  have hbits := ofBits_of_unpack hx (by omega)
  have hrounds := (Dyadic.ofBits x.toBits).rounds_shortest (by rw [hbits]; exact hpos)
  obtain ⟨whole, fraction, hpointed, hvalue⟩ :=
    exists_pointed_plain (Dyadic.ofBits x.toBits).shortest.digits
      (Dyadic.ofBits x.toBits).shortest.scale
  refine ⟨whole, fraction, ?_, ?_⟩
  · rw [positive, if_pos ⟨hlow, hhigh⟩]
    exact hpointed
  · rw [← hvalue, hbits] at hrounds
    exact ofScientific_of_rounds hx (by omega) (List.length_pos_iff.2 hpointed.fraction_ne) hrounds

/-- **Zero reads back**, if its sign is clear. -/
theorem read_zero {x : Float} (hzero : x == 0) (hsign : isSigned x = false) :
    read ['0'] ['0'] = x := by
  have hnegative : isSigned (-0) = true := by decide +kernel
  obtain ⟨-, -, rfl | ⟨rfl, -⟩ | ⟨rfl, -⟩⟩ := Float.beq_iff_ne_nan_and_eq.1 hzero
  · decide +kernel
  · decide +kernel
  · exact absurd hnegative (by rw [hsign]; exact Bool.false_ne_true)

/-! ### Which doubles are written in plain notation -/

/-- The double is written without a power of ten, apart from its sign. -/
def IsPlain (x : Float) : Prop := x == 0 ∨ 1e-4 ≤ x ∧ x < 1e16

theorem IsPlain.finite {x : Float} (h : IsPlain x) : x.isNaN = false ∧ x.isInf = false := by
  rcases h with h | ⟨hlow, hhigh⟩
  · obtain ⟨-, -, rfl | ⟨rfl, -⟩ | ⟨rfl, -⟩⟩ := Float.beq_iff_ne_nan_and_eq.1 h <;>
      decide +kernel
  · obtain ⟨m, e, hpos, hx, -⟩ := unpack_of_le_of_lt hlow hhigh
    change x.toModel.unpack.isNaN = false ∧ x.toModel.unpack.isInf = false
    rw [hx]
    exact ⟨rfl, rfl⟩

theorem abs_nan : Float.nan.abs = Float.nan := by decide +kernel

/-- **A plain double reads back** if its sign is clear. -/
theorem exists_pointed_magnitude {x : Float} (h : IsPlain x) :
    ∃ whole fraction, Pointed (magnitude x) whole fraction ∧
      (isSigned x = false → read whole fraction = x) := by
  rw [magnitude, h.finite.2, if_neg Bool.false_ne_true]
  by_cases hzero : x == 0
  · rw [if_pos hzero]
    exact ⟨['0'], ['0'], ⟨rfl, by simp, by simp, by simp⟩, read_zero hzero⟩
  · rw [if_neg hzero]
    obtain ⟨hlow, hhigh⟩ := h.resolve_left hzero
    obtain ⟨whole, fraction, hpointed, hread⟩ := exists_pointed_positive hlow hhigh
    exact ⟨whole, fraction, hpointed, fun _ => hread⟩

end Decimal

end Calculator
