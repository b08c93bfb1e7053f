import Calculator.Decimal.Notation

/-! # Numbers

A value is a 64-bit integer or a double. Equality in the sense of `=` tells every two of them
apart, down to the sign of a zero; the comparison `==` is the one of arithmetic, where the two zeros
agree and no double that is not a number agrees with anything. -/

namespace Calculator

/-- A value of the calculator. -/
inductive Number where
  /-- A 64-bit integer. -/
  | integer (n : Int64)
  /-- A double. -/
  | float (x : Float)
  deriving DecidableEq, Repr

namespace Number

/-- The integer fits in 64 bits, one of them for the sign. -/
def Fits (k : Int) : Prop := Int64.minValue.toInt ≤ k ∧ k ≤ Int64.maxValue.toInt

instance (k : Int) : Decidable (Fits k) := inferInstanceAs (Decidable (_ ∧ _))

/-- The integer as a value of the calculator, if it fits. -/
def integer? (k : Int) : Option Number :=
  if Fits k then some (.integer (Int64.ofInt k)) else none

/-- The nearest double; halfway between two, the one with the even mantissa. -/
def toFloat : Number → Float
  | .integer n => ⟨Float.Model.ofInt n.toInt⟩
  | .float x => x

/-- Comparison of values: an integer and a double never agree. -/
def agree : Number → Number → Bool
  | .integer m, .integer n => m == n
  | .float x, .float y => x == y
  | _, _ => false

instance : BEq Number := ⟨agree⟩

/-- How a value is shown. -/
def text : Number → String
  | .integer n => String.ofList (Decimal.integer n.toInt)
  | .float x => String.ofList (Decimal.float x)

/-! ### Integers that fit -/

theorem fits_iff {k : Int} :
    Fits k ↔ -9223372036854775808 ≤ k ∧ k ≤ 9223372036854775807 := Iff.rfl

theorem fits_toInt (n : Int64) : Fits n.toInt := ⟨n.minValue_le_toInt, n.toInt_le⟩

theorem toInt_ofInt_of_fits {k : Int} (h : Fits k) : (Int64.ofInt k).toInt = k :=
  Int64.toInt_ofInt_of_le (fits_iff.1 h).1 (by have := (fits_iff.1 h).2; omega)

theorem integer?_eq_none_iff {k : Int} : integer? k = none ↔ ¬ Fits k := by
  unfold integer?
  split <;> simp_all

theorem integer?_eq_some_iff {k : Int} {v : Number} :
    integer? k = some v ↔ ∃ n : Int64, v = .integer n ∧ n.toInt = k := by
  unfold integer?
  split
  · next h =>
    have hk := toInt_ofInt_of_fits h
    constructor
    · intro hv
      exact ⟨Int64.ofInt k, (Option.some.inj hv).symm, hk⟩
    · rintro ⟨n, rfl, rfl⟩
      rw [Int64.ofInt_toInt]
  · next h =>
    simp only [reduceCtorEq, false_iff]
    rintro ⟨n, -, rfl⟩
    exact h (fits_toInt n)

end Number

end Calculator
