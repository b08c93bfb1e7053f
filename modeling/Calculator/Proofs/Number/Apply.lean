import Calculator.Proofs.Phrase.Whole

/-! # What an operator gives

An operator does one of three things (`apply_cases`): it checks the exact result of two integers, it
computes with doubles and cannot fail, or it divides. From this follow the type of a result
(`isInteger_apply`), the exact value of an integer result (`exact_apply`), and the two conditions
under which there is none (`apply_eq_overflow_iff`, `apply_eq_divisionByZero_iff`). -/

namespace Calculator.Number

/-- The value is an integer, and not a double. -/
def IsInteger : Number → Prop
  | integer _ => True
  | float _ => False

instance : DecidablePred IsInteger
  | integer _ => .isTrue trivial
  | float _ => .isFalse id

@[simp] theorem isInteger_integer (n : Int64) : (integer n).IsInteger := trivial

@[simp] theorem not_isInteger_float (x : Float) : ¬ (float x).IsInteger := id

theorem isInteger_iff {v : Number} : v.IsInteger ↔ ∃ n, v = .integer n := by
  cases v <;> simp

theorem not_isInteger_iff {v : Number} : ¬ v.IsInteger ↔ ∃ x, v = .float x := by
  cases v <;> simp

variable {l r v : Number} {op : Operator} {fault : Fault}

/-- **What an operator does with two values.** -/
theorem apply_cases (l : Number) (op : Operator) (r : Number) :
    (op ≠ .div ∧ (l.IsInteger ∧ r.IsInteger) ∧
        l.apply op r = checked (op.exact l.exact r.exact)) ∨
      (op ≠ .div ∧ ¬ (l.IsInteger ∧ r.IsInteger) ∧ ∃ x, l.apply op r = .ok (.float x)) ∨
      (op = .div ∧ l.apply op r = quotient l.toFloat r.toFloat) := by
  by_cases hop : op = .div
  · subst hop
    exact Or.inr (Or.inr ⟨rfl, by cases l <;> cases r <;> rfl⟩)
  · rcases l with m | x
    · rcases r with n | y
      · exact Or.inl ⟨hop, ⟨trivial, trivial⟩, apply_integer hop m n⟩
      · refine Or.inr (Or.inl ⟨hop, And.right, ?_⟩)
        cases op <;> first | exact ⟨_, rfl⟩ | exact (hop rfl).elim
    · refine Or.inr (Or.inl ⟨hop, And.left, ?_⟩)
      cases op <;> first | exact ⟨_, rfl⟩ | exact (hop rfl).elim

theorem quotient_eq_error_iff {x y : Float} :
    quotient x y = .error fault ↔ fault = .divisionByZero ∧ (y == 0) = true := by
  unfold quotient
  split
  · next hy => simp [hy, eq_comm]
  · next hy => simp [hy]

theorem not_isInteger_of_quotient {x y : Float} (h : quotient x y = .ok v) : ¬ v.IsInteger := by
  unfold quotient at h
  split at h
  · cases h
  · cases h
    exact not_isInteger_float _

/-- **A result is an integer** exactly if both values are and the operator does not divide. -/
theorem isInteger_apply (h : l.apply op r = .ok v) :
    v.IsInteger ↔ op ≠ .div ∧ l.IsInteger ∧ r.IsInteger := by
  rcases apply_cases l op r with ⟨hop, hboth, happly⟩ | ⟨hop, hboth, x, happly⟩ | ⟨rfl, happly⟩
  · rw [happly] at h
    obtain ⟨n, rfl, -⟩ := checked_eq_ok_iff.mp h
    exact iff_of_true trivial ⟨hop, hboth⟩
  · rw [happly] at h
    cases h
    exact iff_of_false (not_isInteger_float x) fun hboth' => hboth hboth'.2
  · rw [happly] at h
    exact iff_of_false (not_isInteger_of_quotient h) fun hop => hop.1 rfl

theorem exact_apply (h : l.apply op r = .ok v) (hv : v.IsInteger) :
    v.exact = op.exact l.exact r.exact := by
  rcases apply_cases l op r with ⟨-, -, happly⟩ | ⟨-, -, x, happly⟩ | ⟨-, happly⟩
  · rw [happly] at h
    obtain ⟨n, rfl, hn⟩ := checked_eq_ok_iff.mp h
    exact hn
  · rw [happly] at h
    cases h
    cases hv
  · rw [happly] at h
    exact (not_isInteger_of_quotient h hv).elim

/-- **An operator overflows** exactly if both values are integers and their exact result does not
fit. -/
theorem apply_eq_overflow_iff :
    l.apply op r = .error .overflow ↔
      op ≠ .div ∧ (l.IsInteger ∧ r.IsInteger) ∧ ¬ Fits (op.exact l.exact r.exact) := by
  rcases apply_cases l op r with ⟨hop, hboth, happly⟩ | ⟨hop, hboth, x, happly⟩ | ⟨rfl, happly⟩
  · rw [happly, checked_eq_error_iff]
    exact ⟨fun h => ⟨hop, hboth, h.2⟩, fun h => ⟨rfl, h.2.2⟩⟩
  · rw [happly]
    exact iff_of_false nofun fun h => hboth h.2.1
  · rw [happly, quotient_eq_error_iff]
    exact iff_of_false nofun fun h => h.1 rfl

/-- **An operator divides by zero** exactly if it divides and the right value is a zero as a
double. -/
theorem apply_eq_divisionByZero_iff :
    l.apply op r = .error .divisionByZero ↔ op = .div ∧ (r.toFloat == 0) = true := by
  rcases apply_cases l op r with ⟨hop, -, happly⟩ | ⟨hop, -, x, happly⟩ | ⟨rfl, happly⟩
  · rw [happly, checked_eq_error_iff]
    exact iff_of_false nofun fun h => hop h.1
  · rw [happly]
    exact iff_of_false nofun fun h => hop h.1
  · rw [happly, quotient_eq_error_iff]
    exact and_congr_left' (iff_of_true rfl rfl)

theorem apply_error (h : l.apply op r = .error fault) :
    fault = .divisionByZero ↔ op = .div := by
  cases fault with
  | divisionByZero => exact iff_of_true rfl (apply_eq_divisionByZero_iff.mp h).1
  | overflow => exact iff_of_false nofun (apply_eq_overflow_iff.mp h).1

/-- Beside a double a sum, a difference or a product never fails. -/
theorem exists_float_of_apply (hop : op ≠ .div) (h : ¬ (l.IsInteger ∧ r.IsInteger)) :
    ∃ x, l.apply op r = .ok (.float x) := by
  rcases apply_cases l op r with ⟨-, hboth, -⟩ | ⟨-, -, hfloat⟩ | ⟨hdiv, -⟩
  · exact (h hboth).elim
  · exact hfloat
  · exact (hop hdiv).elim

end Calculator.Number
