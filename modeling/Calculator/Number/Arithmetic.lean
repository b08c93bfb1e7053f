import Calculator.Number

/-! # Arithmetic

Sums, differences and products of integers are exact, and a fault if they do not fit in 64 bits. A
double on either side makes the result a double. A quotient is always a double, and a fault if the
divisor is a zero. -/

namespace Calculator

/-- A binary operator. -/
inductive Operator where
  | add
  | sub
  | mul
  | div
  deriving DecidableEq, Repr

/-- How tightly an operator binds. -/
inductive Precedence where
  /-- The loose operators, which make sums. -/
  | sum
  /-- The tight operators, which make products. -/
  | product
  deriving DecidableEq, Repr

/-- Why two values have no result. -/
inductive Fault where
  /-- The divisor is a zero. -/
  | divisionByZero
  /-- The exact integer does not fit in 64 bits. -/
  | overflow
  deriving DecidableEq, Repr

namespace Operator

/-- The character that writes the operator. -/
def symbol : Operator → Char
  | add => '+'
  | sub => '-'
  | mul => '*'
  | div => '/'

/-- The symbol as a text. -/
def text (op : Operator) : String := String.ofList [op.symbol]

/-- The operator that a character writes. -/
def ofSymbol? : Char → Option Operator
  | '+' => some add
  | '-' => some sub
  | '*' => some mul
  | '/' => some div
  | _ => none

/-- Products bind tighter than sums. -/
def precedence : Operator → Precedence
  | add | sub => .sum
  | mul | div => .product

theorem ofSymbol?_eq_some_iff {c : Char} {op : Operator} :
    ofSymbol? c = some op ↔ c = op.symbol := by
  constructor
  · intro h
    unfold ofSymbol? at h
    split at h <;> cases h <;> rfl
  · rintro rfl
    cases op <;> rfl

end Operator

namespace Number

/-- An exact integer as a result. -/
def checked (k : Int) : Except Fault Number :=
  match integer? k with
  | some v => .ok v
  | none => .error .overflow

/-- The quotient as a double. -/
def quotient (lhs rhs : Float) : Except Fault Number :=
  if rhs == 0 then .error .divisionByZero else .ok (.float (lhs / rhs))

/-- The result of an operator on two values. -/
def apply (lhs : Number) (op : Operator) (rhs : Number) : Except Fault Number :=
  match op, lhs, rhs with
  | .add, .integer m, .integer n => checked (m.toInt + n.toInt)
  | .sub, .integer m, .integer n => checked (m.toInt - n.toInt)
  | .mul, .integer m, .integer n => checked (m.toInt * n.toInt)
  | .add, lhs, rhs => .ok (.float (lhs.toFloat + rhs.toFloat))
  | .sub, lhs, rhs => .ok (.float (lhs.toFloat - rhs.toFloat))
  | .mul, lhs, rhs => .ok (.float (lhs.toFloat * rhs.toFloat))
  | .div, lhs, rhs => quotient lhs.toFloat rhs.toFloat

/-- The results of a chain of operators, each applied to the last value that there was: a fault
leaves the value as it is. -/
def accumulate (value : Number) : List (Operator × Number) → List (Except Fault Number)
  | [] => []
  | (op, rhs) :: rest =>
    match value.apply op rhs with
    | .ok next => .ok next :: accumulate next rest
    | .error fault => .error fault :: accumulate value rest

theorem checked_eq_ok_iff {k : Int} {v : Number} :
    checked k = .ok v ↔ ∃ n : Int64, v = .integer n ∧ n.toInt = k := by
  rw [← integer?_eq_some_iff]
  unfold checked
  split <;> simp_all

theorem checked_eq_error_iff {k : Int} {fault : Fault} :
    checked k = .error fault ↔ fault = .overflow ∧ ¬ Fits k := by
  rw [← integer?_eq_none_iff]
  unfold checked
  split
  · next v hv => simp [hv]
  · next hv => simp [hv, eq_comm]

end Number

end Calculator
