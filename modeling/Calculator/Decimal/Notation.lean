import Calculator.Decimal.Shortest

/-! # How doubles are written and read

A double is written with the digits of the shortest decimal that reads back. From `1e-4` up to, and
without, `1e16` the notation is plain, with a point and a digit on either side of it; beyond, one
digit stands before the point, the point is left out if nothing follows it, and the power of ten
comes after `e` without a plus sign. A literal is read as the nearest double, whatever its
length. -/

namespace Calculator.Decimal

/-- Plain notation: `point` digits before the point, zeros where the digits do not reach. -/
def plain (digits : List Char) (point : Int) : List Char :=
  if point ≤ 0 then ['0', '.'] ++ List.replicate (-point).toNat '0' ++ digits
  else
    let before := digits.take point.toNat
    let after := digits.drop point.toNat
    before ++ List.replicate (point.toNat - digits.length) '0' ++ ['.'] ++
      (if after = [] then ['0'] else after)

/-- An integer in decimal digits, after a minus sign if it is negative. -/
def integer : Int → List Char
  | .ofNat n => digitsOf n
  | .negSucc n => '-' :: digitsOf (n + 1)

/-- Scientific notation: one digit before the point, which stands `point` places further on. -/
def scientific (digits : List Char) (point : Int) : List Char :=
  digits.take 1 ++ (if digits.length ≤ 1 then [] else '.' :: digits.drop 1) ++
    ['e'] ++ integer (point - 1)

/-- The text of a finite double that is neither negative nor a zero. -/
def positive (x : Float) : List Char :=
  let decimal := (Dyadic.ofBits x.toBits).shortest
  let digits := digitsOf decimal.digits
  let point := digits.length + decimal.scale
  if 1e-4 ≤ x ∧ x < 1e16 then plain digits point else scientific digits point

/-- The text of a double whose sign does not count. -/
def magnitude (x : Float) : List Char :=
  if x.isInf then ['i', 'n', 'f'] else if x == 0 then ['0', '.', '0'] else positive x

/-- The sign bit is set. -/
def isSigned (x : Float) : Bool := x.toBits >>> 63 = 1

/-- The text of a double. -/
def float (x : Float) : List Char :=
  if x.isNaN then ['N', 'a', 'N']
  else if isSigned x then '-' :: magnitude x.abs else magnitude x

/-- The natural number that a list of decimal digits writes. -/
def valueOf (digits : List Char) : Nat := Nat.ofDigitChars 10 digits 0

/-- The double nearest to the decimal with these digits before and after the point. -/
def read (whole fraction : List Char) : Float :=
  Float.ofScientific (valueOf (whole ++ fraction)) true fraction.length

theorem valueOf_digitsOf (n : Nat) : valueOf (digitsOf n) = n :=
  Nat.ofDigitChars_toDigits (by decide) (by decide)

theorem isDigit_of_mem_digitsOf {n : Nat} {c : Char} (h : c ∈ digitsOf n) : c.isDigit :=
  Nat.isDigit_of_mem_toDigits (by decide) (by decide) h

end Calculator.Decimal
