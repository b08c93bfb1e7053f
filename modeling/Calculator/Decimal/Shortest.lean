import Calculator.Decimal.Dyadic

/-! # The shortest decimal that reads back

Of the decimals that round to a given double, those with the fewest digits are looked for grid by
grid: the decimals with `n` digits form a grid around the double's magnitude, and only the two grid
points next to it can be the closest ones. The first grid with a hit wins; of two hits the closer
one is taken, and of two equally close ones the upper. -/

namespace Calculator

/-- The number `digits * 10 ^ scale`. -/
structure Decimal where
  /-- The digits, read as one natural number. -/
  digits : Nat
  /-- The power of ten that the last digit counts. -/
  scale : Int
  deriving DecidableEq, Repr

namespace Decimal

/-- The decimal digits of a natural number, most significant first. -/
def digitsOf (n : Nat) : List Char := Nat.toDigits 10 n

/-- The same number without zeros at the end; `fuel` bounds how many are taken away. -/
def stripWithin : Nat → Nat → Int → Decimal
  | 0, digits, scale => ⟨digits, scale⟩
  | fuel + 1, digits, scale =>
    if digits % 10 = 0 then stripWithin fuel (digits / 10) (scale + 1) else ⟨digits, scale⟩

/-- The same number without zeros at the end. -/
def strip (d : Decimal) : Decimal := stripWithin (digitsOf d.digits).length d.digits d.scale

end Decimal

namespace Dyadic

/-- The least power of ten above the magnitude, which must not be zero. -/
def decimalExponent (d : Dyadic) : Int :=
  if d.denominator ≤ d.numerator then
    ((Decimal.digitsOf (d.numerator / d.denominator)).length : Int)
  else 1 - ((Decimal.digitsOf ((d.denominator - 1) / d.numerator)).length : Int)

/-- The grid point that `n` digits give for the magnitude, if one of the two next to it reads back;
the closer if both do, and the upper if they are equally close. -/
def onGrid? (d : Dyadic) (n : Nat) : Option Decimal :=
  let scale := d.decimalExponent - n
  let numerator := d.numerator * tens (-scale)
  let denominator := d.denominator * tens scale
  let below := numerator / denominator
  let above := below + 1
  let nearBelow := 2 * (numerator % denominator) < denominator
  match d.attracts below scale, d.attracts above scale with
  | true, true => some ⟨if nearBelow then below else above, scale⟩
  | true, false => some ⟨below, scale⟩
  | false, true => some ⟨above, scale⟩
  | false, false => none

/-- The magnitude itself, in as many digits as that takes. -/
def exact (d : Dyadic) : Decimal :=
  if 0 ≤ d.exponent then ⟨d.numerator, 0⟩
  else ⟨d.mantissa * Nat.pow 5 (-d.exponent).toNat, d.exponent⟩

/-- The closest of the shortest decimals that read back as the double; seventeen digits are enough
for every double. -/
def shortest (d : Dyadic) : Decimal :=
  (((List.range' 1 17).findSome? d.onGrid?).getD d.exact).strip

end Dyadic

end Calculator
