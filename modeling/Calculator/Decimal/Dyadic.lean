/-! # Finite doubles as exact numbers

A finite double is a natural number of units, each unit a power of two. The reals that round to a
double reach halfway to its two neighbours; the halves lie closer below a power of two, where the
spacing changes, and the two ends belong to the double exactly if its mantissa is even. -/

namespace Calculator

/-- The magnitude of a finite double: `mantissa` units of two to the `exponent`. -/
structure Dyadic where
  /-- How many units. -/
  mantissa : Nat
  /-- The unit is this power of two. -/
  exponent : Int
  /-- The neighbour below is half as far away as the neighbour above. -/
  narrowBelow : Bool
  deriving DecidableEq, Repr

namespace Dyadic

/-- A power of two; one if the exponent is negative. -/
def twos (exponent : Int) : Nat := Nat.pow 2 exponent.toNat

/-- A power of ten; one if the exponent is negative. -/
def tens (exponent : Int) : Nat := Nat.pow 10 exponent.toNat

/-- The magnitude in the fields of a finite double's sixty-four bits. -/
def ofBits (bits : UInt64) : Dyadic :=
  let fraction : Nat := bits.toNat % twos 52
  let biased : Nat := bits.toNat / twos 52 % twos 11
  if biased = 0 then ⟨fraction, -1074, false⟩
  else ⟨twos 52 + fraction, biased - 1075, fraction = 0 && 1 < biased⟩

/-- The numerator of the magnitude, over `denominator`. -/
def numerator (d : Dyadic) : Nat := d.mantissa * twos d.exponent

/-- The denominator of the magnitude, a power of two. -/
def denominator (d : Dyadic) : Nat := twos (-d.exponent)

/-- The order of `a * 10 ^ i` and `b * 2 ^ j`. -/
def compareScaled (a : Nat) (i : Int) (b : Nat) (j : Int) : Ordering :=
  compare (a * tens i * twos (-j)) (b * twos j * tens (-i))

/-- The real `digits * 10 ^ scale` is one of those that round to `d`. The ends of the interval are
counted in quarters of a unit. -/
def attracts (d : Dyadic) (digits : Nat) (scale : Int) : Bool :=
  let low := if d.narrowBelow then 4 * d.mantissa - 1 else 4 * d.mantissa - 2
  let high := 4 * d.mantissa + 2
  let even := d.mantissa % 2 = 0
  let fromLow := compareScaled digits scale low (d.exponent - 2)
  let toHigh := compareScaled digits scale high (d.exponent - 2)
  (fromLow = .gt || (fromLow = .eq && even)) && (toHigh = .lt || (toHigh = .eq && even))

end Dyadic

end Calculator
