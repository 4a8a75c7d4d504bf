import CloudDiagram.Numeric.Binary64

/-!
# Doubles scaled by powers of ten

A whole number of digits is placed by a power of ten in two or more steps, as a machine does
it: the digits become a double, the power of ten becomes a double, and the one is multiplied
or divided by the other. Every step rounds. The outcome may therefore be a neighbour of the
double that is nearest to the decimal, as it is for `12100000000000001 · 10 ^ -15`: these
digits need 54 bits, and the double that they become ends in zero.
-/

namespace CloudDiagram.Numeric

namespace Magnitude

/-- The product, rounded once. Both factors count units of `2 ^ -1074`, so that their
product counts the square of the unit. -/
def times? (x y : Magnitude) : Option Magnitude := nearest? (x.units * y.units) (Nat.pow 2 1074)

/-- The quotient, rounded once. The units of the two cancel, so the first has to be
counted in units anew. -/
def over? (x y : Magnitude) : Option Magnitude := nearest? (x.units * Nat.pow 2 1074) y.units

/-- The largest power of ten that is a double. Larger ones are reached in several
steps, or not at all. -/
def largestPower : Nat := 308

/-- The double nearest to a power of ten, up to `10 ^ 308`. From `10 ^ 23` on it is
not the power itself, which adds an error of its own to every product. -/
def tenPow? (power : Nat) : Option Magnitude := Decimal.magnitude? ⟨1, power⟩

/-- The magnitude divided by `10 ^ 308` so many times. Once nothing is left of it, the
remaining divisions are not carried out. -/
def shrink? : Nat → Magnitude → Option Magnitude
  | 0, x => some x
  | times + 1, x =>
    if x = zero then some x
    else do
      let power ← tenPow? largestPower
      let quotient ← x.over? power
      shrink? times quotient

/-- The magnitude times a power of ten, or `none` when the product is too large. A power
that is no double itself is too large for every magnitude but zero. A power to divide by is
split into as many powers `10 ^ 308` as it takes and the remaining one. -/
def scaled? (x : Magnitude) : Int → Option Magnitude
  | .ofNat up =>
    if x = zero then some x
    else do
      let power ← tenPow? up
      x.times? power
  | .negSucc less => do
    let quotient ← x.shrink? (less / largestPower)
    let power ← tenPow? (less % largestPower + 1)
    quotient.over? power

end Magnitude

/-- The double nearest to the digits of a decimal, scaled by its power of ten. It need not be
the double nearest to the decimal. -/
def Decimal.scaled? (decimal : Decimal) : Option Magnitude := do
  let digits ← magnitude? ⟨decimal.digits, 0⟩
  digits.scaled? decimal.exponent

/-- A decimal of the given sign as it is scaled, or `none` on overflow. -/
def FiniteDouble.ofScaled? (negative : Bool) (decimal : Decimal) : Option FiniteDouble :=
  decimal.scaled?.map fun magnitude => ⟨negative, magnitude⟩

end CloudDiagram.Numeric
