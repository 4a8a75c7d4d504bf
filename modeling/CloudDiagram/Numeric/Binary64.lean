import CloudDiagram.Numeric.Decimal

/-!
# Double precision numbers

A magnitude is a whole number of units, the unit being `2 ^ -1074`, with at most
53 significant bits. Magnitudes are kept in canonical form, so equal magnitudes
are equal values: either the scale is zero, or the mantissa has all 53 bits.
A decimal is read to the nearest magnitude, and a tie goes to the even mantissa.
All arithmetic is exact on natural numbers; no machine float is involved.
-/

namespace CloudDiagram.Numeric

/-- The quantity `mantissa · 2 ^ scale` units of `2 ^ -1074`. The mantissa is below
`2 ^ 53`, and at least `2 ^ 52` unless the scale is zero. -/
structure Magnitude where
  mantissa : Nat
  scale : Nat
  canonical :
    mantissa < 9007199254740992 ∧ scale ≤ 2045 ∧ (scale = 0 ∨ 4503599627370496 ≤ mantissa)
deriving DecidableEq, Repr

namespace Magnitude

/-- No units at all. It is canonical, as its scale is zero. -/
def zero : Magnitude := ⟨0, 0, by decide⟩

/-- The number of units of `2 ^ -1074`. Every magnitude is a whole number of these,
so they are compared and computed with as natural numbers. -/
def units (x : Magnitude) : Nat := x.mantissa * Nat.pow 2 x.scale

/-- The magnitude with the given parts, if they are canonical. The scale is bounded,
so a quantity that is too large has no such parts. -/
def ofParts? (mantissa scale : Nat) : Option Magnitude :=
  if canonical :
      mantissa < 9007199254740992 ∧ scale ≤ 2045 ∧ (scale = 0 ∨ 4503599627370496 ≤ mantissa) then
    some ⟨mantissa, scale, canonical⟩
  else none

/-- Parts taken from a magnitude make that magnitude again, since they are
canonical. -/
theorem ofParts?_self (x : Magnitude) : ofParts? x.mantissa x.scale = some x :=
  dif_pos x.canonical

end Magnitude

/-- The whole number nearest to `numerator / denominator`; a half goes to the even
neighbour. All rounding to doubles is done by it, on natural numbers. -/
def roundHalfEven (numerator denominator : Nat) : Nat :=
  let below := numerator / denominator
  let twice := 2 * (numerator % denominator)
  if twice < denominator ∨ (twice = denominator ∧ below % 2 = 0) then below else below + 1

/-- A quotient without remainder is not changed by rounding, whatever its parity. -/
theorem roundHalfEven_mul_left (whole denominator : Nat) (positive : 0 < denominator) :
    roundHalfEven (whole * denominator) denominator = whole := by
  simp [roundHalfEven, positive]

/-- The magnitude nearest to `numerator / denominator` units, or `none` when that is
past the largest one. Rounding may carry into the next scale. -/
def Magnitude.nearest? (numerator denominator : Nat) : Option Magnitude :=
  let scale := (numerator / denominator).log2 - 52
  let mantissa := roundHalfEven numerator (denominator * Nat.pow 2 scale)
  if mantissa = 9007199254740992 then Magnitude.ofParts? 4503599627370496 (scale + 1)
  else Magnitude.ofParts? mantissa scale

/-- The magnitude nearest to a decimal, or `none` when it is too large. Exponents
far outside the range are answered without computing their power: a nonzero number
times `10 ^ 401` is past the largest magnitude, and a number below `2 ^ b` divided
by `10 ^ k` is under a quarter of a unit once `b + 1076 ≤ 3 · k`. -/
def Decimal.magnitude? (decimal : Decimal) : Option Magnitude :=
  if decimal.digits = 0 then some Magnitude.zero
  else
    match decimal.exponent with
    | .ofNat up =>
      if 400 < up then none
      else Magnitude.nearest? (decimal.digits * Nat.pow 10 up * Nat.pow 2 1074) 1
    | .negSucc less =>
      let down := less + 1
      if decimal.digits.log2 + 1 + 1076 ≤ 3 * down then some Magnitude.zero
      else Magnitude.nearest? (decimal.digits * Nat.pow 2 1074) (Nat.pow 10 down)

/-- A finite double: a magnitude and a sign, which zero carries too. So there are
two zeros, and they are different values here. -/
structure FiniteDouble where
  negative : Bool
  magnitude : Magnitude
deriving DecidableEq, Repr

namespace FiniteDouble

/-- Positive zero, which is the one that a default has. -/
def zero : FiniteDouble := ⟨false, Magnitude.zero⟩

/-- The nearest double to a decimal of the given sign, or `none` on overflow. The
sign has no part in the rounding. -/
def ofDecimal? (negative : Bool) (decimal : Decimal) : Option FiniteDouble :=
  decimal.magnitude?.map fun magnitude => ⟨negative, magnitude⟩

end FiniteDouble

/-- A double, finite or not. There is one value that is no number, as nothing here
tells several of them apart. -/
inductive Binary64 where
  | finite (value : FiniteDouble)
  | infinity (negative : Bool)
  | nan
deriving DecidableEq, Repr

namespace Binary64

/-- Positive zero. Coordinates of nodes without a position are zero. -/
def zero : Binary64 := .finite FiniteDouble.zero

instance : Inhabited Binary64 := ⟨zero⟩

/-- The nearest double to a decimal of the given sign; too large a one is infinite.
A coordinate that is given as a double, and not in a text, may be infinite. -/
def ofDecimal (negative : Bool) (decimal : Decimal) : Binary64 :=
  match FiniteDouble.ofDecimal? negative decimal with
  | some value => .finite value
  | none => .infinity negative

end Binary64

end CloudDiagram.Numeric
