import CloudDiagram.Numeric.Binary64

/-!
# The shortest decimal that reads back

A magnitude is shown by the decimal with the fewest digits among those that read
back as it, and by the nearest of these. The search tries grids of decimals from
coarse to fine: on each grid only the two neighbours of the magnitude need to be
tried, since a decimal farther away reads back only if the neighbour on its side
does. Seventeen digits always suffice; the magnitude written out exactly stands
behind the search, so every answer reads back by construction.
-/

namespace CloudDiagram.Numeric.Magnitude

/-- All digits of a magnitude. One unit is `5 ^ 1074 · 10 ^ -1074`, so every
magnitude is a decimal, though one of many digits. -/
def exact (x : Magnitude) : Decimal := ⟨x.units * Nat.pow 5 1074, -1074⟩

/-- The two decimals next to a magnitude on the grid of step `10 ^ exponent`, the
nearer one first; of two equally near ones the even one comes first. -/
def neighbours (x : Magnitude) (exponent : Int) : List Decimal :=
  let (numerator, denominator) := match exponent with
    | .ofNat up => (x.units, Nat.pow 10 up * Nat.pow 2 1074)
    | .negSucc less => (x.units * Nat.pow 10 (less + 1), Nat.pow 2 1074)
  let below := numerator / denominator
  let twice := 2 * (numerator % denominator)
  if twice < denominator ∨ (twice = denominator ∧ below % 2 = 0) then
    [⟨below, exponent⟩, ⟨below + 1, exponent⟩]
  else
    [⟨below + 1, exponent⟩, ⟨below, exponent⟩]

/-- The coarsest grid worth trying: its step is above the magnitude. The factor
approximates the decimal logarithm of two. -/
def coarsestGrid (x : Magnitude) : Int :=
  ((x.units.log2 : Int) - 1074) * 30103 / 100000 + 2

/-- The decimals tried for a magnitude, in the order of preference. Finer grids have
more digits, so the first that reads back has the fewest. -/
def candidates (x : Magnitude) : List Decimal :=
  (List.range 21).flatMap fun (finer : Nat) => x.neighbours (x.coarsestGrid - finer)

/-- The shortest decimal that reads back as the magnitude. To read back is part of
the search and of what stands behind it, so it holds without a bound on the search.
-/
def shortest (x : Magnitude) : Decimal :=
  if x.units = 0 then ⟨0, 0⟩
  else (x.candidates.find? fun candidate => candidate.magnitude? = some x).getD x.exact

end CloudDiagram.Numeric.Magnitude
