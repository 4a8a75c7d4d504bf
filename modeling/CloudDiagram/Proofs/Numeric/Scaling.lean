import CloudDiagram.Numeric.Scaling
import CloudDiagram.Proofs.Numeric.Rounding
import Mathlib.Tactic.Ring

/-!
# What scaling keeps

Rounding moves a quotient by half a step of its grid, and the grid is so fine that this is at
most one part in `2 ^ 53`. Digits that are rounded, and then multiplied by a rounded power of
ten, come out too large by two such parts at most. So a decimal is scaled without overflow if
it lies a little below the largest magnitude; a decimal that is read as some magnitude lies
there, unless it is one of the two largest. Dividing never overflows, because the powers of
ten to divide by are at least one.

Digits below `2 ^ 53` and powers of ten up to `10 ^ 22` are doubles themselves. Then only the
last step rounds, and scaling gives the nearest magnitude.
-/

namespace CloudDiagram.Numeric

/-- Rounding moves a quotient by half of one at most. The first part is the bound from above,
with the half written as the odd multiple between two whole ones. -/
theorem roundHalfEven_error (numerator : Nat) {denominator : Nat} (positive : 0 < denominator) :
    2 * numerator ≤ (2 * roundHalfEven numerator denominator + 1) * denominator ∧
      2 * (roundHalfEven numerator denominator * denominator) ≤ 2 * numerator + denominator := by
  have parts := Nat.div_add_mod numerator denominator
  have small := Nat.mod_lt numerator positive
  simp only [roundHalfEven, Nat.add_mul, Nat.mul_assoc, Nat.one_mul]
  rw [Nat.mul_comm] at parts
  split
  · constructor <;> omega
  · simp only [Nat.add_mul]
    constructor <;> omega

/-- A whole number that is not above the quotient is not above the rounded one,
since rounding goes down no further than to the floor. -/
theorem le_roundHalfEven {whole numerator denominator : Nat} (positive : 0 < denominator)
    (below : whole * denominator ≤ numerator) : whole ≤ roundHalfEven numerator denominator := by
  have floor : whole ≤ numerator / denominator := (Nat.le_div_iff_mul_le positive).mpr below
  dsimp only [roundHalfEven]
  split <;> omega

/-- A quotient that is less than a half above a whole number is not rounded past it.
-/
theorem roundHalfEven_le {whole numerator denominator : Nat} (positive : 0 < denominator)
    (near : 2 * numerator < (2 * whole + 1) * denominator) :
    roundHalfEven numerator denominator ≤ whole := by
  have error := (roundHalfEven_error numerator positive).2
  have under : roundHalfEven numerator denominator * denominator <
      (whole + 1) * denominator := by
    simp only [Nat.add_mul, Nat.mul_assoc, Nat.one_mul] at near ⊢
    omega
  exact Nat.le_of_lt_succ (Nat.lt_of_mul_lt_mul_right under)

namespace Magnitude

/-- The scale at which a quotient is rounded. Its bits above the scale are 53, or fewer if the
scale is zero. -/
def roundingScale (numerator denominator : Nat) : Nat := (numerator / denominator).log2 - 52

/-- The distance of the magnitudes around a quotient, times the denominator.
Rounding to the nearest magnitude is rounding in such steps. -/
def step (numerator denominator : Nat) : Nat :=
  denominator * 2 ^ roundingScale numerator denominator

theorem step_pos (numerator : Nat) {denominator : Nat} (positive : 0 < denominator) :
    0 < step numerator denominator :=
  Nat.mul_pos positive (Nat.two_pow_pos _)

/-- A quotient has no more than 53 bits above its scale, so the rounded one has no
more than 54. -/
theorem lt_mul_step (numerator : Nat) {denominator : Nat} (positive : 0 < denominator) :
    numerator < 9007199254740992 * step numerator denominator := by
  have bits : numerator / denominator < 2 ^ ((numerator / denominator).log2 + 1) :=
    Nat.lt_log2_self
  have fewer : numerator / denominator < 2 ^ (53 + roundingScale numerator denominator) := by
    refine Nat.lt_of_lt_of_le bits (Nat.pow_le_pow_right (by decide) ?_)
    unfold roundingScale
    omega
  calc
    numerator < 2 ^ (53 + roundingScale numerator denominator) * denominator :=
      (Nat.div_lt_iff_lt_mul positive).mp fewer
    _ = 9007199254740992 * step numerator denominator := by
      rw [Nat.pow_add, step]
      ring

/-- A quotient of at least 53 bits has all of them above its scale. Its steps are
then fine enough for an error to be counted in parts of the quotient. -/
theorem mul_step_le {numerator denominator : Nat} (positive : 0 < denominator)
    (large : 4503599627370496 * denominator ≤ numerator) :
    4503599627370496 * step numerator denominator ≤ numerator := by
  have quotient : 2 ^ 52 ≤ numerator / denominator := (Nat.le_div_iff_mul_le positive).mpr large
  have nonzero : numerator / denominator ≠ 0 := by omega
  have bits : 52 ≤ (numerator / denominator).log2 := (Nat.le_log2 nonzero).mpr quotient
  have scale : 52 + roundingScale numerator denominator = (numerator / denominator).log2 := by
    unfold roundingScale
    omega
  calc
    4503599627370496 * step numerator denominator =
        2 ^ (numerator / denominator).log2 * denominator := by
      rw [← scale, Nat.pow_add, step]
      ring
    _ ≤ numerator / denominator * denominator :=
      Nat.mul_le_mul_right _ (Nat.log2_self_le nonzero)
    _ ≤ numerator := Nat.div_mul_le_self ..

/-- A quotient is rounded in steps of its scale. If all 53 bits are used up by the
carry, the next scale is taken. -/
theorem nearest?_eq (numerator denominator : Nat) :
    nearest? numerator denominator =
      if roundHalfEven numerator (step numerator denominator) = 9007199254740992 then
        ofParts? 4503599627370496 (roundingScale numerator denominator + 1)
      else ofParts? (roundHalfEven numerator (step numerator denominator))
        (roundingScale numerator denominator) := rfl

/-- Parts that are canonical make a magnitude, so an overflow is a scale that is too
large and nothing else. -/
theorem exists_ofParts? {mantissa scale : Nat} (canonical :
    mantissa < 9007199254740992 ∧ scale ≤ 2045 ∧ (scale = 0 ∨ 4503599627370496 ≤ mantissa)) :
    ∃ x, ofParts? mantissa scale = some x :=
  ⟨⟨mantissa, scale, canonical⟩, dif_pos canonical⟩

/-- A nearest magnitude is the quotient rounded at its scale. If this carries into a 54th bit,
the same units are counted at the next scale. -/
theorem nearest?_parts {numerator denominator : Nat} {x : Magnitude}
    (nearest : nearest? numerator denominator = some x) :
    x.mantissa = roundHalfEven numerator (step numerator denominator) ∧
        x.scale = roundingScale numerator denominator ∨
      roundHalfEven numerator (step numerator denominator) = 9007199254740992 ∧
        x.mantissa = 4503599627370496 ∧ x.scale = roundingScale numerator denominator + 1 := by
  have ofParts {mantissa scale : Nat} (made : ofParts? mantissa scale = some x) :
      x.mantissa = mantissa ∧ x.scale = scale := by
    rw [ofParts?] at made
    split at made
    · obtain rfl := Option.some.inj made
      exact ⟨rfl, rfl⟩
    · cases made
  rw [nearest?_eq] at nearest
  split at nearest
  · rename_i carried
    exact Or.inr ⟨carried, ofParts nearest⟩
  · exact Or.inl (ofParts nearest)

/-- The units of a nearest magnitude are those of the rounded quotient, with or
without a carry. -/
theorem units_nearest? {numerator denominator : Nat} {x : Magnitude}
    (nearest : nearest? numerator denominator = some x) :
    x.units * denominator =
      roundHalfEven numerator (step numerator denominator) * step numerator denominator := by
  simp only [units, Nat.pow_eq]
  rcases nearest?_parts nearest with ⟨mantissa, scale⟩ | ⟨carried, mantissa, scale⟩
  · rw [mantissa, scale]
    generalize roundHalfEven numerator (step numerator denominator) = rounded
    rw [step]
    ring
  · rw [carried, mantissa, scale, step, Nat.pow_succ]
    ring

/-- A quotient is no more than half a step above its nearest magnitude. The half is
written as in the error of rounding. -/
theorem le_nearest? {numerator denominator : Nat} {x : Magnitude} (positive : 0 < denominator)
    (nearest : nearest? numerator denominator = some x) :
    2 * numerator ≤ (2 * x.mantissa + 1) * (denominator * 2 ^ x.scale) := by
  have error := (roundHalfEven_error numerator (step_pos numerator positive)).1
  rcases nearest?_parts nearest with ⟨mantissa, scale⟩ | ⟨carried, mantissa, scale⟩
  · rw [mantissa, scale]
    exact error
  · rw [carried] at error
    rw [mantissa, scale, Nat.pow_succ, ← Nat.mul_assoc denominator]
    change 2 * numerator ≤ _ * (step numerator denominator * 2)
    omega

/-- A nearest magnitude is above a quotient of 53 bits or more by one part in
`2 ^ 53` at most. Half a step is no more than that. -/
theorem nearest?_le {numerator denominator : Nat} {x : Magnitude} (positive : 0 < denominator)
    (large : 4503599627370496 * denominator ≤ numerator)
    (nearest : nearest? numerator denominator = some x) :
    9007199254740992 * (x.units * denominator) ≤ 9007199254740993 * numerator := by
  have error := (roundHalfEven_error numerator (step_pos numerator positive)).2
  have fine := mul_step_le positive large
  rw [units_nearest? nearest]
  omega

/-- Two to this power are half the distance of the largest magnitudes. The power is named so
that nothing computes it. -/
@[irreducible] def halfStepBits : Nat := 2044

theorem halfStepBits_eq : halfStepBits = 2044 := by rw [halfStepBits]

/-- A quotient of this many units or more is past the largest magnitude by half a
step, and is then rounded to what is no magnitude. -/
def overflow : Nat := 18014398509481983 * 2 ^ halfStepBits

/-- A quotient below a power of two is rounded at a scale that leaves 53 bits of the power. The
scale of zero is zero, although zero has no highest bit. -/
theorem roundingScale_le_of_lt {numerator denominator bits : Nat} (positive : 0 < denominator)
    (below : numerator < 2 ^ (53 + bits) * denominator) :
    roundingScale numerator denominator ≤ bits := by
  have fewer : numerator / denominator < 2 ^ (53 + bits) :=
    (Nat.div_lt_iff_lt_mul positive).mpr below
  unfold roundingScale
  by_cases nothing : numerator / denominator = 0
  · rw [nothing, Nat.log2_zero]
    omega
  · have log := (Nat.log2_lt nothing).mpr fewer
    omega

/-- Below the point of overflow a quotient is rounded at a scale that magnitudes have. It has
no more bits than the point of overflow, and 53 of them are above the scale. -/
theorem roundingScale_le {numerator denominator : Nat} (positive : 0 < denominator)
    (below : numerator < denominator * overflow) :
    roundingScale numerator denominator ≤ halfStepBits + 1 := by
  refine roundingScale_le_of_lt positive (Nat.lt_trans below ?_)
  have bits : overflow < 2 ^ (53 + (halfStepBits + 1)) := by
    rw [overflow, ← Nat.add_assoc, Nat.add_right_comm, Nat.pow_add]
    exact Nat.mul_lt_mul_of_pos_right (by decide) (Nat.two_pow_pos _)
  rw [Nat.mul_comm]
  exact Nat.mul_lt_mul_of_pos_right bits positive

/-- A quotient that is rounded at a scale above zero keeps its 53 bits, so that what it is
rounded to is canonical. -/
theorem roundingScale_eq_zero_or (numerator : Nat) {denominator : Nat}
    (positive : 0 < denominator) :
    roundingScale numerator denominator = 0 ∨
      4503599627370496 ≤ roundHalfEven numerator (step numerator denominator) := by
  by_cases small : numerator < 4503599627370496 * denominator
  · have fewer : numerator < 2 ^ (53 + 0) * denominator := by omega
    exact Or.inl (Nat.le_zero.mp (roundingScale_le_of_lt positive fewer))
  · have large := mul_step_le positive (Nat.not_lt.mp small)
    exact Or.inr (le_roundHalfEven (step_pos numerator positive) large)

/-- At the last scale nothing is carried into a 54th bit, since the point of overflow is where
a carry would begin. -/
theorem roundHalfEven_lt_of_last {numerator denominator : Nat} (positive : 0 < denominator)
    (below : numerator < denominator * overflow)
    (last : roundingScale numerator denominator = halfStepBits + 1) :
    roundHalfEven numerator (step numerator denominator) < 9007199254740992 := by
  refine Nat.lt_succ_of_le (roundHalfEven_le (step_pos numerator positive) ?_)
  have twice : (2 * 9007199254740991 + 1) * step numerator denominator =
      2 * (denominator * overflow) := by
    rw [step, last, overflow, Nat.pow_succ]
    ring
  rw [twice]
  exact Nat.mul_lt_mul_of_pos_left below (by decide)

/-- What is not past the largest magnitude by half a step has a nearest one. Only at the last
scale there is no room for a carry, and there none occurs. -/
theorem exists_nearest? {numerator denominator : Nat} (positive : 0 < denominator)
    (below : numerator < denominator * overflow) : ∃ x, nearest? numerator denominator = some x := by
  have inRange := roundingScale_le positive below
  have normal := roundingScale_eq_zero_or numerator positive
  have last := roundHalfEven_lt_of_last positive below
  have atMost : roundHalfEven numerator (step numerator denominator) ≤ 9007199254740992 := by
    refine roundHalfEven_le (step_pos numerator positive) ?_
    have above := lt_mul_step numerator positive
    omega
  rw [halfStepBits_eq] at inRange last
  rw [nearest?_eq]
  split
  · rename_i carried
    exact exists_ofParts? ⟨by decide, by omega, Or.inr (Nat.le_refl _)⟩
  · exact exists_ofParts? ⟨by omega, inRange, normal⟩

/-- Every magnitude is half a step or more below the point of overflow, the largest
one by exactly that much. -/
theorem units_lt_overflow (x : Magnitude) : x.units < overflow := by
  obtain ⟨mantissa, scale, below, inRange, -⟩ := x
  have last : scale ≤ halfStepBits + 1 := by rwa [halfStepBits_eq]
  have power : 2 ^ scale ≤ 2 ^ (halfStepBits + 1) := Nat.pow_le_pow_right (by decide) last
  calc
    mantissa * 2 ^ scale ≤ 9007199254740991 * 2 ^ (halfStepBits + 1) :=
      Nat.mul_le_mul (by omega) power
    _ = 18014398509481982 * 2 ^ halfStepBits := by
      rw [Nat.pow_succ]
      ring
    _ < overflow := Nat.mul_lt_mul_of_pos_right (by decide) (Nat.two_pow_pos _)

/-- Two steps and a half below the point of overflow, in units. Two roundings of factors raise
a quantity by no more than two parts in `2 ^ 53`, which are less than two steps there. -/
def scalable : Nat := 18014398509481979 * 2 ^ halfStepBits

/-- What may be scaled is below the point of overflow, also before it is scaled. -/
theorem scalable_lt_overflow : scalable < overflow :=
  Nat.mul_lt_mul_of_pos_right (by decide) (Nat.two_pow_pos _)

/-- One has more than 53 bits, counted in units. All whole numbers of ones are
therefore rounded in fine steps. -/
theorem two_pow_le_ones {ones : Nat} (positive : 0 < ones) :
    4503599627370496 * 1 ≤ ones * 2 ^ unitBits := by
  have bits : 2 ^ 52 ≤ 2 ^ unitBits := Nat.pow_le_pow_right (by decide) (by decide)
  exact Nat.le_trans bits (Nat.le_mul_of_pos_left _ positive)

/-- A whole number of ones that may be scaled has a nearest magnitude, which is above it by one
part in `2 ^ 53` at most. -/
theorem exists_nearest?_ones {ones : Nat} (below : ones * 2 ^ unitBits ≤ scalable) :
    ∃ x, nearest? (ones * 2 ^ unitBits) 1 = some x ∧
      9007199254740992 * x.units ≤ 9007199254740993 * (ones * 2 ^ unitBits) := by
  rcases Nat.eq_zero_or_pos ones with rfl | positive
  · rw [Nat.zero_mul, nearest?_of_small (by decide)]
    exact ⟨zero, rfl, Nat.zero_le _⟩
  · have under : ones * 2 ^ unitBits < 1 * overflow := by
      rw [Nat.one_mul]
      exact Nat.lt_of_le_of_lt below scalable_lt_overflow
    obtain ⟨x, nearest⟩ := exists_nearest? Nat.one_pos under
    have near := nearest?_le Nat.one_pos (two_pow_le_ones positive) nearest
    rw [Nat.mul_one] at near
    exact ⟨x, nearest, near⟩

/-- One and whatever is above it are not rounded below one, which is a magnitude
itself. So a rounded power of ten may be divided by. -/
theorem one_le_nearest? {ones : Nat} {x : Magnitude} (positive : 0 < ones)
    (nearest : nearest? (ones * 2 ^ unitBits) 1 = some x) : 2 ^ unitBits ≤ x.units := by
  have grid : 0 < step (ones * 2 ^ unitBits) 1 := step_pos _ Nat.one_pos
  have units := units_nearest? nearest
  rw [Nat.mul_one] at units
  by_cases coarse : unitBits < roundingScale (ones * 2 ^ unitBits) 1
  · -- the steps are larger than one, and there are some
    have some : 0 < roundHalfEven (ones * 2 ^ unitBits) (step (ones * 2 ^ unitBits) 1) := by
      refine Nat.lt_of_lt_of_le (by decide : 0 < 4503599627370496) ?_
      exact le_roundHalfEven grid (mul_step_le Nat.one_pos (two_pow_le_ones positive))
    rw [units]
    refine Nat.le_trans ?_ (Nat.le_mul_of_pos_left _ some)
    rw [step, Nat.one_mul]
    exact Nat.pow_le_pow_right (by decide) (Nat.le_of_lt coarse)
  · have steps : 2 ^ (unitBits - roundingScale (ones * 2 ^ unitBits) 1) *
        step (ones * 2 ^ unitBits) 1 = 2 ^ unitBits := by
      rw [step, Nat.one_mul, ← Nat.pow_add, Nat.sub_add_cancel (Nat.not_lt.mp coarse)]
    have below : 2 ^ unitBits ≤ ones * 2 ^ unitBits := Nat.le_mul_of_pos_left _ positive
    have kept := le_roundHalfEven grid (Nat.le_trans (Nat.le_of_eq steps) below)
    rw [units]
    exact Nat.le_trans (Nat.le_of_eq steps.symm) (Nat.mul_le_mul_right _ kept)

/-- A power of ten is read by its units, which are those of a whole number of ones.
-/
theorem tenPow?_eq (power : Nat) : tenPow? power = nearest? (10 ^ power * 2 ^ unitBits) 1 := by
  rw [tenPow?, Decimal.magnitude?_eq_nearest?]
  simp [Decimal.numerator, Decimal.denominator]

/-- The largest power of ten may be scaled. The two powers are compared once, by the
kernel. -/
theorem ten_pow_le_scalable : 10 ^ largestPower * 2 ^ unitBits ≤ scalable := by
  have tens : Nat.pow 10 308 = 10 ^ largestPower := by
    rw [show (308 : Nat) = largestPower from rfl, Nat.pow_eq]
  have halfSteps : Nat.pow 2 2044 = 2 ^ halfStepBits := by
    rw [← halfStepBits_eq, Nat.pow_eq]
  have numbers : Nat.pow 10 308 * Nat.pow 2 1074 ≤ 18014398509481979 * Nat.pow 2 2044 := by
    decide +kernel
  rw [tens, halfSteps, two_pow_unitBits] at numbers
  exact numbers

/-- The powers of ten up to the largest are magnitudes of one or more. Reading none
of them overflows. -/
theorem exists_tenPow? {power : Nat} (inRange : power ≤ largestPower) :
    ∃ x, tenPow? power = some x ∧ 2 ^ unitBits ≤ x.units := by
  have largest := ten_pow_le_scalable
  generalize largestPower = limit at inRange largest
  have powers : 10 ^ power ≤ 10 ^ limit := Nat.pow_le_pow_right (by decide) inRange
  obtain ⟨x, nearest, -⟩ :=
    exists_nearest?_ones (Nat.le_trans (Nat.mul_le_mul_right _ powers) largest)
  exact ⟨x, (tenPow?_eq power).trans nearest, one_le_nearest? (Nat.pow_pos (by decide)) nearest⟩

/-- Dividing by what is at least one gives no more than there was, so it does not overflow. -/
theorem exists_over? (x : Magnitude) {divisor : Magnitude} (one : 2 ^ unitBits ≤ divisor.units) :
    ∃ y, x.over? divisor = some y := by
  have positive : 0 < divisor.units := Nat.lt_of_lt_of_le (Nat.two_pow_pos _) one
  refine exists_nearest? positive ?_
  rw [two_pow_unitBits]
  calc
    x.units * 2 ^ unitBits ≤ x.units * divisor.units := Nat.mul_le_mul_left _ one
    _ < overflow * divisor.units := Nat.mul_lt_mul_of_pos_right x.units_lt_overflow positive
    _ = divisor.units * overflow := Nat.mul_comm ..

/-- However often a magnitude is divided by the largest power of ten, there is an
answer. It becomes smaller with each step and may become zero. -/
theorem exists_shrink? (times : Nat) (x : Magnitude) : ∃ y, shrink? times x = some y := by
  induction times generalizing x with
  | zero => exact ⟨x, rfl⟩
  | succ times inductionHypothesis =>
    rw [shrink?]
    split
    · exact ⟨x, rfl⟩
    · obtain ⟨divisor, found, one⟩ := exists_tenPow? (Nat.le_refl largestPower)
      obtain ⟨y, quotient⟩ := exists_over? x one
      obtain ⟨z, rest⟩ := inductionHypothesis y
      rw [found, Option.bind_eq_bind, Option.bind_some, quotient, Option.bind_some]
      exact ⟨z, rest⟩

/-- Scaling down does not overflow, however large the power of ten is: it is divided
out in several steps, each by one or more. -/
theorem exists_scaled?_negSucc (x : Magnitude) (less : Nat) :
    ∃ y, x.scaled? (.negSucc less) = some y := by
  obtain ⟨quotient, shrunk⟩ := exists_shrink? (less / largestPower) x
  have inRange : less % largestPower + 1 ≤ largestPower := Nat.mod_lt less (by decide)
  obtain ⟨divisor, found, one⟩ := exists_tenPow? inRange
  obtain ⟨y, last⟩ := exists_over? quotient one
  rw [scaled?, shrunk, Option.bind_eq_bind, Option.bind_some, found, Option.bind_some]
  exact ⟨y, last⟩

end Magnitude

namespace Decimal

open Magnitude

/-- The product of two rounded factors is below the point of overflow if the factors multiply
to what may be scaled. -/
theorem exists_times? {left right : Nat} {x y : Magnitude}
    (below : left * right * 2 ^ unitBits ≤ scalable)
    (near : 9007199254740992 * x.units ≤ 9007199254740993 * (left * 2 ^ unitBits))
    (alsoNear : 9007199254740992 * y.units ≤ 9007199254740993 * (right * 2 ^ unitBits)) :
    ∃ z, x.times? y = some z := by
  have positive : 0 < 2 ^ unitBits := Nat.two_pow_pos _
  rw [times?, two_pow_unitBits]
  refine exists_nearest? positive ?_
  refine Nat.lt_of_mul_lt_mul_left (a := 9007199254740992 * 9007199254740992) ?_
  calc
    9007199254740992 * 9007199254740992 * (x.units * y.units) =
        9007199254740992 * x.units * (9007199254740992 * y.units) := by ring
    _ ≤ 9007199254740993 * (left * 2 ^ unitBits) * (9007199254740993 * (right * 2 ^ unitBits)) :=
      Nat.mul_le_mul near alsoNear
    _ = 9007199254740993 * 9007199254740993 * 2 ^ unitBits *
        (left * right * 2 ^ unitBits) := by ring
    _ ≤ 9007199254740993 * 9007199254740993 * 2 ^ unitBits * scalable :=
      Nat.mul_le_mul_left _ below
    _ = 9007199254740993 * 9007199254740993 * 18014398509481979 *
        (2 ^ unitBits * 2 ^ halfStepBits) := by rw [scalable]; ring
    _ < 9007199254740992 * 9007199254740992 * 18014398509481983 *
        (2 ^ unitBits * 2 ^ halfStepBits) :=
      Nat.mul_lt_mul_of_pos_right (by decide) (Nat.mul_pos positive (Nat.two_pow_pos _))
    _ = 9007199254740992 * 9007199254740992 * (2 ^ unitBits * overflow) := by
      rw [overflow]; ring

/-- A whole number of ones is read by its units, with no power of ten to multiply
by. -/
theorem magnitude?_ones (ones : Nat) :
    magnitude? ⟨ones, 0⟩ = nearest? (ones * 2 ^ unitBits) 1 := by
  rw [magnitude?_eq_nearest?]
  simp [numerator, denominator]

/-- Once the digits are rounded, their magnitude is scaled. This is the first of the
two roundings. -/
theorem scaled?_of_digits {digits : Nat} {x : Magnitude}
    (rounded : nearest? (digits * 2 ^ unitBits) 1 = some x) (exponent : Int) :
    scaled? ⟨digits, exponent⟩ = x.scaled? exponent := by
  rw [scaled?, magnitude?_ones, rounded, Option.bind_eq_bind, Option.bind_some]

/-- A magnitude is scaled up by one product. Zero is scaled to zero without it. -/
theorem scaled?_of_power {x power : Magnitude} {up : Nat} (nonzero : x ≠ zero)
    (found : tenPow? up = some power) : x.scaled? (.ofNat up) = x.times? power := by
  rw [Magnitude.scaled?, if_neg nonzero, found, Option.bind_eq_bind, Option.bind_some]

/-- A magnitude is scaled down by one quotient if the power of ten is not past the
largest, as is the case for small powers. -/
theorem scaled?_of_divisor {x power : Magnitude} {less : Nat} (small : less < largestPower)
    (found : tenPow? (less + 1) = some power) : x.scaled? (.negSucc less) = x.over? power := by
  rw [Magnitude.scaled?, Nat.div_eq_of_lt small, Nat.mod_eq_of_lt small, shrink?,
    Option.bind_eq_bind, Option.bind_some, found, Option.bind_some]

/-- A decimal with a little room below the point of overflow is scaled without
overflow. The digits and the power of ten are each rounded up by one part in
`2 ^ 53` at most, and for this the room is enough. -/
theorem exists_scaled? {decimal : Decimal} (room : decimal.numerator ≤ scalable) :
    ∃ x, decimal.scaled? = some x := by
  obtain ⟨digits, exponent⟩ := decimal
  have power : 0 < 10 ^ exponent.toNat := Nat.pow_pos (by decide)
  have ones : digits * 2 ^ unitBits ≤ scalable :=
    Nat.le_trans (Nat.mul_le_mul_right _ (Nat.le_mul_of_pos_right _ power)) room
  obtain ⟨x, rounded, near⟩ := exists_nearest?_ones ones
  rw [scaled?_of_digits rounded]
  cases exponent with
  | negSucc less => exact x.exists_scaled?_negSucc less
  | ofNat up =>
    by_cases nothing : x = zero
    · exact ⟨x, if_pos nothing⟩
    · have tens : 10 ^ up * 2 ^ unitBits ≤ scalable := by
        have positive : 0 < digits := by
          refine Nat.pos_of_ne_zero fun none => nothing ?_
          rw [none, Nat.zero_mul, nearest?_of_small (by decide)] at rounded
          exact (Option.some.inj rounded).symm
        exact Nat.le_trans (Nat.mul_le_mul_right _ (Nat.le_mul_of_pos_left _ positive)) room
      obtain ⟨y, found, alsoNear⟩ := exists_nearest?_ones tens
      rw [scaled?_of_power nothing ((tenPow?_eq up).trans found)]
      exact exists_times? room near alsoNear

/-- A decimal that is read as a magnitude may be scaled, unless the magnitude is one of the two
largest. -/
theorem numerator_le_scalable {decimal : Decimal} {x : Magnitude}
    (read : decimal.magnitude? = some x) (apart : x.scale = 2045 → x.mantissa < 9007199254740990) :
    decimal.numerator ≤ scalable * decimal.denominator := by
  rw [magnitude?_eq_nearest?] at read
  have near := le_nearest? decimal.denominator_pos read
  have mantissa : x.mantissa < 9007199254740992 := x.canonical.1
  have scale : x.scale ≤ 2045 := x.canonical.2.1
  have half := halfStepBits_eq
  have room : (2 * x.mantissa + 1) * 2 ^ x.scale ≤ 2 * scalable := by
    by_cases last : x.scale = 2045
    · have smaller := apart last
      have power : 2 ^ x.scale = 2 * 2 ^ halfStepBits := by
        rw [last, ← Nat.pow_succ', half]
      rw [power, scalable, Nat.mul_left_comm]
      exact Nat.mul_le_mul_left _ (Nat.mul_le_mul_right _ (by omega))
    · have power : 2 ^ x.scale ≤ 2 ^ halfStepBits :=
        Nat.pow_le_pow_right (by decide) (by omega)
      rw [scalable, ← Nat.mul_assoc]
      exact Nat.mul_le_mul (by omega) power
  refine Nat.le_of_mul_le_mul_left ?_ (by decide : 0 < 2)
  calc
    2 * decimal.numerator ≤ (2 * x.mantissa + 1) * (decimal.denominator * 2 ^ x.scale) := near
    _ = (2 * x.mantissa + 1) * 2 ^ x.scale * decimal.denominator := by ring
    _ ≤ 2 * scalable * decimal.denominator := Nat.mul_le_mul_right _ room
    _ = 2 * (scalable * decimal.denominator) := Nat.mul_assoc ..

/-- Leaving digits out makes a decimal smaller, when the power of ten makes up for
the places that were left out. -/
theorem numerator_mul_le {digits all places : Nat} {exponent : Int} (whole : 0 ≤ exponent)
    (kept : digits * 10 ^ places ≤ all) :
    numerator ⟨digits, exponent⟩ * denominator ⟨all, exponent - places⟩ ≤
      numerator ⟨all, exponent - places⟩ := by
  have exponents : exponent.toNat + (-(exponent - places)).toNat =
      places + (exponent - places).toNat := by omega
  simp only [numerator, denominator]
  calc
    digits * 10 ^ exponent.toNat * 2 ^ unitBits * 10 ^ (-(exponent - places)).toNat =
        digits * 10 ^ (exponent.toNat + (-(exponent - places)).toNat) * 2 ^ unitBits := by
      rw [Nat.pow_add]
      ring
    _ = digits * 10 ^ places * 10 ^ (exponent - places).toNat * 2 ^ unitBits := by
      rw [exponents, Nat.pow_add]
      ring
    _ ≤ all * 10 ^ (exponent - places).toNat * 2 ^ unitBits :=
      Nat.mul_le_mul_right _ (Nat.mul_le_mul_right _ kept)

/-- Digits of a machine word may be scaled down, and up as well if they are the first ones of a
decimal that is read as a magnitude below the two largest. -/
theorem exists_scaled?_of_kept {digits all places : Nat} {exponent : Int} {x : Magnitude}
    (word : digits ≤ 18446744073709551615) (kept : digits * 10 ^ places ≤ all)
    (read : magnitude? ⟨all, exponent - places⟩ = some x)
    (apart : x.scale = 2045 → x.mantissa < 9007199254740990) :
    ∃ y, scaled? ⟨digits, exponent⟩ = some y := by
  refine exists_scaled? ?_
  by_cases whole : 0 ≤ exponent
  · refine Nat.le_of_mul_le_mul_right ?_ (denominator_pos ⟨all, exponent - places⟩)
    exact Nat.le_trans (numerator_mul_le whole kept) (numerator_le_scalable read apart)
  · have down : exponent.toNat = 0 := by omega
    have bits : halfStepBits = 959 + (11 + unitBits) := halfStepBits_eq
    rw [numerator, down, Nat.pow_zero, Nat.mul_one, scalable, bits]
    calc
      digits * 2 ^ unitBits ≤ 18014398509481979 * 2 ^ 11 * 2 ^ unitBits :=
        Nat.mul_le_mul_right _ (Nat.le_trans word (by decide))
      _ = 18014398509481979 * 2 ^ (11 + unitBits) := by rw [Nat.mul_assoc, Nat.pow_add]
      _ ≤ 18014398509481979 * 2 ^ (959 + (11 + unitBits)) :=
        Nat.mul_le_mul_left _ (Nat.pow_le_pow_right (by decide) (Nat.le_add_left ..))

/-- Fewer than 54 bits with zeros behind them are the units of a magnitude. Nothing
has to be rounded, so the nearest one is exact. -/
theorem exists_units_eq {digits bits : Nat} (few : digits < 9007199254740992)
    (inRange : bits ≤ halfStepBits) :
    ∃ x, nearest? (digits * 2 ^ bits) 1 = some x ∧ x.units = digits * 2 ^ bits := by
  have below : digits * 2 ^ bits < 1 * overflow := by
    rw [Nat.one_mul, overflow]
    exact Nat.mul_lt_mul_of_lt_of_le (by omega) (Nat.pow_le_pow_right (by decide) inRange)
      (Nat.two_pow_pos _)
  obtain ⟨x, nearest⟩ := exists_nearest? Nat.one_pos below
  have scale : roundingScale (digits * 2 ^ bits) 1 ≤ bits := by
    unfold roundingScale
    rw [Nat.div_one]
    by_cases nothing : digits * 2 ^ bits = 0
    · rw [nothing, Nat.log2_zero]
      exact Nat.zero_le bits
    · have units : digits * 2 ^ bits < 2 ^ (53 + bits) := by
        rw [Nat.pow_add]
        exact Nat.mul_lt_mul_of_pos_right few (Nat.two_pow_pos _)
      have log := (Nat.log2_lt nothing).mpr units
      omega
  obtain ⟨steps, whole⟩ : ∃ steps, steps * step (digits * 2 ^ bits) 1 = digits * 2 ^ bits := by
    refine ⟨digits * 2 ^ (bits - roundingScale (digits * 2 ^ bits) 1), ?_⟩
    rw [step, Nat.one_mul, Nat.mul_assoc, ← Nat.pow_add, Nat.sub_add_cancel scale]
  have kept := roundHalfEven_mul_left steps _ (step_pos (digits * 2 ^ bits) Nat.one_pos)
  rw [whole] at kept
  have units := units_nearest? nearest
  rw [kept, whole, Nat.mul_one] at units
  exact ⟨x, nearest, units⟩

/-- Powers of ten up to this one have no more bits than a magnitude, apart from zeros. -/
def exactPower : Nat := 22

/-- A power of ten with few bits is read as itself. It is a power of five with zeros
behind it, and the power of five has fewer than 54 bits. -/
theorem exists_tenPow?_units_eq {power : Nat} (small : power ≤ exactPower) :
    ∃ x, tenPow? power = some x ∧ x.units = 10 ^ power * 2 ^ unitBits := by
  have few : 5 ^ power < 9007199254740992 :=
    Nat.lt_of_le_of_lt (Nat.pow_le_pow_right (by decide) small) (by decide)
  have inRange : power + unitBits ≤ halfStepBits := by
    rw [halfStepBits_eq]
    have limit : exactPower = 22 := rfl
    have unit : unitBits = 1074 := rfl
    omega
  have bits : 5 ^ power * 2 ^ (power + unitBits) = 10 ^ power * 2 ^ unitBits := by
    rw [Nat.pow_add, ← Nat.mul_assoc, ← Nat.mul_pow]
  rw [tenPow?_eq, ← bits]
  exact exists_units_eq few inRange

/-- Few digits are scaled by a small power of ten without any rounding but the last. The outcome
is the magnitude that is nearest to the decimal. -/
theorem scaled?_eq_magnitude? {decimal : Decimal} (few : decimal.digits < 9007199254740992)
    (small : decimal.exponent.natAbs ≤ exactPower) : decimal.scaled? = decimal.magnitude? := by
  obtain ⟨digits, exponent⟩ := decimal
  dsimp only at few small
  have inRange : unitBits ≤ halfStepBits := by
    rw [halfStepBits_eq]
    decide
  have positive : 0 < 2 ^ unitBits := Nat.two_pow_pos _
  obtain ⟨x, rounded, units⟩ := exists_units_eq few inRange
  obtain ⟨power, found, tens⟩ := exists_tenPow?_units_eq small
  have divisor : 0 < power.units := by
    rw [tens]
    exact Nat.mul_pos (Nat.pow_pos (by decide)) positive
  rw [scaled?_of_digits rounded, magnitude?_eq_nearest?]
  cases exponent with
  | ofNat up =>
    dsimp only [Int.natAbs] at found tens
    by_cases nothing : x = zero
    · have none : digits = 0 := by
        rw [nothing] at units
        have product : digits * 2 ^ unitBits = 0 := units.symm
        exact (Nat.mul_eq_zero.mp product).resolve_right (Nat.ne_of_gt positive)
      have numerator_eq : numerator ⟨digits, .ofNat up⟩ = 0 := by simp [numerator, none]
      rw [nothing, Magnitude.scaled?, if_pos rfl, numerator_eq,
        nearest?_of_small (denominator_pos _)]
    · rw [scaled?_of_power nothing found, times?, units, tens, two_pow_unitBits]
      refine nearest?_congr positive (denominator_pos _) ?_
      have whole : numerator ⟨digits, .ofNat up⟩ = digits * 10 ^ up * 2 ^ unitBits := rfl
      have undivided : denominator ⟨digits, .ofNat up⟩ = 1 := by simp [denominator]
      rw [whole, undivided]
      ring
  | negSucc less =>
    rw [Int.natAbs_negSucc, Nat.succ_eq_add_one] at found tens
    have inLimit : less < largestPower := Nat.lt_of_lt_of_le small (by decide)
    rw [scaled?_of_divisor inLimit found, over?, units, two_pow_unitBits]
    refine nearest?_congr divisor (denominator_pos _) ?_
    have whole : numerator ⟨digits, .negSucc less⟩ = digits * 2 ^ unitBits := by simp [numerator]
    have divided : denominator ⟨digits, .negSucc less⟩ = 10 ^ (less + 1) := rfl
    rw [tens, whole, divided]
    ring

end Decimal

end CloudDiagram.Numeric
