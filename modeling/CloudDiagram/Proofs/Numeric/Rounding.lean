import CloudDiagram.Numeric.Shortest
import Mathlib.Algebra.Group.Nat.Defs

/-!
# Decimals are read by their quantity

Reading a decimal rounds a quotient of two whole numbers, counted in the smallest unit. Rounding
looks at the quotient only, so two decimals that denote one quantity are read alike: zeros
behind the digits make no difference. The shortcuts for exponents out of range answer what
rounding would answer.

A magnitude is a whole number of units, so all of its digits are read back as itself. The
decimal that is shown for it was tried before, or is all of its digits; it is read back in
either case.
-/

namespace CloudDiagram.Numeric

/-- Rounding looks at a quotient, not at how it is written. A common factor goes
into the quotient and into what is left over alike. -/
theorem roundHalfEven_mul_mul {factor : Nat} (positive : 0 < factor) (numerator denominator : Nat) :
    roundHalfEven (factor * numerator) (factor * denominator) =
      roundHalfEven numerator denominator := by
  have quotient : factor * numerator / (factor * denominator) = numerator / denominator :=
    Nat.mul_div_mul_left _ _ positive
  have twice : 2 * (factor * numerator % (factor * denominator)) =
      factor * (2 * (numerator % denominator)) := by
    rw [Nat.mul_mod_mul_left, Nat.mul_left_comm]
  have below : factor * (2 * (numerator % denominator)) < factor * denominator ↔
      2 * (numerator % denominator) < denominator := Nat.mul_lt_mul_left positive
  have half : factor * (2 * (numerator % denominator)) = factor * denominator ↔
      2 * (numerator % denominator) = denominator :=
    Nat.mul_right_inj (Nat.ne_of_gt positive)
  simp only [roundHalfEven, quotient, twice, below, half]

/-- What is less than half of the denominator is rounded to nothing. -/
theorem roundHalfEven_of_small {numerator denominator : Nat} (small : 2 * numerator < denominator) :
    roundHalfEven numerator denominator = 0 := by
  have under : numerator < denominator := by omega
  simp [roundHalfEven, Nat.div_eq_of_lt under, Nat.mod_eq_of_lt under, small]

namespace Magnitude

/-- The nearest magnitude depends on the quotient only. Its scale is found from the
quotient, and at this scale the quotient is rounded. -/
theorem nearest?_mul_mul {factor : Nat} (positive : 0 < factor) (numerator denominator : Nat) :
    nearest? (factor * numerator) (factor * denominator) = nearest? numerator denominator := by
  simp only [nearest?, Nat.mul_div_mul_left _ _ positive, Nat.mul_assoc,
    roundHalfEven_mul_mul positive]

/-- Equal quotients have the same nearest magnitude: both may be written with the
product of the two denominators. -/
theorem nearest?_congr {numerator denominator otherNumerator otherDenominator : Nat}
    (positive : 0 < denominator) (otherPositive : 0 < otherDenominator)
    (same : numerator * otherDenominator = otherNumerator * denominator) :
    nearest? numerator denominator = nearest? otherNumerator otherDenominator := by
  rw [← nearest?_mul_mul otherPositive, ← nearest?_mul_mul positive otherNumerator,
    Nat.mul_comm otherDenominator numerator, same, Nat.mul_comm denominator otherNumerator,
    Nat.mul_comm otherDenominator denominator]

/-- The scale of a magnitude follows from its units, as its mantissa has all of its
bits unless the scale is zero. -/
theorem log2_units (x : Magnitude) : x.units.log2 - 52 = x.scale := by
  obtain ⟨mantissa, scale, below, -, normal⟩ := x
  simp only [units, Nat.pow_eq]
  rcases normal with rfl | normal
  · have narrow : mantissa * 2 ^ 0 < 2 ^ 53 := by simpa using below
    by_cases nothing : mantissa = 0
    · simp [nothing]
    · have bits : (mantissa * 2 ^ 0).log2 < 53 :=
        (Nat.log2_lt (by simpa using nothing)).mpr narrow
      omega
  · have positive : 0 < 2 ^ scale := Nat.two_pow_pos scale
    have nonzero : mantissa * 2 ^ scale ≠ 0 :=
      Nat.mul_ne_zero (by omega) (Nat.ne_of_gt positive)
    have bits : (mantissa * 2 ^ scale).log2 = 52 + scale := by
      refine (Nat.log2_eq_iff nonzero).mpr ⟨?_, ?_⟩
      · rw [Nat.pow_add]
        exact Nat.mul_le_mul_right _ normal
      · rw [show 52 + scale + 1 = 53 + scale by omega, Nat.pow_add]
        exact Nat.mul_lt_mul_of_pos_right below positive
    omega

/-- A magnitude is the nearest one to its units. Nothing is rounded, because the
units are a multiple of what the scale counts. -/
theorem nearest?_units (x : Magnitude) : nearest? x.units 1 = some x := by
  have positive : 0 < Nat.pow 2 x.scale := Nat.two_pow_pos x.scale
  have mantissa : roundHalfEven x.units (1 * Nat.pow 2 x.scale) = x.mantissa := by
    rw [Nat.one_mul, units, roundHalfEven_mul_left _ _ positive]
  have below : x.mantissa ≠ 9007199254740992 := Nat.ne_of_lt x.canonical.1
  simp only [nearest?, Nat.div_one, log2_units, mantissa, below, if_false]
  exact ofParts?_self x

/-- What is less than half a unit is nearest to nothing. It is what the shortcut for
small exponents relies on. -/
theorem nearest?_of_small {numerator denominator : Nat} (small : 2 * numerator < denominator) :
    nearest? numerator denominator = some zero := by
  have under : numerator < denominator := by omega
  have mantissa : roundHalfEven numerator (denominator * Nat.pow 2 0) = 0 :=
    roundHalfEven_of_small (by simpa using small)
  simp only [nearest?, Nat.div_eq_of_lt under, Nat.log2_zero, Nat.zero_sub, mantissa]
  rfl

/-- No magnitude has `2 ^ 2098` units, so what has so many is too large at any
scale. It is what the shortcut for large exponents relies on. -/
theorem nearest?_of_large {numerator denominator bits : Nat} (many : 2098 ≤ bits)
    (large : 2 ^ bits ≤ numerator / denominator) : nearest? numerator denominator = none := by
  have positive : 0 < 2 ^ bits := Nat.two_pow_pos bits
  have nonzero : numerator / denominator ≠ 0 := Nat.ne_of_gt (Nat.lt_of_lt_of_le positive large)
  have known : bits ≤ (numerator / denominator).log2 := (Nat.le_log2 nonzero).mpr large
  have outside (mantissa scale : Nat) (above : 2046 ≤ scale) : ofParts? mantissa scale = none :=
    dif_neg (by omega)
  simp only [nearest?, outside _ _ (show 2046 ≤ (numerator / denominator).log2 - 52 by omega),
    outside _ _ (show 2046 ≤ (numerator / denominator).log2 - 52 + 1 by omega), ite_self]

end Magnitude

/-- The unit of magnitudes is one divided by two to this power. It is kept under a
name so that the power itself is never computed. -/
def unitBits : Nat := 1074

theorem two_pow_unitBits : Nat.pow 2 1074 = 2 ^ unitBits := by
  rw [show (1074 : Nat) = unitBits from rfl, Nat.pow_eq]

theorem five_pow_unitBits : Nat.pow 5 1074 = 5 ^ unitBits := by
  rw [show (1074 : Nat) = unitBits from rfl, Nat.pow_eq]

namespace Decimal

/-- A decimal counts this many units, divided by its denominator. Of the two powers
of ten one is always one. -/
def numerator (decimal : Decimal) : Nat :=
  decimal.digits * 10 ^ decimal.exponent.toNat * 2 ^ unitBits

/-- The power of ten that the units of a decimal are divided by. -/
def denominator (decimal : Decimal) : Nat := 10 ^ (-decimal.exponent).toNat

theorem denominator_pos (decimal : Decimal) : 0 < decimal.denominator :=
  Nat.pow_pos (by decide)

/-- Three bits are less than a decimal digit. -/
theorem two_pow_le_ten_pow (count : Nat) : 2 ^ (3 * count) ≤ 10 ^ count := by
  rw [Nat.pow_mul]
  exact Nat.pow_le_pow_left (by decide) count

/-- A large power of ten times any number of units is too much, however few digits
there are. -/
theorem large_of_exponent {digits up : Nat} (nonzero : digits ≠ 0) :
    2 ^ (3 * up + unitBits) ≤ digits * 10 ^ up * 2 ^ unitBits := by
  have product : 2 ^ (3 * up) ≤ digits * 10 ^ up :=
    Nat.le_trans (two_pow_le_ten_pow up)
      (Nat.le_mul_of_pos_left _ (Nat.pos_of_ne_zero nonzero))
  rw [Nat.pow_add]
  exact Nat.mul_le_mul_right _ product

/-- Few bits divided by a large power of ten are less than half a unit. The number
of bits is what the shortcut compares. -/
theorem small_of_bits {digits down : Nat}
    (few : digits.log2 + 1 + (unitBits + 2) ≤ 3 * down) :
    2 * (digits * 2 ^ unitBits) < 10 ^ down := by
  have bits : digits < 2 ^ (digits.log2 + 1) := Nat.lt_log2_self
  calc
    2 * (digits * 2 ^ unitBits) = digits * 2 ^ (unitBits + 1) := by
      rw [Nat.pow_succ, Nat.mul_comm (2 ^ unitBits), Nat.mul_left_comm]
    _ < 2 ^ (digits.log2 + 1) * 2 ^ (unitBits + 1) :=
      Nat.mul_lt_mul_of_pos_right bits (Nat.two_pow_pos _)
    _ = 2 ^ (digits.log2 + 1 + (unitBits + 1)) := (Nat.pow_add ..).symm
    _ ≤ 2 ^ (3 * down) := Nat.pow_le_pow_right (by decide) (by omega)
    _ ≤ 10 ^ down := two_pow_le_ten_pow down

/-- Reading a decimal with a power of ten that is a whole number: it is too large at
once, or the nearest magnitude is looked for. -/
theorem magnitude?_ofNat {digits : Nat} (nonzero : digits ≠ 0) (up : Nat) :
    magnitude? ⟨digits, .ofNat up⟩ =
      if 400 < up then none else Magnitude.nearest? (digits * 10 ^ up * 2 ^ unitBits) 1 := by
  rw [magnitude?, if_neg nonzero, ← two_pow_unitBits]
  exact rfl

/-- Reading a decimal with a power of ten that divides: it is nothing at once, or
the nearest magnitude is looked for. -/
theorem magnitude?_negSucc {digits : Nat} (nonzero : digits ≠ 0) (less : Nat) :
    magnitude? ⟨digits, .negSucc less⟩ =
      if digits.log2 + 1 + (unitBits + 2) ≤ 3 * (less + 1) then some Magnitude.zero
      else Magnitude.nearest? (digits * 2 ^ unitBits) (10 ^ (less + 1)) := by
  rw [magnitude?, if_neg nonzero, ← two_pow_unitBits]
  exact rfl

/-- A decimal is read as the magnitude nearest to its quantity, whatever its
exponent. In the cases that the shortcuts answer, rounding would give the same. -/
theorem magnitude?_eq_nearest? (decimal : Decimal) :
    decimal.magnitude? = Magnitude.nearest? decimal.numerator decimal.denominator := by
  obtain ⟨digits, exponent⟩ := decimal
  by_cases nothing : digits = 0
  · have small : 2 * numerator ⟨digits, exponent⟩ < denominator ⟨digits, exponent⟩ := by
      rw [numerator, nothing, Nat.zero_mul, Nat.zero_mul, Nat.mul_zero]
      exact denominator_pos ⟨0, exponent⟩
    rw [Magnitude.nearest?_of_small small, magnitude?, if_pos nothing]
  · cases exponent with
    | ofNat up =>
      have whole : numerator ⟨digits, .ofNat up⟩ = digits * 10 ^ up * 2 ^ unitBits := rfl
      have divisor : denominator ⟨digits, .ofNat up⟩ = 1 := by simp [denominator]
      rw [magnitude?_ofNat nothing, whole, divisor]
      split
      · have many : 2098 ≤ 3 * up + unitBits := by
          have bits : unitBits = 1074 := rfl
          omega
        refine (Magnitude.nearest?_of_large many ?_).symm
        rw [Nat.div_one]
        exact large_of_exponent nothing
      · rfl
    | negSucc less =>
      have whole : numerator ⟨digits, .negSucc less⟩ = digits * 2 ^ unitBits := by
        simp [numerator]
      have divisor : denominator ⟨digits, .negSucc less⟩ = 10 ^ (less + 1) := rfl
      rw [magnitude?_negSucc nothing, whole, divisor]
      split
      · rename_i few
        exact (Magnitude.nearest?_of_small (small_of_bits few)).symm
      · rfl

/-- Zeros behind the digits make no difference, as the power of ten makes up for
them. -/
theorem magnitude?_pad (digits zeros : Nat) (exponent : Int) :
    magnitude? ⟨digits * 10 ^ zeros, exponent - zeros⟩ = magnitude? ⟨digits, exponent⟩ := by
  rw [magnitude?_eq_nearest?, magnitude?_eq_nearest?]
  refine Magnitude.nearest?_congr (denominator_pos _) (denominator_pos _) ?_
  have exponents : zeros + (exponent - zeros).toNat + (-exponent).toNat =
      exponent.toNat + (-(exponent - zeros)).toNat := by omega
  have powers : 10 ^ zeros * 10 ^ (exponent - zeros).toNat * 10 ^ (-exponent).toNat =
      10 ^ exponent.toNat * 10 ^ (-(exponent - zeros)).toNat := by
    rw [← Nat.pow_add, ← Nat.pow_add, ← Nat.pow_add, exponents]
  simp only [numerator, denominator]
  calc
    digits * 10 ^ zeros * 10 ^ (exponent - zeros).toNat * 2 ^ unitBits * 10 ^ (-exponent).toNat =
        digits * 2 ^ unitBits *
          (10 ^ zeros * 10 ^ (exponent - zeros).toNat * 10 ^ (-exponent).toNat) := by
      simp only [Nat.mul_assoc, Nat.mul_left_comm, Nat.mul_comm]
    _ = digits * 2 ^ unitBits * (10 ^ exponent.toNat * 10 ^ (-(exponent - zeros)).toNat) := by
      rw [powers]
    _ = digits * 10 ^ exponent.toNat * 2 ^ unitBits * 10 ^ (-(exponent - zeros)).toNat := by
      simp only [Nat.mul_assoc, Nat.mul_left_comm]

end Decimal

namespace Magnitude

/-- A magnitude without units is zero, since there is one way only to write it. -/
theorem eq_zero_of_units {x : Magnitude} (nothing : x.units = 0) : x = zero := by
  obtain ⟨mantissa, scale, below, inRange, normal⟩ := x
  have positive : 0 < 2 ^ scale := Nat.two_pow_pos scale
  rcases Nat.mul_eq_zero.mp nothing with rfl | impossible
  · obtain rfl : scale = 0 := by omega
    rfl
  · exact absurd impossible (Nat.ne_of_gt positive)

/-- All digits of a magnitude are read back. Its units divided by a power of two are
a decimal with that many places. -/
theorem magnitude?_exact (x : Magnitude) : x.exact.magnitude? = some x := by
  have digits : x.exact.digits = x.units * 5 ^ unitBits := by
    rw [exact, five_pow_unitBits]
  have exponent : x.exact.exponent = -(unitBits : Int) := rfl
  have powers (count : Nat) : 5 ^ count * 2 ^ count = 10 ^ count := (Nat.mul_pow 5 2 count).symm
  rw [Decimal.magnitude?_eq_nearest?, ← nearest?_units x]
  refine nearest?_congr (Decimal.denominator_pos _) Nat.one_pos ?_
  rw [Decimal.numerator, Decimal.denominator, digits, exponent, Int.neg_neg, Int.toNat_natCast,
    Int.toNat_neg_natCast, Nat.pow_zero, Nat.mul_one, Nat.mul_one, Nat.mul_assoc, powers]

/-- The decimal that is shown for a magnitude is read back. Those that are tried are
shown only if they are, and all digits of a magnitude always are. -/
theorem magnitude?_shortest (x : Magnitude) : x.shortest.magnitude? = some x := by
  unfold shortest
  split
  · rename_i nothing
    rw [eq_zero_of_units nothing]
    rfl
  · cases tried : x.candidates.find? fun candidate => candidate.magnitude? = some x with
    | none => exact magnitude?_exact x
    | some candidate =>
      have held := List.find?_some tried
      exact of_decide_eq_true held

/-- A magnitude has fewer units than its bits can count: 53, and those of the scale.
-/
theorem units_lt (x : Magnitude) : x.units < 2 ^ (53 + x.scale) := by
  rw [Nat.pow_add]
  exact Nat.mul_lt_mul_of_pos_right x.canonical.1 (Nat.two_pow_pos x.scale)

/-- A magnitude multiplied by a power of ten has as many digits as bits, and those
of the power. The estimate is rough, and it is enough. -/
theorem length_toDigits_units {x : Magnitude} {digits power : Nat}
    (most : digits ≤ x.units * 10 ^ power + 1) :
    (Nat.toDigits 10 digits).length ≤ 53 + x.scale + power + 1 := by
  refine (Nat.length_toDigits_le_iff (by decide) (Nat.succ_pos _)).mpr ?_
  have wider : 2 ^ (53 + x.scale) ≤ 10 ^ (53 + x.scale) := Nat.pow_le_pow_left (by decide) _
  have positive : 0 < 10 ^ (53 + x.scale + power) := Nat.pow_pos (by decide)
  have product : x.units * 10 ^ power < 10 ^ (53 + x.scale + power) := by
    rw [Nat.pow_add 10 (53 + x.scale) power]
    exact Nat.mul_lt_mul_of_pos_right (Nat.lt_of_lt_of_le x.units_lt wider)
      (Nat.pow_pos (by decide))
  rw [Nat.pow_succ]
  omega

/-- A decimal that is tried on a grid has no more digits than the magnitude has
there. The candidates are the two neighbours on the grid. -/
theorem mem_neighbours {x : Magnitude} {exponent : Int} {candidate : Decimal}
    (member : candidate ∈ x.neighbours exponent) :
    candidate.exponent = exponent ∧
      candidate.digits ≤ x.units * 10 ^ (-exponent).toNat + 1 := by
  have near {nearer : Prop} [Decidable nearer] {numerator denominator : Nat}
      (pair : candidate ∈ if nearer then
          [(⟨numerator / denominator, exponent⟩ : Decimal), ⟨numerator / denominator + 1, exponent⟩]
        else [⟨numerator / denominator + 1, exponent⟩, ⟨numerator / denominator, exponent⟩]) :
      candidate.exponent = exponent ∧ candidate.digits ≤ numerator + 1 := by
    have below : numerator / denominator ≤ numerator := Nat.div_le_self ..
    have either : candidate = ⟨numerator / denominator, exponent⟩ ∨
        candidate = ⟨numerator / denominator + 1, exponent⟩ := by
      split at pair
      · simpa using pair
      · simpa [or_comm] using pair
    rcases either with rfl | rfl
    · exact ⟨rfl, Nat.le_succ_of_le below⟩
    · exact ⟨rfl, Nat.succ_le_succ below⟩
  cases exponent with
  | ofNat up =>
    simp only [neighbours] at member
    generalize Nat.pow 2 1074 = unit at member
    simpa using near member
  | negSucc less =>
    simp only [neighbours] at member
    generalize Nat.pow 2 1074 = unit at member
    exact near member

/-- The decimal that is shown has an exponent in range and no more than a few
thousand digits. Its numeral therefore keeps to the limit on exponents. -/
theorem shortest_bounds (x : Magnitude) :
    -1074 ≤ x.shortest.exponent ∧ x.shortest.exponent ≤ 400 ∧
      (Nat.toDigits 10 x.shortest.digits).length ≤ 4000 := by
  have scale : x.scale ≤ 2045 := x.canonical.2.1
  unfold shortest
  split
  · decide
  · rename_i nonzero
    have bits : x.units.log2 < 53 + x.scale := (Nat.log2_lt nonzero).mpr x.units_lt
    cases tried : x.candidates.find? fun candidate => candidate.magnitude? = some x with
    | none =>
      have digits : x.exact.digits ≤ x.units * 10 ^ unitBits + 1 := by
        rw [exact, five_pow_unitBits]
        exact Nat.le_succ_of_le (Nat.mul_le_mul_left _ (Nat.pow_le_pow_left (by decide) _))
      have length := length_toDigits_units digits
      have unit : unitBits = 1074 := rfl
      have exponent : x.exact.exponent = -1074 := rfl
      rw [Option.getD_none, exponent]
      exact ⟨by decide, by decide, by omega⟩
    | some candidate =>
      obtain ⟨finer, inRange, member⟩ := List.mem_flatMap.mp (List.mem_of_find?_eq_some tried)
      obtain ⟨exponent, digits⟩ := mem_neighbours member
      have fine : finer < 21 := List.mem_range.mp inRange
      have length := length_toDigits_units digits
      rw [Option.getD_some, exponent]
      unfold coarsestGrid at length ⊢
      exact ⟨by omega, by omega, by omega⟩

end Magnitude

end CloudDiagram.Numeric
