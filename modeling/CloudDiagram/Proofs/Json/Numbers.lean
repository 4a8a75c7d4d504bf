import CloudDiagram.Json.Token
import CloudDiagram.Json.Writer
import CloudDiagram.Proofs.Numeric.Rounding
import Mathlib.Data.List.Basic
import Mathlib.Data.List.Induction

/-!
# Numerals

A numeral that is spelled out is scanned as itself, unless what stands behind it would go on
with it. An integer is written as a numeral without point and exponent and is read back. A
double is written as a numeral that has either, with the sign of the double, also that of zero.
This numeral denotes the decimal that is shown for the double, up to zeros behind its digits.
Which double is read from it is another matter.
-/

namespace CloudDiagram.Numeric

/-- Digits before others count by their place, that is, by how many stand behind
them. -/
theorem digitsValue_append (digits more : List Char) :
    digitsValue (digits ++ more) = digitsValue digits * 10 ^ more.length + digitsValue more := by
  induction more using List.reverseRecOn with
  | nil => simp [digitsValue]
  | append_singleton more last inductionHypothesis =>
    rw [← List.append_assoc, digitsValue_append_singleton, digitsValue_append_singleton,
      inductionHypothesis, List.length_append, List.length_singleton, Nat.pow_succ, Nat.mul_add,
      Nat.add_assoc, ← Nat.mul_assoc _ _ 10, Nat.mul_comm 10 (digitsValue digits * _)]

/-- Zeros spell nothing, however many there are. Doubles are written with zeros
around their digits, and these do not change what is denoted. -/
theorem digitsValue_replicate (count : Nat) : digitsValue (List.replicate count '0') = 0 := by
  induction count with
  | zero => rfl
  | succ count inductionHypothesis =>
    rw [List.replicate_succ', digitsValue_append_singleton, inductionHypothesis]
    rfl

/-- The digits of a number spell it, as each is the remainder that was written. -/
theorem digitsValue_toDigits (number : Nat) : digitsValue (Nat.toDigits 10 number) = number := by
  have step (value : Nat) (digit : Char) (member : digit ∈ Nat.toDigits 10 number) :
      10 * value + digitValue digit = 10 * value + (digit.toNat - '0'.toNat) := by
    have isDigit : digit.isDigit = true :=
      Nat.isDigit_of_mem_toDigits (by decide) (by decide) member
    rw [digitValue, if_pos isDigit]
  calc
    digitsValue (Nat.toDigits 10 number) = Nat.ofDigitChars 10 (Nat.toDigits 10 number) 0 :=
      List.foldl_ext _ _ _ step
    _ = number := Nat.ofDigitChars_ten_toDigits

/-- Digits spell less than the power of ten that they fill. So the count of the
digits before a point bounds what they spell. -/
theorem digitsValue_lt {digits : List Char} (isDigit : ∀ c ∈ digits, c.isDigit = true) :
    digitsValue digits < 10 ^ digits.length := by
  induction digits using List.reverseRecOn with
  | nil => decide
  | append_singleton digits last inductionHypothesis =>
    have before := inductionHypothesis fun c member => isDigit c (List.mem_append_left _ member)
    have digit : last.isDigit = true := isDigit last (by simp)
    have nine : digitValue last ≤ 9 := by
      have range : 48 ≤ last.toNat ∧ last.toNat ≤ 57 := Char.isDigit_iff_toNat.mp digit
      rw [digitValue, if_pos digit]
      change last.toNat - 48 ≤ 9
      omega
    rw [digitsValue_append_singleton, List.length_append, List.length_singleton, Nat.pow_succ]
    omega

/-- A number is written with a zero in front only if it is zero. A numeral must not
have a needless zero there. -/
theorem toDigits_leading {number : Nat} {rest : List Char}
    (leading : Nat.toDigits 10 number = '0' :: rest) : rest = [] ∧ number = 0 := by
  have isDigit : ∀ c ∈ rest, c.isDigit = true := fun c member =>
    Nat.isDigit_of_mem_toDigits (b := 10) (by decide) (by decide)
      (leading ▸ List.mem_cons_of_mem _ member)
  have value : digitsValue rest = number := by
    rw [← digitsValue_toDigits number, leading, ← List.singleton_append, digitsValue_append]
    simp [digitsValue, digitValue]
  have below : number < 10 ^ rest.length := value ▸ digitsValue_lt isDigit
  cases rest with
  | nil => exact ⟨rfl, by simpa using below⟩
  | cons c rest =>
    -- fewer digits would have been enough
    have short := (Nat.length_toDigits_le_iff (by decide) (Nat.succ_pos rest.length)).mpr below
    rw [leading] at short
    exact absurd short (by simp)

end CloudDiagram.Numeric

namespace CloudDiagram.Json

open Numeric

namespace Numeral

/-- The point and the digits behind it, if there are any. Without digits there is no
point either. -/
def fractionText (numeral : Numeral) : List Char :=
  if numeral.fraction = [] then [] else '.' :: numeral.fraction

/-- The exponent with its sign, if there is one. A positive one has its sign too. -/
def exponentText (numeral : Numeral) : List Char :=
  match numeral.exponent with
  | none => []
  | some (negative, digits) => 'e' :: (if negative then '-' else '+') :: digits

/-- A numeral spelled out: its sign, the digits before the point, and what follows
them. -/
def chars (numeral : Numeral) : List Char :=
  (if numeral.negative then ['-'] else []) ++
    (numeral.whole ++ (numeral.fractionText ++ numeral.exponentText))

/-- There are digits where there have to be, nothing but digits, and no needless
zero in front. These are the numerals that the scanner accepts. -/
structure WellFormed (numeral : Numeral) : Prop where
  whole_ne : numeral.whole ≠ []
  whole : ∀ c ∈ numeral.whole, c.isDigit = true
  leading : ∀ rest, numeral.whole = '0' :: rest → rest = []
  fraction : ∀ c ∈ numeral.fraction, c.isDigit = true
  exponent : ∀ negative digits, numeral.exponent = some (negative, digits) →
    digits ≠ [] ∧ ∀ c ∈ digits, c.isDigit = true

/-- A text does not start with a digit, so that digits in front of it end there. -/
def EndsDigits (rest : List Char) : Prop := ∀ c ∈ rest.head?, c.isDigit = false

/-- A text does not go on with a number that stands before it. What stands behind a
number in a text of JSON, a comma, a bracket or the end, is of this kind. -/
def Ends (rest : List Char) : Prop :=
  ∀ c ∈ rest.head?, c.isDigit = false ∧ c ≠ '.' ∧ c ≠ 'e' ∧ c ≠ 'E'

/-- Digits are taken up to where they end, and what stands behind them is left. -/
theorem takeWhile_digits {digits rest : List Char} (isDigit : ∀ c ∈ digits, c.isDigit = true)
    (ends : EndsDigits rest) :
    (digits ++ rest).takeWhile Char.isDigit = digits ∧
      (digits ++ rest).dropWhile Char.isDigit = rest := by
  rw [List.takeWhile_append_of_pos isDigit, List.dropWhile_append_of_pos isDigit]
  cases rest with
  | nil => simp
  | cons c rest =>
    have stop : c.isDigit = false := ends c rfl
    simp [stop]

/-- The digits before the point are scanned. There is one at least, and a zero in
front stands alone. -/
theorem scanWhole_append {numeral : Numeral} (wellFormed : numeral.WellFormed) (atEnd : Cause)
    {rest : List Char} (ends : EndsDigits rest) :
    scanWhole atEnd (numeral.whole ++ rest) = .ok (numeral.whole, rest) := by
  cases spelled : numeral.whole with
  | nil => exact absurd spelled wellFormed.whole_ne
  | cons first more =>
    have isDigit : ∀ c ∈ first :: more, c.isDigit = true := spelled ▸ wellFormed.whole
    rw [List.cons_append, scanWhole.eq_def]
    dsimp only
    by_cases zero : first = '0'
    · subst zero
      obtain rfl := wellFormed.leading more spelled
      rw [if_pos rfl]
      cases rest with
      | nil => rfl
      | cons c rest =>
        have stop : c.isDigit = false := ends c rfl
        simp [stop]
    · have digits :=
        takeWhile_digits (fun c member => isDigit c (List.mem_cons_of_mem _ member)) ends
      simp [zero, isDigit first List.mem_cons_self, digits]

/-- The digits behind the point are scanned, unless there are none and no point
either. -/
theorem scanFraction_append {numeral : Numeral} (wellFormed : numeral.WellFormed) (atEnd : Cause)
    {rest : List Char} (ends : EndsDigits rest) (noPoint : ∀ c ∈ rest.head?, c ≠ '.') :
    scanFraction atEnd (numeral.fractionText ++ rest) = .ok (numeral.fraction, rest) := by
  rw [fractionText]
  split
  · rename_i none
    rw [none, List.nil_append]
    cases rest with
    | nil => rfl
    | cons c rest =>
      have stop : c ≠ '.' := noPoint c rfl
      simp [scanFraction, stop]
  · rename_i some
    have digits := takeWhile_digits wellFormed.fraction ends
    simp [scanFraction, digits, some]

/-- The exponent is scanned with its sign, unless there is none. Both signs are
read, and a missing one would count as positive. -/
theorem scanExponent_append {numeral : Numeral} (wellFormed : numeral.WellFormed) (atEnd : Cause)
    {rest : List Char} (ends : Ends rest) :
    scanExponent atEnd (numeral.exponentText ++ rest) = .ok (numeral.exponent, rest) := by
  cases written : numeral.exponent with
  | none =>
    rw [exponentText, written, List.nil_append]
    cases rest with
    | nil => rfl
    | cons c rest =>
      obtain ⟨-, -, lower, upper⟩ := ends c rfl
      simp [scanExponent, lower, upper]
  | some exponent =>
    obtain ⟨negative, digits⟩ := exponent
    obtain ⟨nonempty, isDigit⟩ := wellFormed.exponent negative digits written
    have scanned := takeWhile_digits isDigit fun c first => (ends c first).1
    cases negative <;>
      simp [exponentText, written, scanExponent, scanSign, scanned, nonempty]

/-- A numeral that is spelled out is scanned, and nothing behind it. Each part ends
where the next one starts, as none of them starts with a digit. -/
theorem scan_chars {numeral : Numeral} (wellFormed : numeral.WellFormed) (atEnd : Cause)
    {rest : List Char} (ends : Ends rest) :
    scan atEnd (numeral.chars ++ rest) = .ok (numeral, rest) := by
  -- neither what follows the whole nor what follows the fraction starts with a digit
  have behindFraction : EndsDigits (numeral.exponentText ++ rest) ∧
      ∀ c ∈ (numeral.exponentText ++ rest).head?, c ≠ '.' := by
    cases written : numeral.exponent with
    | none =>
      rw [exponentText, written, List.nil_append]
      exact ⟨fun c first => (ends c first).1, fun c first => (ends c first).2.1⟩
    | some exponent => simp [exponentText, written, EndsDigits]
  have behindWhole : EndsDigits (numeral.fractionText ++ (numeral.exponentText ++ rest)) := by
    rw [fractionText]
    split
    · exact behindFraction.1
    · simp [EndsDigits]
  have unsigned := scanWhole_append wellFormed atEnd behindWhole
  cases negative : numeral.negative with
  | true =>
    simp only [chars, negative, if_true, List.nil_append, List.append_assoc, List.cons_append,
      scan, unsigned, scanFraction_append wellFormed atEnd behindFraction.1 behindFraction.2,
      scanExponent_append wellFormed atEnd ends, bind, Except.bind, pure, Except.pure]
    rw [← negative]
  | false =>
    cases spelled : numeral.whole with
    | nil => exact absurd spelled wellFormed.whole_ne
    | cons first more =>
      have digit : first.isDigit = true := wellFormed.whole first (spelled ▸ List.mem_cons_self)
      have noDash : first ≠ '-' := by
        rintro rfl
        revert digit
        decide
      rw [spelled, List.cons_append] at unsigned
      simp [chars, negative, spelled, noDash, scan, unsigned,
        scanFraction_append wellFormed atEnd behindFraction.1 behindFraction.2,
        scanExponent_append wellFormed atEnd ends, bind, Except.bind, pure, Except.pure]
      rw [← negative, ← spelled]

/-- The exponent as a number; none counts as zero. -/
def power (numeral : Numeral) : Int :=
  match numeral.exponent with
  | none => 0
  | some (negative, digits) => if negative then -digitsValue digits else digitsValue digits

/-- The decimal that a numeral denotes: all its digits as one number, with the point
moved into the power of ten. -/
def decimal (numeral : Numeral) : Decimal :=
  ⟨numeral.significand, numeral.power - numeral.fraction.length⟩

/-- Digits around a point, the first some of them before it. Zeros fill the gap
where the point stands in front of the digits or behind them. -/
def positional (negative : Bool) (digits : List Char) (integral : Int) : Numeral :=
  if integral ≤ 0 then ⟨negative, ['0'], List.replicate integral.natAbs '0' ++ digits, none⟩
  else if digits.length ≤ integral.toNat then
    ⟨negative, digits ++ List.replicate (integral.toNat - digits.length) '0', ['0'], none⟩
  else ⟨negative, digits.take integral.toNat, digits.drop integral.toNat, none⟩

/-- Digits with a point after the first one and a power of ten. The exponent has no
point of its own to be moved, so the digits stay as they are. -/
def scientific (negative : Bool) (digits : List Char) (power : Int) : Numeral :=
  ⟨negative, digits.take 1, digits.drop 1, some (power < 0, Nat.toDigits 10 power.natAbs)⟩

/-- The numeral that a decimal is written as, with or without an exponent as its
power says. -/
def ofDecimal (negative : Bool) (decimal : Decimal) : Numeral :=
  let digits := Nat.toDigits 10 decimal.digits
  let power := decimal.exponent + digits.length - 1
  if positionalFrom ≤ power ∧ power < positionalBelow then positional negative digits (power + 1)
  else scientific negative digits power

/-- Digits around a point are written as their numeral, in each of the three places
where the point may stand. -/
theorem chars_positional (negative : Bool) {digits : List Char} (nonempty : digits ≠ [])
    (integral : Int) :
    (positional negative digits integral).chars =
      (if negative then ['-'] else []) ++ positionalChars digits integral := by
  unfold positional positionalChars
  split
  · simp [chars, fractionText, exponentText, nonempty]
  · split
    · simp [chars, fractionText, exponentText]
    · rename_i long
      have behind : digits.drop integral.toNat ≠ [] := by
        rw [Ne, List.drop_eq_nil_iff]
        exact long
      simp [chars, fractionText, exponentText, behind]

/-- Digits with a power of ten are written as their numeral. A single digit has no
point behind it. -/
theorem chars_scientific (negative : Bool) (digits : List Char) (power : Int) :
    (scientific negative digits power).chars =
      (if negative then ['-'] else []) ++ exponentChars digits power := by
  have alone : digits.tail = [] ↔ digits.length ≤ 1 := by
    rw [← List.drop_one, List.drop_eq_nil_iff]
  simp [scientific, exponentChars, chars, fractionText, exponentText, alone]

/-- A decimal is written as its numeral, so what is known of numerals that are
spelled out holds of written doubles. -/
theorem chars_ofDecimal (negative : Bool) (decimal : Decimal) :
    (ofDecimal negative decimal).chars =
      (if negative then ['-'] else []) ++ decimalChars decimal := by
  unfold ofDecimal decimalChars
  dsimp only
  split
  · exact chars_positional negative Nat.toDigits_ne_nil _
  · exact chars_scientific ..

/-- Zero is written without a power of ten, which is what makes its numeral well
formed. -/
def Plain (decimal : Decimal) : Prop := decimal.digits = 0 → decimal.exponent = 0

/-- The digits of a number are digits. -/
theorem isDigit_toDigits (number : Nat) : ∀ c ∈ Nat.toDigits 10 number, c.isDigit = true :=
  fun _ member => Nat.isDigit_of_mem_toDigits (by decide) (by decide) member

/-- Zeros are digits. -/
theorem isDigit_replicate (count : Nat) : ∀ c ∈ List.replicate count '0', c.isDigit = true := by
  intro c member
  rw [List.eq_of_mem_replicate member]
  decide

/-- The digits of a decimal around a point are a numeral. The zeros that may be put
in front stand behind the point, after a single zero. -/
theorem wellFormed_positional (negative : Bool) {decimal : Decimal} (plain : Plain decimal) :
    (positional negative (Nat.toDigits 10 decimal.digits)
      (decimal.exponent + (Nat.toDigits 10 decimal.digits).length)).WellFormed := by
  have isDigit := isDigit_toDigits decimal.digits
  have nonempty : Nat.toDigits 10 decimal.digits ≠ [] := Nat.toDigits_ne_nil
  unfold positional
  split
  · refine ⟨by simp, by simp, fun rest zero => ?_, ?_, nofun⟩
    · exact (List.cons.inj zero).2.symm
    · exact List.forall_mem_append.mpr ⟨isDigit_replicate _, isDigit⟩
  · split
    · refine ⟨by simp, List.forall_mem_append.mpr ⟨isDigit, isDigit_replicate _⟩, ?_, by simp,
        nofun⟩
      intro rest leading
      obtain ⟨first, more, digits⟩ := List.exists_cons_of_ne_nil nonempty
      rw [digits, List.cons_append] at leading
      obtain ⟨rfl, rfl⟩ := List.cons.inj leading
      -- a zero in front is the only digit, and then no zeros follow it
      obtain ⟨rfl, zero⟩ := toDigits_leading digits
      simp [plain zero]
    · rename_i positive long
      refine ⟨?_, fun c member => isDigit c (List.mem_of_mem_take member), ?_,
        fun c member => isDigit c (List.mem_of_mem_drop member), nofun⟩
      · simp [nonempty]
        omega
      · intro rest leading
        obtain ⟨first, more, digits⟩ := List.exists_cons_of_ne_nil nonempty
        obtain ⟨count, integral⟩ : ∃ count, (decimal.exponent +
            (Nat.toDigits 10 decimal.digits).length).toNat = count + 1 :=
          Nat.exists_eq_succ_of_ne_zero (by omega)
        rw [integral, digits, List.take_succ_cons] at leading
        obtain ⟨rfl, rfl⟩ := List.cons.inj leading
        obtain ⟨rfl, -⟩ := toDigits_leading digits
        exact List.take_nil

/-- The digits of a decimal with a power of ten are a numeral: its first digit alone
stands before the point. -/
theorem wellFormed_scientific (negative : Bool) (number : Nat) (power : Int) :
    (scientific negative (Nat.toDigits 10 number) power).WellFormed := by
  have isDigit := isDigit_toDigits number
  obtain ⟨first, more, digits⟩ := List.exists_cons_of_ne_nil
    (Nat.toDigits_ne_nil : Nat.toDigits 10 number ≠ [])
  rw [digits] at isDigit ⊢
  refine ⟨by simp [scientific], ?_, ?_, ?_, ?_⟩
  · simpa [scientific] using isDigit first List.mem_cons_self
  · rintro rest leading
    exact (List.cons.inj leading).2.symm
  · exact fun c member => isDigit c (List.mem_cons_of_mem _ member)
  · rintro down digits written
    obtain ⟨-, rfl⟩ := Prod.mk.inj (Option.some.inj written)
    exact ⟨Nat.toDigits_ne_nil, isDigit_toDigits _⟩

/-- A decimal is written as a numeral, so it is scanned from its text. -/
theorem wellFormed_ofDecimal (negative : Bool) {decimal : Decimal} (plain : Plain decimal) :
    (ofDecimal negative decimal).WellFormed := by
  unfold ofDecimal
  dsimp only
  split
  · rw [Int.sub_add_cancel]
    exact wellFormed_positional negative plain
  · exact wellFormed_scientific ..

/-- The numeral of digits around a point denotes the decimal that they are taken
from. Zeros that fill up the digits change the decimal, but not the magnitude that
is nearest to it. -/
theorem magnitude?_positional (negative : Bool) (decimal : Decimal) :
    (positional negative (Nat.toDigits 10 decimal.digits)
      (decimal.exponent + (Nat.toDigits 10 decimal.digits).length)).decimal.magnitude? =
      decimal.magnitude? := by
  obtain ⟨number, exponent⟩ := decimal
  have value := digitsValue_toDigits number
  unfold positional
  split
  · rename_i small
    -- all digits stand behind the point
    have zeros : digitsValue ('0' :: (List.replicate
        (exponent + (Nat.toDigits 10 number).length).natAbs '0' ++ Nat.toDigits 10 number)) =
        number := by
      rw [← List.cons_append, ← List.replicate_succ, digitsValue_append, digitsValue_replicate,
        value, Nat.zero_mul, Nat.zero_add]
    have places : (0 : Int) - ((exponent + (Nat.toDigits 10 number).length).natAbs +
        (Nat.toDigits 10 number).length : Nat) = exponent := by
      dsimp only at small
      omega
    simp only [decimal, significand, power, List.singleton_append, zeros, List.length_append,
      List.length_replicate, places]
  · split
    · rename_i positive short
      dsimp only at positive short
      obtain ⟨zeros, rfl⟩ : ∃ zeros : Nat, exponent = zeros := ⟨exponent.toNat, by omega⟩
      -- all digits stand before the point, and a zero behind it
      have count : ((zeros : Int) + (Nat.toDigits 10 number).length).toNat -
          (Nat.toDigits 10 number).length = zeros := by omega
      have padded : digitsValue (Nat.toDigits 10 number ++ List.replicate zeros '0' ++ ['0']) =
          number * 10 ^ (zeros + 1) := by
        rw [List.append_assoc, ← List.replicate_succ', digitsValue_append, digitsValue_replicate,
          value, List.length_replicate, Nat.add_zero]
      have places : (0 : Int) - (1 : Nat) = (zeros : Int) - (zeros + 1 : Nat) := by omega
      simp only [decimal, significand, power, count, padded, List.length_singleton, places]
      exact Decimal.magnitude?_pad ..
    · rename_i positive long
      dsimp only at positive long
      have places : (0 : Int) - ((Nat.toDigits 10 number).length -
          (exponent + (Nat.toDigits 10 number).length).toNat : Nat) = exponent := by omega
      simp only [decimal, significand, power, List.take_append_drop, value, List.length_drop,
        places]

/-- A whole number is its size with its sign. -/
theorem signed_natAbs (power : Int) :
    (if decide (power < 0) = true then -(power.natAbs : Int) else power.natAbs) = power := by
  by_cases negative : power < 0
  · rw [if_pos (decide_eq_true negative)]
    omega
  · rw [if_neg (mt of_decide_eq_true negative)]
    omega

/-- The numeral of digits with a power of ten denotes the decimal that they are
taken from, without any zeros added. -/
theorem decimal_scientific (negative : Bool) (decimal : Decimal) :
    (scientific negative (Nat.toDigits 10 decimal.digits)
      (decimal.exponent + (Nat.toDigits 10 decimal.digits).length - 1)).decimal = decimal := by
  obtain ⟨number, exponent⟩ := decimal
  have value := digitsValue_toDigits number
  have nonempty : 0 < (Nat.toDigits 10 number).length :=
    List.length_pos_iff.mpr Nat.toDigits_ne_nil
  simp only [scientific, Numeral.decimal, significand, power, List.take_append_drop, value,
    digitsValue_toDigits, signed_natAbs, List.length_drop]
  congr 1
  omega

/-- The numeral of a decimal denotes it, up to zeros behind its digits. These do not
change which magnitude is nearest. -/
theorem magnitude?_ofDecimal (negative : Bool) (decimal : Decimal) :
    (ofDecimal negative decimal).decimal.magnitude? = decimal.magnitude? := by
  unfold ofDecimal
  dsimp only
  split
  · rw [Int.sub_add_cancel]
    exact magnitude?_positional negative decimal
  · rw [decimal_scientific]

/-- The numeral of a decimal has its sign, and a point or an exponent. So it is
never taken for an integer. -/
theorem fractional_ofDecimal (negative : Bool) (decimal : Decimal) :
    (ofDecimal negative decimal).negative = negative ∧
      ((ofDecimal negative decimal).fraction ≠ [] ∨
        (ofDecimal negative decimal).exponent ≠ none) := by
  unfold ofDecimal
  dsimp only
  split
  · unfold positional
    split
    · exact ⟨rfl, Or.inl (by simp)⟩
    · split
      · exact ⟨rfl, Or.inl (by simp)⟩
      · rename_i long
        exact ⟨rfl, Or.inl (by rw [Ne, List.drop_eq_nil_iff]; exact long)⟩
  · exact ⟨rfl, Or.inr (by simp [scientific])⟩

/-- The exponent of a numeral is the power of ten that a decimal is written with, if
it is written with any. It is far below the limit on exponents. -/
theorem power_ofDecimal (negative : Bool) (decimal : Decimal) :
    (ofDecimal negative decimal).power = 0 ∨ (ofDecimal negative decimal).power =
      decimal.exponent + (Nat.toDigits 10 decimal.digits).length - 1 := by
  unfold ofDecimal
  dsimp only
  split
  · left
    unfold positional
    repeat' split
    all_goals rfl
  · right
    simp only [scientific, power, digitsValue_toDigits, signed_natAbs]

/-- The decimal that is shown for a magnitude has no power of ten if it is zero,
since the shortest decimal of zero is a single digit. -/
theorem plain_shortest (x : Magnitude) : Plain x.shortest := by
  intro nothing
  have read := x.magnitude?_shortest
  rw [Decimal.magnitude?, if_pos nothing] at read
  obtain rfl := Option.some.inj read
  rfl

/-- The numeral that an integer is written as, without point and exponent. -/
def ofInt (whole : Int) : Numeral :=
  ⟨whole < 0, Nat.toDigits 10 whole.natAbs, [], none⟩

/-- An integer is written as its numeral, with a sign if it is negative. -/
theorem chars_ofInt (whole : Int) : (ofInt whole).chars = wholeChars whole := by
  unfold wholeChars
  split <;> simp_all [ofInt, chars, fractionText, exponentText]

/-- An integer is written as a numeral. It has a zero in front only if it is zero.
-/
theorem wellFormed_ofInt (whole : Int) : (ofInt whole).WellFormed where
  whole_ne := Nat.toDigits_ne_nil
  whole := isDigit_toDigits _
  leading _ leading := (toDigits_leading leading).1
  fraction := nofun
  exponent := nofun

/-- The numeral of an integer is read as it. It fits one of the two words that
integers are read into, so it is not read as a double. -/
theorem number_ofInt (whole : WideInt) (after : List Char) :
    (ofInt whole.value).number after = .ok (.integer whole) := by
  have digits : (ofInt whole.value).significand = whole.value.natAbs := by
    simp [ofInt, significand, digitsValue_toDigits]
  have notZero : ¬((ofInt whole.value).negative = true ∧ (ofInt whole.value).significand = 0) := by
    rw [digits]
    simp only [ofInt, decide_eq_true_eq]
    omega
  have value : (if (ofInt whole.value).negative = true then
      -((ofInt whole.value).significand : Int) else (ofInt whole.value).significand) =
      whole.value := by
    rw [digits]
    simp only [ofInt, decide_eq_true_eq]
    split <;> omega
  have wide : WideInt.ofInt? whole.value = some whole := dif_pos whole.bounded
  have fraction : (ofInt whole.value).fraction = [] := rfl
  have exponent : (ofInt whole.value).exponent = none := rfl
  simp only [number, fraction, exponent, notZero, if_false, value, wide]

end Numeral

end CloudDiagram.Json
