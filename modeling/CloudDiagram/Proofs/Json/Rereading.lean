import CloudDiagram.Proofs.Json.Doubles
import CloudDiagram.Proofs.Json.Numbers
import CloudDiagram.Proofs.Numeric.Scaling

/-!
# Doubles that are read again

The text of a double denotes a decimal that is nearest to this double, but reading it takes
more than one rounding. So the text of every double is read as some double, with the same sign
and never as too large a number, and for a few doubles it is a neighbour: `12.100000000000001`
is read as `12.1`. A double reads back if this does not happen. Whatever is written with fewer
than 54 bits of digits and a small power of ten reads back.

Integers are always read as they were written.
-/

namespace CloudDiagram.Json

open Numeric

namespace Numeral

/-- Taking one digit leaves fewer digits to place behind a longer number. The whole that they
come to does not change. -/
theorem shift_digit (number : Nat) (digit : Char) (digits : List Char) :
    number * 10 ^ (digit :: digits).length + digitsValue (digit :: digits) =
      (10 * number + digitValue digit) * 10 ^ digits.length + digitsValue digits := by
  have first : digitsValue [digit] = digitValue digit := by simp [digitsValue]
  rw [← List.singleton_append, digitsValue_append, first, List.length_append,
    List.length_singleton, Nat.add_comm 1, Nat.pow_succ]
  ring

/-- Digits that fit a word are all taken. If all together fit, so do the first ones,
and no step of the recursion stops early. -/
theorem absorb_of_fits {number : Nat} {digits : List Char}
    (fits : number * 10 ^ digits.length + digitsValue digits ≤ digitsLimit) :
    absorb number digits = (number * 10 ^ digits.length + digitsValue digits, []) := by
  induction digits generalizing number with
  | nil => simp [absorb, digitsValue]
  | cons digit digits inductionHypothesis =>
    rw [shift_digit] at fits ⊢
    have next : 10 * number + digitValue digit ≤ digitsLimit := by
      have power : 0 < 10 ^ digits.length := Nat.pow_pos (by decide)
      have shifted := Nat.le_mul_of_pos_right (10 * number + digitValue digit) power
      omega
    rw [absorb, if_pos next, inductionHypothesis fits]

/-- The digits that are taken are the first ones, and together they still fit a
word. The others are dropped, whatever they are. -/
theorem exists_absorb {number : Nat} (fits : number ≤ digitsLimit) (digits : List Char) :
    ∃ taken dropped, digits = taken ++ dropped ∧
      absorb number digits = (number * 10 ^ taken.length + digitsValue taken, dropped) ∧
      number * 10 ^ taken.length + digitsValue taken ≤ digitsLimit := by
  induction digits generalizing number with
  | nil => exact ⟨[], [], rfl, by simp [absorb, digitsValue], by simpa [digitsValue]⟩
  | cons digit digits inductionHypothesis =>
    by_cases next : 10 * number + digitValue digit ≤ digitsLimit
    · obtain ⟨taken, dropped, rfl, absorbed, within⟩ := inductionHypothesis next
      refine ⟨digit :: taken, dropped, rfl, ?_, ?_⟩
      · rw [absorb, if_pos next, absorbed, shift_digit]
      · rwa [shift_digit]
    · exact ⟨[], digit :: digits, rfl, by simp [absorb, next, digitsValue], by simpa [digitsValue]⟩

/-- The digits before the point are all taken if they fit a word, starting from
nothing. -/
theorem absorb_whole {digits : List Char} (short : digitsValue digits ≤ digitsLimit) :
    absorb 0 digits = (digitsValue digits, []) := by
  have fits : 0 * 10 ^ digits.length + digitsValue digits ≤ digitsLimit := by
    rwa [Nat.zero_mul, Nat.zero_add]
  rw [absorb_of_fits fits, Nat.zero_mul, Nat.zero_add]

/-- All digits of a numeral are kept if they fit a word. What is then scaled is the
decimal that the numeral denotes. -/
theorem kept_of_fits {numeral : Numeral} (fits : numeral.significand ≤ digitsLimit) :
    numeral.kept numeral.power = numeral.decimal := by
  rw [significand, digitsValue_append] at fits
  have short : digitsValue numeral.whole ≤ digitsLimit := by
    have power : 0 < 10 ^ numeral.fraction.length := Nat.pow_pos (by decide)
    have shifted := Nat.le_mul_of_pos_right (digitsValue numeral.whole) power
    omega
  simp [kept, absorb_whole short, absorb_of_fits fits, decimal, significand, digitsValue_append]

/-- The digits that are kept of a numeral are its first ones, if those before the point fit a
word. The power of ten counts the kept ones only. -/
theorem exists_kept {numeral : Numeral} (short : digitsValue numeral.whole ≤ digitsLimit) :
    ∃ digits places : Nat, digits ≤ digitsLimit ∧ digits * 10 ^ places ≤ numeral.significand ∧
      numeral.kept numeral.power = ⟨digits, numeral.decimal.exponent + places⟩ := by
  obtain ⟨taken, dropped, fraction, absorbed, within⟩ := exists_absorb short numeral.fraction
  refine ⟨_, dropped.length, within, ?_, ?_⟩
  · rw [significand, fraction, digitsValue_append, digitsValue_append, List.length_append,
      Nat.pow_add, Nat.add_mul, Nat.mul_assoc]
    omega
  · simp only [kept, absorb_whole short, absorbed]
    simp only [decimal, fraction, List.length_append, List.length_nil]
    congr 1
    omega

/-- No more digits than a word has room for stand before the point of a written
double. From a certain size on doubles are written with an exponent and one digit
before the point. -/
theorem length_whole_ofDecimal (negative : Bool) (decimal : Decimal) :
    (ofDecimal negative decimal).whole.length ≤ 16 := by
  have below : positionalBelow = 16 := rfl
  unfold ofDecimal
  dsimp only
  split
  · rename_i inRange
    unfold positional
    split
    · exact Nat.le_of_ble_eq_true rfl
    · split
      · rename_i positive short
        rw [List.length_append, List.length_replicate]
        omega
      · rw [List.length_take]
        omega
  · rw [scientific, List.length_take]
    omega

/-- What stands before the point of a written double fits a word, so digits are
dropped only behind the point. -/
theorem whole_ofDecimal_le (negative : Bool) {decimal : Decimal} (plain : Plain decimal) :
    digitsValue (ofDecimal negative decimal).whole ≤ digitsLimit := by
  have digits := digitsValue_lt (wellFormed_ofDecimal negative plain).whole
  have power : 10 ^ (ofDecimal negative decimal).whole.length ≤ 10 ^ 16 :=
    Nat.pow_le_pow_right (by decide) (length_whole_ofDecimal negative decimal)
  exact Nat.le_trans (Nat.le_of_lt (Nat.lt_of_lt_of_le digits power)) (by decide)

/-- A numeral with a point or an exponent is read as the double that its kept digits
are scaled to. Neither the sign nor an exponent within the limit leads elsewhere. -/
theorem number_of_kept {numeral : Numeral} {value : FiniteDouble} (after : List Char)
    (fractional : numeral.fraction ≠ [] ∨ numeral.exponent ≠ none)
    (inRange : numeral.power.natAbs ≤ exponentLimit)
    (scaled : FiniteDouble.ofScaled? numeral.negative (numeral.kept numeral.power) = some value) :
    numeral.number after = .ok (.double value) := by
  obtain ⟨negative, whole, fraction, exponent⟩ := numeral
  cases exponent with
  | none =>
    have point : fraction ≠ [] := fractional.resolve_right (· rfl)
    obtain ⟨digit, digits, rfl⟩ := List.exists_cons_of_ne_nil point
    simp only [power] at scaled
    simp only [number, scaled]
  | some exponent =>
    obtain ⟨down, digits⟩ := exponent
    have small : (digitsValue digits : Int) ≤ (exponentLimit : Int) := by
      cases down <;> simpa [power] using inRange
    simp only [power] at scaled
    simp only [number, small, if_true, scaled]

end Numeral

end CloudDiagram.Json

namespace CloudDiagram.Numeric.FiniteDouble

open Json

/-- The numeral that a double is written as. It denotes the shortest decimal that is
nearest to this double. -/
def numeral (x : FiniteDouble) : Numeral := .ofDecimal x.negative x.magnitude.shortest

/-- The decimals that are shown for the two largest magnitudes. They are the only
ones that come too near to the bound for an overflow to be excluded by an estimate.
-/
theorem shortest_largest :
    (Magnitude.ofParts? 9007199254740990 2045).map Magnitude.shortest =
        some ⟨17976931348623155, 292⟩ ∧
      (Magnitude.ofParts? 9007199254740991 2045).map Magnitude.shortest =
        some ⟨17976931348623157, 292⟩ := by
  decide +kernel

/-- These two decimals are scaled without overflow, whatever the sign they are written with. The
bound that shows this of all others leaves them out, so they are tried. -/
theorem isSome_scaled?_largest : ∀ negative,
    ∀ decimal ∈ [(⟨17976931348623155, 292⟩ : Decimal), ⟨17976931348623157, 292⟩],
      ((Numeral.ofDecimal negative decimal).kept
        (Numeral.ofDecimal negative decimal).power).scaled?.isSome = true := by
  decide +kernel

/-- The decimal that a numeral of a double denotes is read as the double's magnitude, when it is
rounded once. -/
theorem magnitude?_numeral (x : FiniteDouble) : x.numeral.decimal.magnitude? = some x.magnitude :=
  (Numeral.magnitude?_ofDecimal ..).trans x.magnitude.magnitude?_shortest

/-- The digits that are kept of a written double are scaled without overflow.
Dropping digits makes a decimal smaller, and up to the two largest magnitudes an
estimate of the rounding error suffices. -/
theorem exists_scaled?_kept (x : FiniteDouble) :
    ∃ magnitude, (x.numeral.kept x.numeral.power).scaled? = some magnitude := by
  by_cases apart : x.magnitude.scale = 2045 → x.magnitude.mantissa < 9007199254740990
  · obtain ⟨digits, places, word, first, kept⟩ := Numeral.exists_kept
      (Numeral.whole_ofDecimal_le x.negative (Numeral.plain_shortest x.magnitude))
    have read : Decimal.magnitude? ⟨x.numeral.significand,
        x.numeral.decimal.exponent + places - places⟩ = some x.magnitude := by
      rw [Int.add_sub_cancel]
      exact x.magnitude?_numeral
    obtain ⟨magnitude, scaled⟩ := Decimal.exists_scaled?_of_kept word first read apart
    exact ⟨magnitude, (congrArg Decimal.scaled? kept).trans scaled⟩
  · obtain ⟨negative, magnitude⟩ := x
    -- the estimate is too coarse for the two largest, whose digits are known
    obtain ⟨last, large⟩ : magnitude.scale = 2045 ∧ ¬magnitude.mantissa < 9007199254740990 :=
      Classical.not_imp.mp apart
    have below : magnitude.mantissa < 9007199254740992 := magnitude.canonical.1
    have self := magnitude.ofParts?_self
    rw [last] at self
    refine Option.isSome_iff_exists.mp (isSome_scaled?_largest negative _ ?_)
    obtain ⟨lower, upper⟩ := shortest_largest
    have either : magnitude.mantissa = 9007199254740990 ∨
        magnitude.mantissa = 9007199254740991 := by omega
    rcases either with equal | equal
    · rw [equal] at self
      rw [self] at lower
      simp [Option.some.inj lower]
    · rw [equal] at self
      rw [self] at upper
      simp [Option.some.inj upper]

/-- The text of a double is read as the double that its kept digits are scaled to,
with its sign, and nothing behind it is read. -/
theorem scanNumber_finiteChars {x : FiniteDouble} {magnitude : Magnitude}
    (scaled : (x.numeral.kept x.numeral.power).scaled? = some magnitude) {rest : List Char}
    (ends : Numeral.Ends rest) :
    scanNumber (finiteChars x ++ rest) = .ok (.double ⟨x.negative, magnitude⟩, rest) := by
  obtain ⟨sign, fractional⟩ : x.numeral.negative = x.negative ∧ _ :=
    Numeral.fractional_ofDecimal x.negative x.magnitude.shortest
  obtain ⟨low, high, length⟩ := x.magnitude.shortest_bounds
  have inRange : x.numeral.power.natAbs ≤ Numeral.exponentLimit := by
    unfold Numeral.exponentLimit numeral
    rcases Numeral.power_ofDecimal x.negative x.magnitude.shortest with none | some <;> omega
  have read : x.numeral.number rest = .ok (.double ⟨x.numeral.negative, magnitude⟩) :=
    Numeral.number_of_kept rest fractional inRange (congrArg (Option.map _) scaled)
  have scanned := Numeral.scan_chars
    (Numeral.wellFormed_ofDecimal x.negative (Numeral.plain_shortest x.magnitude))
    .unfinishedValue ends
  rw [Numeral.chars_ofDecimal] at scanned
  rw [scanNumber, finiteChars, scanned]
  change (x.numeral.number rest >>= fun number => pure (number, rest)) = _
  rw [read, sign]
  rfl

/-- The double that the text of a double is read as. Reading never fails, so the
second case is there for the definition only. -/
def reread (x : FiniteDouble) : FiniteDouble :=
  match scanNumber (finiteChars x) with
  | .ok (number, _) => number.toFinite
  | .error _ => x

/-- The double is read from its text as itself. It can be decided for any double by
reading its text. -/
def ReadsBack (x : FiniteDouble) : Prop := x.reread = x

instance : DecidablePred ReadsBack := fun x => inferInstanceAs (Decidable (x.reread = x))

/-- Rereading scales the digits that are kept of the text, and nothing else of the
text matters but its sign. -/
theorem reread_of_scaled {x : FiniteDouble} {magnitude : Magnitude}
    (scaled : (x.numeral.kept x.numeral.power).scaled? = some magnitude) :
    x.reread = ⟨x.negative, magnitude⟩ := by
  have read := scanNumber_finiteChars scaled (show Numeral.Ends [] from nofun)
  rw [List.append_nil] at read
  rw [reread, read]
  rfl

/-- A double reads back if its text has few digits and they are scaled by a small power of ten:
only the last step rounds then, and it finds the nearest double. Numbers that people type are of
this kind. -/
theorem readsBack_of_few {x : FiniteDouble} (few : x.numeral.significand < 9007199254740992)
    (small : x.numeral.decimal.exponent.natAbs ≤ Decimal.exactPower) : x.ReadsBack := by
  have fits : x.numeral.significand ≤ Numeral.digitsLimit :=
    Nat.le_trans (Nat.le_of_lt few) (by decide)
  have scaled : (x.numeral.kept x.numeral.power).scaled? = some x.magnitude := by
    rw [Numeral.kept_of_fits fits, Decimal.scaled?_eq_magnitude? few small, x.magnitude?_numeral]
  exact reread_of_scaled scaled

/-- Not all doubles read back. The digits of this one have 54 bits, one more than a
double has room for, so they are rounded before they are divided. -/
example : (ofDecimal? false ⟨12100000000000001, -15⟩).map reread = ofDecimal? false ⟨121, -1⟩ ∧
    ofDecimal? false ⟨12100000000000001, -15⟩ ≠ ofDecimal? false ⟨121, -1⟩ := by
  decide +kernel

end CloudDiagram.Numeric.FiniteDouble

namespace CloudDiagram.Json

open Numeric

/-- The number that the text of a number is read as. Integers are taken digit by
digit and are not rounded. -/
def Number.reread : Number → Number
  | .integer whole => .integer whole
  | .double value => .double value.reread

/-- A number that is written is read, and nothing behind it, unless that would go on with it. -/
theorem scanNumber_chars (number : Number) {rest : List Char} (ends : Numeral.Ends rest) :
    scanNumber (number.chars ++ rest) = .ok (number.reread, rest) := by
  cases number with
  | integer whole =>
    have scanned := Numeral.scan_chars (Numeral.wellFormed_ofInt whole.value) .unfinishedValue ends
    rw [Numeral.chars_ofInt] at scanned
    simp only [scanNumber, Number.chars, scanned, Numeral.number_ofInt, bind, Except.bind, pure,
      Except.pure, Number.reread]
  | double value =>
    obtain ⟨magnitude, scaled⟩ := value.exists_scaled?_kept
    rw [Number.chars, FiniteDouble.scanNumber_finiteChars scaled ends, Number.reread,
      FiniteDouble.reread_of_scaled scaled]

/-- The value that the text of a value is read as: every double in it is read again.
Texts, keys and integers are read as they were written. -/
def Value.reread (value : Value) : Value := value.mapDoubles FiniteDouble.reread

/-- A value is read as it was written exactly if each of its doubles is, however
deep it stands. -/
theorem Value.reread_eq_self_iff {value : Value} :
    value.reread = value ↔ ∀ x ∈ value.doubles, x.ReadsBack :=
  value.mapDoubles_eq_self_iff FiniteDouble.reread

end CloudDiagram.Json
