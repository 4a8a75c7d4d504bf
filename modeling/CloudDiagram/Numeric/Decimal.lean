/-!
# Decimal quantities

A decimal is a whole number of digits placed by a power of ten. It is what a
numeral in a text denotes and what a written number shows; nothing is rounded
here. Two decimals may denote one quantity, since `10 · 10^0` is `1 · 10^1`.
-/

namespace CloudDiagram.Numeric

/-- The quantity `digits · 10 ^ exponent`. It is exact, and a sign is kept elsewhere
if there is one. -/
structure Decimal where
  digits : Nat
  exponent : Int
deriving DecidableEq, Repr

/-- The value of a decimal digit; a character that is none counts as zero, which is
never asked of the digits of a numeral. -/
def digitValue (digit : Char) : Nat := if digit.isDigit then digit.toNat - '0'.toNat else 0

/-- The number a run of decimal digits spells, most significant digit first. No
digits spell zero, and leading zeros do not count. -/
def digitsValue (digits : List Char) : Nat :=
  digits.foldl (fun value digit => 10 * value + digitValue digit) 0

/-- Reading one more digit shifts the number read before it by one place. Inductions
over digits take the last one off by it. -/
theorem digitsValue_append_singleton (digits : List Char) (last : Char) :
    digitsValue (digits ++ [last]) = 10 * digitsValue digits + digitValue last := by
  simp [digitsValue]

end CloudDiagram.Numeric
