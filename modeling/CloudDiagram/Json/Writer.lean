import CloudDiagram.Json.Value
import CloudDiagram.Numeric.Shortest

/-!
# Writing JSON text

Text is compact: no blank stands outside a string. A string escapes the quote,
the backslash and the controls below the space, and keeps every other character
as it is. An integer is written in full; a double is written with the fewest
digits that read back, always with a fraction or an exponent, so that it is not
taken for an integer again.
-/

namespace CloudDiagram.Json

open Numeric

/-- One character inside a string. Controls without a letter of their own are
written by number, in four hexadecimal digits. -/
def escapedChar (c : Char) : List Char :=
  if c = '"' then ['\\', '"']
  else if c = '\\' then ['\\', '\\']
  else if c = '\x08' then ['\\', 'b']
  else if c = '\t' then ['\\', 't']
  else if c = '\n' then ['\\', 'n']
  else if c = '\x0c' then ['\\', 'f']
  else if c = '\r' then ['\\', 'r']
  else if c.toNat < 0x20 then
    ['\\', 'u', '0', '0', Nat.digitChar (c.toNat / 16), Nat.digitChar (c.toNat % 16)]
  else [c]

/-- A string between its quotes, with each character escaped by itself. What stands
before or behind a character does not matter for how it is written. -/
def quotedChars (text : String) : List Char :=
  '"' :: (text.toList.flatMap escapedChar ++ ['"'])

/-- The digits of a whole number, with a minus sign if it is negative and no other
sign. -/
def wholeChars (whole : Int) : List Char :=
  if whole < 0 then '-' :: Nat.toDigits 10 whole.natAbs else Nat.toDigits 10 whole.natAbs

/-- The first digit of a double stands at one of these powers of ten, the first
included and the last not, or the double is written with an exponent. -/
def positionalFrom : Int := -5

/-- The power of ten from which on a double is written with an exponent. Doubles
below it have a point among or behind their digits. -/
def positionalBelow : Int := 16

/-- Digits around a point: `integral` of them stand before it. A missing digit on
either side is a zero, and each side has at least one. -/
def positionalChars (digits : List Char) (integral : Int) : List Char :=
  if integral ≤ 0 then
    ['0', '.'] ++ List.replicate integral.natAbs '0' ++ digits
  else if digits.length ≤ integral.toNat then
    digits ++ List.replicate (integral.toNat - digits.length) '0' ++ ['.', '0']
  else
    digits.take integral.toNat ++ ['.'] ++ digits.drop integral.toNat

/-- Digits with a point after the first one, if there are more, and the power of ten
of the first digit with its sign. -/
def exponentChars (digits : List Char) (power : Int) : List Char :=
  digits.take 1 ++ (if digits.length ≤ 1 then [] else '.' :: digits.drop 1) ++
    ['e', if power < 0 then '-' else '+'] ++ Nat.toDigits 10 power.natAbs

/-- A decimal as a double is written, with a point or an exponent in any case. Which
of the two it is depends on the place of the first digit only. -/
def decimalChars (decimal : Decimal) : List Char :=
  let digits := Nat.toDigits 10 decimal.digits
  let power := decimal.exponent + digits.length - 1
  if positionalFrom ≤ power ∧ power < positionalBelow then positionalChars digits (power + 1)
  else exponentChars digits power

/-- A finite double with its sign, which zero shows too. The digits are those of the
shortest decimal that reads back. -/
def finiteChars (value : FiniteDouble) : List Char :=
  (if value.negative then ['-'] else []) ++ decimalChars value.magnitude.shortest

/-- A number as text. An integer has neither point nor exponent, and a double has
one of the two, so they are told apart when they are read. -/
def Number.chars : Number → List Char
  | .integer value => wholeChars value.value
  | .double value => finiteChars value

namespace Value

mutual

/-- A value as text. It is a list of characters, since readers go through it one by
one. -/
def chars : Value → List Char
  | null => ['n', 'u', 'l', 'l']
  | bool true => ['t', 'r', 'u', 'e']
  | bool false => ['f', 'a', 'l', 's', 'e']
  | number value => value.chars
  | string text => quotedChars text
  | array items => '[' :: (itemsChars items ++ [']'])
  | object members => '{' :: (membersChars members ++ ['}'])

/-- Items with commas between them. There is no comma behind the last one, as
readers refuse it. -/
def itemsChars : List Value → List Char
  | [] => []
  | [item] => item.chars
  | item :: next :: rest => item.chars ++ ',' :: itemsChars (next :: rest)

/-- Members with commas between them; a colon stands after each key. They are
written in the order in which they are held. -/
def membersChars : List (String × Value) → List Char
  | [] => []
  | [(key, value)] => quotedChars key ++ ':' :: value.chars
  | (key, value) :: next :: rest =>
    quotedChars key ++ ':' :: (value.chars ++ ',' :: membersChars (next :: rest))

end

/-- The JSON text of a value, on one line. Equal values have equal texts. -/
def text (value : Value) : String := String.ofList value.chars

end Value

end CloudDiagram.Json
