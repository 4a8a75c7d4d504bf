import CloudDiagram.Json.Fault
import CloudDiagram.Numeric.Scaling

/-!
# Words, numbers and strings

Each reader takes the text from its first character on and gives what it read
with the text after it. Blank space between tokens is skipped by whoever reads a
token. A number keeps its digits until the whole numeral has been read, because
a numeral may be well formed and yet too large.
-/

namespace CloudDiagram.Json

open Numeric

/-- The four characters that may stand between tokens. Other blanks, as they are
known to text elsewhere, are faults. -/
def isSpace (c : Char) : Bool := c = ' ' || c = '\t' || c = '\n' || c = '\r'

/-- The text from its first token on. It is called before each token, so space is
allowed at the same places everywhere. -/
def skipSpace (text : List Char) : List Char := text.dropWhile isSpace

/-- A text that starts with a token is not shortened, so readers agree on where a
token starts. -/
theorem skipSpace_cons {c : Char} {rest : List Char} (token : isSpace c = false) :
    skipSpace (c :: rest) = c :: rest := by
  simp [skipSpace, token]

/-- The rest of a word after its first letter, which has been looked at to tell that
it is a word. What stands behind the word is not looked at. -/
def wordTail : List Char → List Char → Except Fault (List Char)
  | [], text => .ok text
  | _ :: _, [] => .error (.before .unfinishedValue [])
  | letter :: letters, c :: rest =>
    if c = letter then wordTail letters rest else .error (.onNext .unknownWord (c :: rest))

/-- The letters of a word are read, and nothing after them, whatever it is. -/
theorem wordTail_append (letters rest : List Char) :
    wordTail letters (letters ++ rest) = .ok rest := by
  induction letters with
  | nil => rfl
  | cons letter letters inductionHypothesis => simp [wordTail, inductionHypothesis]

/-- The digits of a number as they are written. A number without a point has no
fraction digits. That an exponent was written is kept, also if it is zero, since it
makes the number a double. -/
structure Numeral where
  negative : Bool
  whole : List Char
  fraction : List Char
  exponent : Option (Bool × List Char)
deriving DecidableEq, Repr

namespace Numeral

/-- The digits before the point: a zero alone, or digits that start with none. A
digit behind a first zero is a fault. -/
def scanWhole (atEnd : Cause) : List Char → Except Fault (List Char × List Char)
  | [] => .error (.before atEnd [])
  | c :: rest =>
    if c = '0' then
      match rest with
      | [] => .ok (['0'], [])
      | next :: _ =>
        if next.isDigit then .error (.onNext .badNumber rest) else .ok (['0'], rest)
    else if c.isDigit then
      .ok (c :: rest.takeWhile Char.isDigit, rest.dropWhile Char.isDigit)
    else .error (.onNext .badNumber (c :: rest))

/-- The digits after a point; there is at least one. No point, no digits: a text
without a point is left as it is. -/
def scanFraction (atEnd : Cause) (text : List Char) : Except Fault (List Char × List Char) :=
  match text with
  | '.' :: rest =>
    if rest.takeWhile Char.isDigit = [] then
      .error (if rest = [] then .before atEnd [] else .onNext .badNumber rest)
    else .ok (rest.takeWhile Char.isDigit, rest.dropWhile Char.isDigit)
  | _ => .ok ([], text)

/-- The sign of an exponent; none counts as plus. Only the exponent of a number may
have a plus. -/
def scanSign : List Char → Bool × List Char
  | '-' :: rest => (true, rest)
  | '+' :: rest => (false, rest)
  | text => (false, text)

/-- The exponent, if there is one: whether it is negative, and at least one digit.
It may have any number of digits, and leading zeros. -/
def scanExponent (atEnd : Cause) (text : List Char) :
    Except Fault (Option (Bool × List Char) × List Char) :=
  match text with
  | [] => .ok (none, [])
  | mark :: afterMark =>
    if mark = 'e' ∨ mark = 'E' then
      let (negative, rest) := scanSign afterMark
      if rest.takeWhile Char.isDigit = [] then
        .error (if rest = [] then .before atEnd [] else .onNext .badNumber rest)
      else .ok (some (negative, rest.takeWhile Char.isDigit), rest.dropWhile Char.isDigit)
    else .ok (none, text)

/-- A numeral, with the cause to name when the text ends inside it. The cause
differs, as a number that is passed over is not read to its value. -/
def scan (atEnd : Cause) (text : List Char) : Except Fault (Numeral × List Char) := do
  let (negative, text) := match text with
    | '-' :: rest => (true, rest)
    | _ => (false, text)
  let (whole, text) ← scanWhole atEnd text
  let (fraction, text) ← scanFraction atEnd text
  let (exponent, text) ← scanExponent atEnd text
  return (⟨negative, whole, fraction, exponent⟩, text)

/-- The whole number spelled by all digits, the point left out. It has no bound, so
what fits a word is decided afterwards. -/
def significand (numeral : Numeral) : Nat :=
  digitsValue (numeral.whole ++ numeral.fraction)

/-- The largest exponent that is read as a number. It is the largest one of 32 bits
with a sign. -/
def exponentLimit : Nat := 2147483647

/-- How many digits of an exponent are read until it is past the limit. The fault is
reported there, and not behind the last digit. -/
def digitsPastLimit (digits : List Char) : Nat :=
  ((List.range digits.length).find? fun count =>
    exponentLimit < digitsValue (digits.take (count + 1))).elim digits.length (· + 1)

/-- The largest number that the digits of a double are taken into: a word of 64
bits, which holds any nineteen digits. -/
def digitsLimit : Nat := 18446744073709551615

/-- Takes digits into a number until the next one would not fit any more. Gives the
number and the digits that were not taken, whose values are lost. -/
def absorb : Nat → List Char → Nat × List Char
  | number, [] => (number, [])
  | number, digit :: digits =>
    if 10 * number + digitValue digit ≤ digitsLimit then
      absorb (10 * number + digitValue digit) digits
    else (number, digit :: digits)

/-- What is kept of the digits when the numeral is read as a double with a power of ten. A
digit before the point that is not kept still counts a place. The digits behind the point are
tried anew, even if one before the point did not fit. -/
def kept (numeral : Numeral) (power : Int) : Decimal :=
  let (whole, dropped) := absorb 0 numeral.whole
  let (digits, ignored) := absorb whole numeral.fraction
  ⟨digits, power + dropped.length - (numeral.fraction.length - ignored.length : Nat)⟩

/-- The number that a numeral is read as; `after` is the text behind it.

A numeral without point and exponent is an integer, if it fits; negative zero is a double, for
the sign to be kept. Any other is a double: the digits that are kept, scaled by their power of
ten. This is not always the double nearest to the numeral. An exponent past the limit settles
the number at the digit that passes the limit: it is zero, or too large. -/
def number (numeral : Numeral) (after : List Char) : Except Fault Number :=
  let double (power : Int) : Except Fault Number :=
    match FiniteDouble.ofScaled? numeral.negative (numeral.kept power) with
    | some value => .ok (.double value)
    | none => .error (.before .numberTooLarge after)
  match numeral.fraction, numeral.exponent with
  | [], none =>
    let value : Int := if numeral.negative then -numeral.significand else numeral.significand
    if numeral.negative ∧ numeral.significand = 0 then double 0
    else
      match WideInt.ofInt? value with
      | some value => .ok (.integer value)
      | none => double 0
  | _, none => double 0
  | _, some (negative, digits) =>
    let power : Int := digitsValue digits
    if power ≤ exponentLimit then double (if negative then -power else power)
    else if negative ∨ numeral.significand = 0 then .ok (.double ⟨numeral.negative, .zero⟩)
    else .error (.before .numberTooLarge (digits.drop (digitsPastLimit digits) ++ after))

end Numeral

/-- A number, from its sign or its first digit on. Its form is checked as a whole
before its value is asked for. -/
def scanNumber (text : List Char) : Except Fault (Number × List Char) := do
  let (numeral, rest) ← Numeral.scan .unfinishedValue text
  let number ← numeral.number rest
  return (number, rest)

/-- The value of a hexadecimal digit. Letters count in either case, and nothing else
does. -/
def hexDigit? (c : Char) : Option Nat :=
  if c.isDigit then some (c.toNat - '0'.toNat)
  else if 'a' ≤ c ∧ c ≤ 'f' then some (c.toNat - 'a'.toNat + 10)
  else if 'A' ≤ c ∧ c ≤ 'F' then some (c.toNat - 'A'.toNat + 10)
  else none

/-- Four hexadecimal digits. Anything else in the next four bytes is a fault after
these bytes; fewer bytes are an unfinished string. -/
def scanHex (text : List Char) : Except Fault (Nat × List Char) :=
  let refused : Except Fault (Nat × List Char) :=
    if Text.byteCount (text.take 4) < 4 then .error (.before .unfinishedString [])
    else .error ⟨.badEscape, text, 4⟩
  match text with
  | a :: b :: c :: d :: rest =>
    match hexDigit? a, hexDigit? b, hexDigit? c, hexDigit? d with
    | some a, some b, some c, some d => .ok (((a * 16 + b) * 16 + c) * 16 + d, rest)
    | _, _, _, _ => refused
  | _ => refused

/-- What stands after a backslash: a character by its letter, or a 16-bit unit. A
unit may be half a character, so it is not made one yet. -/
inductive Escape where
  | char (c : Char)
  | unit (code : Nat)
deriving DecidableEq, Repr

/-- The character that a letter after a backslash stands for. A slash may be
escaped, although it need not be. -/
def escapeLetter? (letter : Char) : Option Char :=
  match letter with
  | '"' => some '"'
  | '\\' => some '\\'
  | '/' => some '/'
  | 'b' => some '\x08'
  | 'f' => some '\x0c'
  | 'n' => some '\n'
  | 'r' => some '\r'
  | 't' => some '\t'
  | _ => none

/-- An escape, from behind its backslash. Whether a unit is a character or half a
pair is not looked at here. -/
def scanEscape : List Char → Except Fault (Escape × List Char)
  | [] => .error (.before .unfinishedString [])
  | letter :: rest =>
    if letter = 'u' then (scanHex rest).map fun (code, rest) => (.unit code, rest)
    else
      match escapeLetter? letter with
      | some c => .ok (.char c, rest)
      | none => .error (.onNext .badEscape (letter :: rest))

/-- Units that open a surrogate pair. None of them is a character of its own. -/
def isHighSurrogate (code : Nat) : Bool := 0xd800 ≤ code && code ≤ 0xdbff

/-- Units that close a surrogate pair. None of them is a character of its own. -/
def isLowSurrogate (code : Nat) : Bool := 0xdc00 ≤ code && code ≤ 0xdfff

/-- The character of a surrogate pair: ten bits from each of the two units, above
the characters that have a unit of their own. -/
def pairedChar (high low : Nat) : Char :=
  Char.ofNat (0x10000 + (high - 0xd800) * 0x400 + (low - 0xdc00))

/-- The unit that closes a pair, from behind the one that opened it. It has to be an
escape as well, and follow at once. -/
def scanLowSurrogate : List Char → Except Fault (Nat × List Char)
  | [] => .error (.before .unfinishedString [])
  | '\\' :: [] => .error (.before .unfinishedString [])
  | '\\' :: mark :: rest =>
    if mark = 'u' then do
      let (code, rest) ← scanHex rest
      if isLowSurrogate code then return (code, rest)
      else throw (.before .loneSurrogate rest)
    else .error (.onNext .halfPair (mark :: rest))
  | c :: rest => .error (.onNext .halfPair (c :: rest))

/-- The character of an escape. A unit that opens a pair takes the next escape too,
and one that closes a pair cannot come first. -/
def resolveEscape (escape : Escape) (rest : List Char) : Except Fault (Char × List Char) :=
  match escape with
  | .char c => .ok (c, rest)
  | .unit code =>
    if isLowSurrogate code then .error (.before .loneSurrogate rest)
    else if isHighSurrogate code then do
      let (low, rest) ← scanLowSurrogate rest
      return (pairedChar code low, rest)
    else .ok (Char.ofNat code, rest)

/-- The rest of a string after its opening quote. The first argument bounds the
number of characters, and the length of the text is enough. -/
def stringTail : Nat → List Char → Except Fault (List Char × List Char)
  | 0, _ | _, [] => .error (.before .unfinishedString [])
  | bound + 1, c :: rest =>
    if c = '"' then .ok ([], rest)
    else if c = '\\' then do
      let (escape, rest) ← scanEscape rest
      let (c, rest) ← resolveEscape escape rest
      let (more, rest) ← stringTail bound rest
      return (c :: more, rest)
    else if c.toNat < 0x20 then .error (.onNext .controlCharacter (c :: rest))
    else do
      let (more, rest) ← stringTail bound rest
      return (c :: more, rest)

/-- A string, from behind its opening quote. Controls may not stand in it as they
are, and every other character may. -/
def scanString (text : List Char) : Except Fault (String × List Char) :=
  (stringTail (text.length + 1) text).map fun (chars, rest) => (String.ofList chars, rest)

/-- A value that is neither array nor object, from its first character on. The first
character tells which sort of value it is. -/
def scanScalar : List Char → Except Fault (Value × List Char)
  | [] => .error (.before .unfinishedValue [])
  | c :: rest =>
    if c = 'n' then (wordTail ['u', 'l', 'l'] rest).map (.null, ·)
    else if c = 't' then (wordTail ['r', 'u', 'e'] rest).map (.bool true, ·)
    else if c = 'f' then (wordTail ['a', 'l', 's', 'e'] rest).map (.bool false, ·)
    else if c = '"' then (scanString rest).map fun (text, rest) => (.string text, rest)
    else if c = '-' ∨ c.isDigit then
      (scanNumber (c :: rest)).map fun (number, rest) => (.number number, rest)
    else .error (.onNext .noValue (c :: rest))

/-- A scalar of the wanted type. Any scalar is read to its end before it is judged,
so a fault inside it comes first; of an array or object only the bracket is seen. -/
def scanWanted {α : Type} (wanted : Wanted) (pick : Value → Option α) (text : List Char) :
    Except Fault (α × List Char) :=
  match skipSpace text with
  | [] => .error (.before .unfinishedValue [])
  | '[' :: rest => .error (.before (.wrongType .list wanted) ('[' :: rest))
  | '{' :: rest => .error (.before (.wrongType .object wanted) ('{' :: rest))
  | text => do
    let (value, rest) ← scanScalar text
    match pick value with
    | some picked => return (picked, rest)
    | none => throw (.before (.wrongType (.ofValue value) wanted) rest)

/-- A string, as a value that a record wants. Ids and texts of records are read by
it. -/
def scanText (text : List Char) : Except Fault (String × List Char) :=
  scanWanted .text Value.text? text

/-- A number as a double. An integer is as good as a double here, and becomes the
double nearest to it. -/
def scanDouble (text : List Char) : Except Fault (Binary64 × List Char) :=
  scanWanted .double (fun value => match value with
    | .number number => some (.finite number.toFinite)
    | _ => none) text

/-- A truth value. A word or a number that could stand for one is a fault. -/
def scanFlag (text : List Char) : Except Fault (Bool × List Char) :=
  scanWanted .flag (fun value => match value with
    | .bool flag => some flag
    | _ => none) text

/-- A whole number of 64 bits, or null for none. A double is a fault, also if it has
no fraction. -/
def scanOptionalCount (text : List Char) : Except Fault (Option UInt64 × List Char) :=
  scanWanted .count (fun value => match value with
    | .null => some none
    | .number (.integer number) =>
      if 0 ≤ number.value then some (some number.value.toNat.toUInt64) else none
    | _ => none) text

end CloudDiagram.Json
