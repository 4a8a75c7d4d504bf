import CloudDiagram.Json.Writer
import CloudDiagram.Text.Place
import CloudDiagram.Text.Shown

/-!
# What can be wrong with a JSON text

A fault is a cause and the place where reading stopped. The place is held as the
text that was still unread, so readers need not count; the offset follows from
the length of the whole text. Causes fall into three categories: the text ended
too early, it breaks the grammar, or it is well formed but does not fit what was
asked for.
-/

namespace CloudDiagram.Json

/-- What a reader asked for when it met a value of another type. It is named in the
message of the fault. -/
inductive Wanted where
  /-- An array. -/
  | list
  /-- A record of the given title. -/
  | record (title : String)
  /-- A string. -/
  | text
  /-- A number. -/
  | double
  /-- A truth value. -/
  | flag
  /-- A whole number of 64 bits. -/
  | count
deriving DecidableEq, Repr

/-- The wanted type in words, as it stands behind what was found. Doubles and counts
are named by their sizes. -/
def Wanted.describe : Wanted → String
  | list => "a sequence"
  | record title => "struct " ++ title
  | text => "a string"
  | double => "f64"
  | flag => "a boolean"
  | count => "usize"

/-- What stood there instead. Of an array or object only its bracket was seen, so
nothing of what is in it is told. -/
inductive Found where
  | null
  | bool (value : Bool)
  | number (value : Number)
  | string (text : String)
  | list
  | object
deriving DecidableEq, Repr

/-- The value that was met in words. A string is shown in quotes, with all
characters escaped that could not be seen. -/
def Found.describe : Found → String
  | null => "null"
  | bool value => "boolean `" ++ (Value.bool value).text ++ "`"
  | number (.integer value) => "integer `" ++ String.ofList (wholeChars value.value) ++ "`"
  | number (.double value) => "floating point `" ++ String.ofList (finiteChars value) ++ "`"
  | string text => "string " ++ Text.shown text
  | list => "sequence"
  | object => "map"

/-- Whether the value is of the wanted type and only its size is wrong. An integer
that is refused as a count is a negative one, since every other integer is a count.
-/
def Found.isOutOfRange : Found → Wanted → Bool
  | number (.integer _), .count => true
  | _, _ => false

/-- What a value is, as far as a reader that wanted another one looks. The items and
members of an array or object are left out. -/
def Found.ofValue : Value → Found
  | .null => null
  | .bool value => bool value
  | .number value => number value
  | .string text => string text
  | .array _ => list
  | .object _ => object

/-- Why a text was refused. Some causes come with what their message names: a field,
a value that was met, a length. -/
inductive Cause where
  /-- The text ended where a value was due. -/
  | unfinishedValue
  /-- The text ended inside an array. -/
  | unfinishedList
  /-- The text ended inside an object. -/
  | unfinishedObject
  /-- The text ended inside a string. -/
  | unfinishedString
  /-- No value starts with this character. -/
  | noValue
  /-- A colon was due after a key. -/
  | noColon
  /-- A comma or the end of the array was due. -/
  | noListMark
  /-- A comma or the end of the object was due. -/
  | noObjectMark
  /-- A key was due, and a key is a string. -/
  | keyNotText
  /-- A comma stands before a closing bracket. -/
  | trailingComma
  /-- Something stands after the end. -/
  | trailingText
  /-- Arrays and objects are nested too deeply. -/
  | tooDeep
  /-- The word is none of the three that name a value. -/
  | unknownWord
  /-- A digit is missing in a number, or its first digit is a needless zero. -/
  | badNumber
  /-- No double is as large as this number. -/
  | numberTooLarge
  /-- The escape is none that strings have. -/
  | badEscape
  /-- A control character stands in a string unescaped. -/
  | controlCharacter
  /-- The first half of a surrogate pair stands without an escape after it. -/
  | halfPair
  /-- A surrogate stands where no pair can be formed. -/
  | loneSurrogate
  /-- The value is of another type than the wanted one, or out of its range. -/
  | wrongType (found : Found) (wanted : Wanted)
  /-- An object ended without a required field. -/
  | missingField (name : String)
  /-- An object names a field a second time. -/
  | repeatedField (name : String)
  /-- An array ended before the last required field of a record. -/
  | wrongLength (length : Nat) (title : String) (fields : Nat)
deriving DecidableEq, Repr

/-- The three ways to refuse a text. In the first case it is worth waiting for more
text, and in the others it is not. -/
inductive Category where
  /-- More text could have made it right. -/
  | unfinished
  /-- The text is no JSON text within the limits. -/
  | malformed
  /-- The JSON text does not hold what was asked for. -/
  | unfit
deriving DecidableEq, Repr

namespace Cause

/-- The category of a cause. It depends on the kind of cause alone, and not on what
the cause names. -/
def category : Cause → Category
  | unfinishedValue | unfinishedList | unfinishedObject | unfinishedString => .unfinished
  | wrongType _ _ | missingField _ | repeatedField _ | wrongLength _ _ _ => .unfit
  | noValue | noColon | noListMark | noObjectMark | keyNotText | trailingComma | trailingText
  | tooDeep | unknownWord | badNumber | numberTooLarge | badEscape | controlCharacter | halfPair
  | loneSurrogate => .malformed

/-- The cause in words, without the place where it was found. -/
def describe : Cause → String
  | unfinishedValue => "EOF while parsing a value"
  | unfinishedList => "EOF while parsing a list"
  | unfinishedObject => "EOF while parsing an object"
  | unfinishedString => "EOF while parsing a string"
  | noValue => "expected value"
  | noColon => "expected `:`"
  | noListMark => "expected `,` or `]`"
  | noObjectMark => "expected `,` or `\x7d`"
  | keyNotText => "key must be a string"
  | trailingComma => "trailing comma"
  | trailingText => "trailing characters"
  | tooDeep => "recursion limit exceeded"
  | unknownWord => "expected ident"
  | badNumber => "invalid number"
  | numberTooLarge => "number out of range"
  | badEscape => "invalid escape"
  | controlCharacter => "control character (\\u0000-\\u001F) found while parsing a string"
  | halfPair => "unexpected end of hex escape"
  | loneSurrogate => "lone leading surrogate in hex escape"
  | wrongType found wanted =>
    (if found.isOutOfRange wanted then "invalid value: " else "invalid type: ")
      ++ found.describe ++ ", expected " ++ wanted.describe
  | missingField name => "missing field `" ++ name ++ "`"
  | repeatedField name => "duplicate field `" ++ name ++ "`"
  | wrongLength length title fields =>
    "invalid length " ++ toString length ++ ", expected struct " ++ title ++ " with "
      ++ toString fields ++ " elements"

end Cause

/-- A cause and where it was found: before the unread text, or some bytes into it.
The place is the end of what was read, not the start of what is wrong. -/
structure Fault where
  cause : Cause
  unread : List Char
  ahead : Nat
deriving DecidableEq, Repr

namespace Fault

/-- A fault found before the unread text. This is where a value that does not fit,
or a missing field, is noticed. -/
def before (cause : Cause) (unread : List Char) : Fault := ⟨cause, unread, 0⟩

/-- A fault that the next byte shows; at the end of the text there is none. The byte
was looked at, so it counts as passed. -/
def onNext (cause : Cause) (unread : List Char) : Fault :=
  ⟨cause, unread, if unread.isEmpty then 0 else 1⟩

/-- The category of the cause. The place has no part in it. -/
def category (fault : Fault) : Category := fault.cause.category

/-- The number of bytes of the text that were passed, never more than there are. It
is told from the lengths of the whole text and of the unread part. -/
def offset (text : List Char) (fault : Fault) : Nat :=
  min (Text.byteCount text) (Text.byteCount text - Text.byteCount fault.unread + fault.ahead)

/-- Where in the text the fault was found, as a line and a column. Columns count
bytes. -/
def place (text : List Char) (fault : Fault) : Text.Place :=
  Text.Place.ofOffset text (fault.offset text)

/-- The fault and its place in words. This is the message that a user gets to see.
-/
def message (text : String) (fault : Fault) : String :=
  let place := fault.place text.toList
  fault.cause.describe ++ " at line " ++ toString place.line ++ " column " ++ toString place.column

end Fault

end CloudDiagram.Json
