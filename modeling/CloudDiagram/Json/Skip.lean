import CloudDiagram.Json.Token

/-!
# Passing over a value

A value that nobody asked for is checked for its form only. Numbers may be of any
size, surrogates need no partner, and nesting has no limit, since the open
brackets are held in a list instead of in nested calls. A text that ends inside
a number is a number without its digit here.
-/

namespace CloudDiagram.Json

/-- A bracket that is still open. All that has to be remembered of it is which sort
it is. -/
inductive OpenBracket where
  | list
  | object
deriving DecidableEq, Repr

namespace OpenBracket

/-- The character that closes the bracket; the other closing bracket does not. -/
def closing : OpenBracket → Char
  | list => ']'
  | object => '}'

/-- What is wrong when the text ends inside the bracket. The innermost open bracket
is the one that is named. -/
def unfinished : OpenBracket → Cause
  | list => .unfinishedList
  | object => .unfinishedObject

/-- What is wrong when neither a comma nor the closing bracket follows a value. -/
def noMark : OpenBracket → Cause
  | list => .noListMark
  | object => .noObjectMark

end OpenBracket

/-- Pass the rest of a string after its opening quote. The number bounds the
characters and is never used up. -/
def skipStringTail : Nat → List Char → Except Fault (List Char)
  | 0, _ | _, [] => .error (.before .unfinishedString [])
  | bound + 1, c :: rest =>
    if c = '"' then .ok rest
    else if c = '\\' then do
      let (_, rest) ← scanEscape rest
      skipStringTail bound rest
    else if c.toNat < 0x20 then .error (.before .controlCharacter (c :: rest))
    else skipStringTail bound rest

/-- Pass a string, from behind its opening quote. Its characters are not put
together, so surrogates are not joined. -/
def skipString (text : List Char) : Except Fault (List Char) :=
  skipStringTail (text.length + 1) text

/-- Pass a value that is neither array nor object. A number that is too large for a
double is passed as well, since its size is not asked for. -/
def skipScalar : List Char → Except Fault (List Char)
  | [] => .error (.before .unfinishedValue [])
  | c :: rest =>
    if c = 'n' then wordTail ['u', 'l', 'l'] rest
    else if c = 't' then wordTail ['r', 'u', 'e'] rest
    else if c = 'f' then wordTail ['a', 'l', 's', 'e'] rest
    else if c = '"' then skipString rest
    else if c = '-' ∨ c.isDigit then (Numeral.scan .badNumber (c :: rest)).map Prod.snd
    else .error (.onNext .noValue (c :: rest))

/-- Pass a key and the colon after it. A key that comes a second time is no fault
here. -/
def skipKey (text : List Char) : Except Fault (List Char) :=
  match skipSpace text with
  | [] => .error (.before .unfinishedObject [])
  | '"' :: rest => do
    let rest ← skipString rest
    match skipSpace rest with
    | [] => throw (.before .unfinishedObject [])
    | ':' :: rest => return rest
    | rest => throw (.onNext .noColon rest)
  | rest => .error (.onNext .keyNotText rest)

/-- Pass the key that stands before a value inside the given bracket, if any. This
is all in which arrays and objects differ here. -/
def skipKeyIn : OpenBracket → List Char → Except Fault (List Char)
  | .list, text => .ok text
  | .object, text => skipKey text

/-- Go on after a value inside open brackets, the innermost first: close those that
end here, and stop where the next value is due or no bracket is open. -/
def skipClosings : List OpenBracket → List Char → Except Fault (List OpenBracket × List Char)
  | [], text => .ok ([], text)
  | bracket :: outer, text =>
    match skipSpace text with
    | [] => .error (.before bracket.unfinished [])
    | c :: rest =>
      if c = ',' then (skipKeyIn bracket rest).map (bracket :: outer, ·)
      else if c = bracket.closing then skipClosings outer rest
      else .error (.onNext bracket.noMark (c :: rest))

/-- Enter a bracket: its first value is due, or it closes at once. A bracket that
closes at once is a value that has been passed. -/
def skipOpening (bracket : OpenBracket) (outer : List OpenBracket) (text : List Char) :
    Except Fault (List OpenBracket × List Char) :=
  match skipSpace text with
  | [] => .error (.before bracket.unfinished [])
  | c :: rest =>
    if c = bracket.closing then skipClosings outer rest
    else (skipKeyIn bracket (c :: rest)).map (bracket :: outer, ·)

/-- Pass one value or opening bracket inside the open brackets. What is left are the
brackets that are open then, and the text behind it. -/
def skipStep (outer : List OpenBracket) (text : List Char) :
    Except Fault (List OpenBracket × List Char) :=
  match skipSpace text with
  | '[' :: rest => skipOpening .list outer rest
  | '{' :: rest => skipOpening .object outer rest
  | rest => do skipClosings outer (← skipScalar rest)

/-- Pass values until no bracket is open. Each step passes a character at least, so
the number of steps is bounded by the length of the text. -/
def skipWithin : Nat → List OpenBracket → List Char → Except Fault (List Char)
  | 0, _, _ => .error (.before .unfinishedValue [])
  | bound + 1, outer, text => do
    let (outer, rest) ← skipStep outer text
    if outer.isEmpty then return rest else skipWithin bound outer rest

/-- Pass one value, from its first character or the space before it. -/
def skipValue (text : List Char) : Except Fault (List Char) :=
  skipWithin (text.length + 1) [] text

end CloudDiagram.Json
