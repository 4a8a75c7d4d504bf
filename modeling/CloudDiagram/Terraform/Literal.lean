/-!
# Literals and identifiers

A quoted literal stands on one line, whatever the text it denotes: the quote, the
backslash and the breaks are escaped. A dollar or percent sign before an opening
brace is doubled, since the two together would open a template.
-/

namespace CloudDiagram.Terraform

/-- How a character is written inside a literal, given the text after it. Only the
next character is looked at, to tell whether a sign would open a template. -/
def literalChar (c : Char) (after : List Char) : List Char :=
  if c = '"' then ['\\', '"']
  else if c = '\\' then ['\\', '\\']
  else if c = '\n' then ['\\', 'n']
  else if c = '\r' then ['\\', 'r']
  else if c = '\t' then ['\\', 't']
  else if (c = '$' ∨ c = '%') ∧ after.head? = some '{' then [c, c]
  else [c]

/-- What stands between the quotes of a literal. Each character is written by
itself, so this goes along the text once. -/
def literalBody : List Char → List Char
  | [] => []
  | c :: rest => literalChar c rest ++ literalBody rest

/-- What stands between the quotes stays on one line, since a newline is escaped and
no other character is written with one. -/
theorem newline_not_mem_literalBody (text : List Char) : '\n' ∉ literalBody text := by
  induction text with
  | nil => simp [literalBody]
  | cons c rest inductionHypothesis =>
    have char : '\n' ∉ literalChar c rest := by
      unfold literalChar
      repeat' split
      all_goals simp_all [eq_comm]
    simp [literalBody, char, inductionHypothesis]

/-- A text as a quoted literal. It denotes the text, whatever characters that has.
-/
def literal (text : String) : String :=
  String.ofList ('"' :: (literalBody text.toList ++ ['"']))

/-- Characters that an identifier may start with. Letters outside of ASCII are none
of them. -/
def startsIdentifier (c : Char) : Bool := c.isAlpha || c = '_'

/-- Characters that may follow in an identifier. A dash is among them, so ids with a
number are identifiers. -/
def continuesIdentifier (c : Char) : Bool := c.isAlphanum || c = '_' || c = '-'

/-- Whether a text is an identifier: an ASCII letter or an underscore, and then
letters, digits, underscores and dashes. -/
def isIdentifier (text : String) : Bool :=
  match text.toList with
  | [] => false
  | first :: rest => startsIdentifier first && rest.all continuesIdentifier

end CloudDiagram.Terraform
