import CloudDiagram.Text.Invisible

/-!
# Text shown in a message

A text that a message quotes stands between double quotes, with everything that
a reader could not see or would mistake written as an escape: the quote, the
backslash, the common controls by a letter, and every other invisible character
by its number in hexadecimal.
-/

namespace CloudDiagram.Text

/-- How one character of a quoted text is shown. It does not depend on the
characters around it, and a character that can be seen stands for itself. -/
def shownChar (c : Char) : List Char :=
  if c = '"' then ['\\', '"']
  else if c = '\\' then ['\\', '\\']
  else if c = '\x00' then ['\\', '0']
  else if c = '\t' then ['\\', 't']
  else if c = '\n' then ['\\', 'n']
  else if c = '\r' then ['\\', 'r']
  else if isInvisible c then ['\\', 'u', '{'] ++ Nat.toDigits 16 c.toNat ++ ['}']
  else [c]

/-- A text as a message quotes it. Two texts that look alike but differ in what
cannot be seen are shown differently. -/
def shown (text : String) : String :=
  String.ofList (['"'] ++ text.toList.flatMap shownChar ++ ['"'])

end CloudDiagram.Text
