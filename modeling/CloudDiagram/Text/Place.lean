/-!
# Places in a text

A place is a line and a column, both counted in bytes of the UTF-8 form: a line
ends after each newline, and the column is the number of bytes since then. A
byte count may stop inside a character; the bytes passed still count.
-/

namespace CloudDiagram.Text

/-- The number of bytes of the UTF-8 form, of which each character takes one to
four. -/
def byteCount : List Char → Nat
  | [] => 0
  | c :: rest => c.utf8Size + byteCount rest

/-- A line, counted from one, and the number of bytes passed on it, which is zero at
the start of a line. -/
structure Place where
  line : Nat
  column : Nat
deriving DecidableEq, Repr

namespace Place

/-- The place before the first byte, where the first line starts. -/
def start : Place := ⟨1, 0⟩

/-- The place reached from `here` by passing `bytes` bytes of a text. The text may
end before so many have been passed, and the place is its end then. -/
def advance : Nat → List Char → Place → Place
  | _, [], here => here
  | bytes, c :: rest, here =>
    if bytes = 0 then here
    else if c = '\n' then advance (bytes - 1) rest ⟨here.line + 1, 0⟩
    else advance (bytes - c.utf8Size) rest ⟨here.line, here.column + min bytes c.utf8Size⟩

/-- The place after the first `bytes` bytes of a text, counted from the start of its
first line. -/
def ofOffset (text : List Char) (bytes : Nat) : Place := advance bytes text start

end Place

end CloudDiagram.Text
