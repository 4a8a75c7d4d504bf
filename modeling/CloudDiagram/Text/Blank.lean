/-!
# Blank text

The white space characters of Unicode: those that separate words or lines
without a mark. A text of nothing else is blank.
-/

namespace CloudDiagram.Text

/-- Closed ranges of the white space code points, in increasing order. They are
those of the property `White_Space` of Unicode. -/
def blankRanges : List (Nat × Nat) :=
  [(0x09, 0x0d), (0x20, 0x20), (0x85, 0x85), (0xa0, 0xa0), (0x1680, 0x1680), (0x2000, 0x200a),
    (0x2028, 0x2029), (0x202f, 0x202f), (0x205f, 0x205f), (0x3000, 0x3000)]

/-- Whether a character is white space. There are more such characters than may
stand between the tokens of a JSON text. -/
def isBlankChar (c : Char) : Bool :=
  blankRanges.any fun range => range.1 ≤ c.toNat && c.toNat ≤ range.2

/-- Whether a text holds nothing but white space. The empty text does, so it is
blank. -/
def isBlank (text : String) : Bool := text.toList.all isBlankChar

end CloudDiagram.Text
