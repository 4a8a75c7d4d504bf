import CloudDiagram.Json.Writer
import CloudDiagram.Terraform.Literal

/-!
# Resource blocks

A block declares one resource under an address, which is a type and a name. What
it says about the resource is a list of items: arguments, nested lists of
arguments, documents and mappings. Printing lays the items out one per line,
indented by two spaces; a document is the exception, as its text stands unindented
between two marks, exactly as it was written but for newlines at its end.
-/

namespace CloudDiagram.Terraform

/-- The type and the name that a resource is declared under. No two resources may
share one, but nothing here keeps them from it. -/
structure Address where
  type : String
  name : String
deriving DecidableEq, Repr

/-- What an argument is set to. There are only as many forms as blocks need, not
those of the whole language. -/
inductive Expression where
  /-- A quoted literal. -/
  | text (content : String)
  /-- A truth value. -/
  | flag (set : Bool)
  /-- A whole number. -/
  | size (count : UInt32)
  /-- The id of a subnet that is declared elsewhere under a name. -/
  | subnetId (name : String)
  /-- A list of texts in the form of a JSON array. -/
  | texts (items : List String)
deriving DecidableEq, Repr

/-- One thing that a block says. A mapping differs from a nested list in that its
keys are chosen by the user. -/
inductive Item where
  | argument (name : String) (value : Expression)
  | nested (name : String) (arguments : List (String × Expression))
  | document (name : String) (content : String)
  | mapping (name : String) (entries : List (String × String))
deriving DecidableEq, Repr

/-- A declared resource: its address and what is said about it, in the order in
which it is printed. -/
structure Block where
  address : Address
  items : List Item
deriving DecidableEq, Repr

/-- An expression as it is written. All but the last two forms stand on one line
whatever they hold; a subnet's name is an identifier, and the texts are escaped, so
these do too. -/
def Expression.print : Expression → String
  | .text content => literal content
  | .flag set => if set then "true" else "false"
  | .size count => toString count.toNat
  | .subnetId name => "aws_subnet." ++ name ++ ".id"
  | .texts items => (Json.Value.ofTexts items).text

/-- A key of a mapping: bare if it is an identifier, else quoted. Both forms denote
the key. -/
def mappingKey (key : String) : String := if isIdentifier key then key else literal key

/-- A text without the newlines at its end. A document is followed by one newline of
its own, so these would be blank lines before its mark. -/
def trimNewlines (text : String) : String :=
  String.ofList (text.toList.reverse.dropWhile (· = '\n')).reverse

/-- The mark that ends a document. It ends one wherever it stands on a line of its
own, also in the text of the document. -/
def documentMark : String := "POLICY"

/-- The lines of an item. The text of a document may hold several lines, and is
neither indented nor escaped. -/
def Item.lines : Item → List String
  | .argument name value => ["  " ++ name ++ " = " ++ value.print]
  | .nested name arguments =>
    ["  " ++ name ++ " \x7b"]
      ++ arguments.map (fun (name, value) => "    " ++ name ++ " = " ++ value.print) ++ ["  \x7d"]
  | .document name content =>
    ["  " ++ name ++ " = <<" ++ documentMark, trimNewlines content, documentMark]
  | .mapping name entries =>
    ["  " ++ name ++ " = \x7b"]
      ++ entries.map (fun (key, value) => "    " ++ mappingKey key ++ " = " ++ literal value)
      ++ ["  \x7d"]

namespace Block

/-- The line that opens a block. Type and name are quoted literals, so the line is
one line whatever the name is. -/
def header (address : Address) : String :=
  "resource " ++ literal address.type ++ " " ++ literal address.name ++ " \x7b"

/-- The lines of a block and the empty one after it, which keeps blocks apart. -/
def lines (block : Block) : List String :=
  [header block.address] ++ block.items.flatMap Item.lines ++ ["\x7d", ""]

end Block

/-- Lines as text: each one is ended by a newline, the last one included. -/
def unlines (lines : List String) : String :=
  String.ofList (lines.flatMap fun line => line.toList ++ ['\n'])

/-- Lines printed in parts are printed one part after the other, since each line is
ended by its own newline. -/
theorem unlines_append (first second : List String) :
    unlines (first ++ second) = unlines first ++ unlines second := by
  simp [unlines, String.ofList_append]

/-- Blocks as text, one after another. No blocks are the empty text. -/
def printBlocks (blocks : List Block) : String := unlines (blocks.flatMap Block.lines)

/-- Blocks printed in parts are printed one part after the other, so the code of a
part of a diagram can be found in the code of the whole. -/
theorem printBlocks_append (first second : List Block) :
    printBlocks (first ++ second) = printBlocks first ++ printBlocks second := by
  simp [printBlocks, unlines_append]

end CloudDiagram.Terraform
