import CloudDiagram.Proofs.Terraform.Dependence
import CloudDiagram.Proofs.Terraform.WrittenBlocks

/-!
# The headers in the code are the addresses of the nodes

The code is read line by line, and documents are skipped, each from the line that opens
it through the next mark. Of what is left, the lines that open a block are exactly the
headers of the readable nodes, in the order of the nodes. All other lines are indented,
empty, or end a block, because nothing that a diagram holds can break a line; and only
the line that opens a policy looks like one that opens a document.

A node that cannot be read leaves no trace: without it the code is the same, since
neither its block nor the placement of any instance depends on it.
-/

namespace CloudDiagram.Terraform

/-- The line that opens a document. A policy is the only item that is printed as
one, so this is the only such line that the generator writes. -/
def documentStart : String := "  policy = <<POLICY"

/-- The lines that stand outside documents. A document is left out from the line
that opens it through the next line that is the mark. The first argument tells
whether the lines start inside a document. -/
def outsideDocuments : Bool → List String → List String
  | _, [] => []
  | true, line :: rest => outsideDocuments (line ≠ documentMark) rest
  | false, line :: rest =>
    if line = documentStart then outsideDocuments true rest
    else line :: outsideDocuments false rest

/-- Whether a line opens a block: it starts, without indentation, with the word that
every header starts with. -/
def opensBlock (line : String) : Bool := "resource ".toList.isPrefixOf line.toList

/-- The lines of a text that open a block. Those in documents are left out, since a
policy is any text of a user and may look like a header. -/
def headerLines (text : String) : List String :=
  (outsideDocuments false (textLines text)).filter opensBlock

/-- A line that neither opens a document nor a block, so that a reader outside
documents is still outside when it has passed the line. -/
def Inert (line : String) : Prop := line ≠ documentStart ∧ opensBlock line = false

instance (line : String) : Decidable (Inert line) := inferInstanceAs (Decidable (_ ∧ _))

/-- Inert lines are passed over. None of them moves the reader into a document, so
what follows is read as if it stood first, and none is kept by the filter. -/
theorem filter_outside_of_inert {lines : List String} (inert : ∀ line ∈ lines, Inert line)
    (rest : List String) :
    (outsideDocuments false (lines ++ rest)).filter opensBlock =
      (outsideDocuments false rest).filter opensBlock := by
  induction lines with
  | nil => rfl
  | cons line lines inductionHypothesis =>
    obtain ⟨⟨plain, closed⟩, others⟩ := List.forall_mem_cons.mp inert
    have passed : ¬opensBlock line = true := by simp [closed]
    rw [List.cons_append, outsideDocuments, if_neg plain, List.filter_cons_of_neg passed,
      inductionHypothesis others]

/-- A document is skipped up to its first mark. What its lines look like does not
matter, as long as none of them is the mark; the reader is outside again behind it.
-/
theorem outside_document {content : List String} (unmarked : documentMark ∉ content)
    (rest : List String) :
    outsideDocuments true (content ++ documentMark :: rest) = outsideDocuments false rest := by
  induction content with
  | nil => simp [outsideDocuments]
  | cons line content inductionHypothesis =>
    have different : line ≠ documentMark := fun same => unmarked (same ▸ List.mem_cons_self)
    rw [List.cons_append, outsideDocuments, decide_eq_true different]
    exact inductionHypothesis (List.not_mem_of_not_mem_cons unmarked)

/-- The first line of an item is inert unless the item is a document. The line fixes
the sign behind the name, and only a document is opened with the sign of a policy.
-/
theorem opening_inert {item : Item} (wellFormed : item.WellFormed)
    (other : item.form ≠ .document) : Inert (opening item.name item.sign) := by
  constructor
  · intro same
    have policy : documentStart = opening "policy" ("= <<" ++ documentMark) := by decide
    obtain ⟨_, sign⟩ := opening_inj wellFormed.identifier (by decide) (same.trans policy)
    have form := item.ofSign_sign
    rw [sign] at form
    exact other form.symm
  · simp [opensBlock, opening, List.isPrefixOf]

/-- The lines inside an item are inert, and so are those around them. An indented
line stands four blanks in, one level deeper than the line that opens a document. -/
theorem inert_of_indented {first : String} {lines : List String} (inert : Inert first)
    (indented : ∀ line ∈ lines, Indented line) :
    ∀ line ∈ first :: (lines ++ [itemEnd]), Inert line := by
  have ending : Inert itemEnd := by decide
  have inside : ∀ line ∈ lines, Inert line := by
    intro line member
    obtain ⟨text, rfl⟩ := indented line member
    constructor
    · intro same
      have letters := congrArg String.toList same
      simp [documentStart] at letters
    · simp [opensBlock, List.isPrefixOf]
  exact List.forall_mem_cons.mpr
    ⟨inert, List.forall_mem_append.mpr ⟨inside, List.forall_mem_singleton.mpr ending⟩⟩

/-- All lines of an item are inert unless the item is a document. This covers
arguments, nested blocks and mappings, whose inner lines all are indented. -/
theorem written_inert {item : Item} (wellFormed : item.WellFormed)
    (other : item.form ≠ .document) : ∀ line ∈ item.written, Inert line := by
  have first := opening_inert wellFormed other
  cases item with
  | argument name value => exact List.forall_mem_singleton.mpr first
  | nested name arguments =>
    refine inert_of_indented first ?_
    exact List.forall_mem_map.mpr fun argument _ => argumentLine_indented argument
  | document name content => exact absurd rfl other
  | mapping name entries =>
    refine inert_of_indented first ?_
    exact List.forall_mem_map.mpr fun entry _ => entryLine_indented entry

/-- No line of an item outside documents opens a block. A document is well formed
only if no line of it is the mark, so it is skipped to the mark that was written
behind it. -/
theorem filter_outside_item {item : Item} (wellFormed : item.WellFormed) (rest : List String) :
    (outsideDocuments false (item.written ++ rest)).filter opensBlock =
      (outsideDocuments false rest).filter opensBlock := by
  cases item with
  | argument _ _ | nested _ _ | mapping _ _ =>
    exact filter_outside_of_inert (written_inert wellFormed nofun) rest
  | document name content =>
    obtain ⟨rfl, unmarked, _⟩ := wellFormed
    have start : opening (Item.document "policy" content).name
        (Item.document "policy" content).sign = documentStart := by
      change opening "policy" ("= <<" ++ documentMark) = documentStart
      decide
    rw [Item.written, start, List.cons_append, outsideDocuments, if_pos rfl, Item.body,
      List.append_assoc, List.singleton_append, outside_document unmarked]

/-- No line of a list of items outside documents opens a block. Each item leaves the
reader outside documents, which is where the next one starts. -/
theorem filter_outside_items {items : List Item} (wellFormed : ∀ item ∈ items, item.WellFormed)
    (rest : List String) :
    (outsideDocuments false (items.flatMap Item.written ++ rest)).filter opensBlock =
      (outsideDocuments false rest).filter opensBlock := by
  induction items with
  | nil => rfl
  | cons item items inductionHypothesis =>
    obtain ⟨first, others⟩ := List.forall_mem_cons.mp wellFormed
    rw [List.flatMap_cons, List.append_assoc, filter_outside_item first, inductionHypothesis others]

/-- A header opens a block and no document, whatever the address is: it is not
indented, and the line that opens a document is. -/
theorem header_opens (address : Address) :
    Block.header address ≠ documentStart ∧ opensBlock (Block.header address) = true := by
  constructor
  · intro same
    have letters := congrArg String.toList same
    simp [Block.header, documentStart] at letters
  · simp [opensBlock, Block.header, List.isPrefixOf]

/-- The header of a block is the only line that opens one. Its items are passed
over, and the two lines that end the block are inert. -/
theorem filter_outside_block {block : Block} (wellFormed : block.WellFormed) (rest : List String) :
    (outsideDocuments false (block.written ++ rest)).filter opensBlock =
      Block.header block.address :: (outsideDocuments false rest).filter opensBlock := by
  obtain ⟨plain, opens⟩ := header_opens block.address
  have ending : ∀ line ∈ [blockEnd, ""], Inert line := by decide
  rw [Block.written, List.cons_append, outsideDocuments, if_neg plain,
    List.filter_cons_of_pos opens, List.append_assoc, filter_outside_items wellFormed,
    filter_outside_of_inert ending]

/-- The lines of printed blocks that open a block are their headers, one for each
block and in order. Well-formed blocks are read back line by line, which makes this
an induction over the blocks. -/
theorem headerLines_printBlocks {blocks : List Block}
    (wellFormed : ∀ block ∈ blocks, block.WellFormed) :
    headerLines (printBlocks blocks) = blocks.map fun block => Block.header block.address := by
  rw [headerLines, textLines_printBlocks wellFormed]
  induction blocks with
  | nil => decide
  | cons block blocks inductionHypothesis =>
    obtain ⟨first, others⟩ := List.forall_mem_cons.mp wellFormed
    rw [List.flatMap_cons, List.append_assoc, filter_outside_block first,
      inductionHypothesis others, List.map_cons]

/-- The header of an address as it is written out. A type is one of three fixed
texts, and none of these needs an escape; only the name is a text of the user. -/
theorem header_of_address? {network : String → String} {node : Node} {address : Address}
    (readable : address? network node = some address) :
    Block.header address =
      "resource \"" ++ address.type ++ "\" " ++ literal address.name ++ " \x7b" := by
  have escaped : literal address.type = "\"" ++ address.type ++ "\"" := by
    have vpc : literal "aws_vpc" = "\"" ++ "aws_vpc" ++ "\"" := by decide
    have instances : literal "aws_instance" = "\"" ++ "aws_instance" ++ "\"" := by decide
    have bucket : literal "aws_s3_bucket" = "\"" ++ "aws_s3_bucket" ++ "\"" := by decide
    unfold address? at readable
    split at readable
    · cases readable
      exact vpc
    · cases readable
      exact instances
    · cases readable
      exact bucket
    · cases readable
    · cases readable
  rw [Block.header, escaped]
  exact String.toList_inj.mp (by simp)

/-- The block of a node is declared under the address of the node, and there is a
block exactly if there is an address. -/
theorem address_block? (settings : GeneratorSettings) (network : String → String) (node : Node) :
    (block? settings network node).map Block.address = address? network node := by
  rw [block?, address?]
  cases node.payload <;> rfl

/-- A node has no address exactly if it is of no kind, whatever the networks are.
The networks only choose the name of an instance, never whether it has one. -/
theorem address?_eq_none_iff {network : String → String} {node : Node} :
    address? network node = none ↔ node.kind? = none := by
  rw [address?, Node.kind?]
  cases node.payload <;> simp [Payload.kind?]

/-- Where a node that cannot be read stands among others, no id is placed
differently. Only networks are found by their ids, and such a node is none, even
under the id of one. -/
theorem networkName_of_unreadable (settings : GeneratorSettings) {before after : List Node}
    {node : Node} (edges : List Connection) (unreadable : node.kind? = none) :
    networkName settings (.ofLists (before ++ after) edges) (before ++ after) =
      networkName settings (.ofLists (before ++ node :: after) edges) (before ++ node :: after) := by
  funext id
  rw [networkName_eq, networkName_eq, readableParts_of_unreadable unreadable]

/-- Without a node that cannot be read, the code is the same: it has no block of its
own, and the blocks of the others depend on the readable nodes only. -/
theorem generate_of_unreadable (settings : GeneratorSettings) {before after : List Node}
    {node : Node} (edges : List Connection) (unreadable : node.kind? = none) :
    generate settings (before ++ after) edges =
      generate settings (before ++ node :: after) edges := by
  rw [generate, generate, blocks_eq, blocks_eq, networkName_of_unreadable settings edges unreadable,
    readableParts_of_unreadable unreadable]

/-- Read outside its documents, the code of a diagram without a marked policy has
one line that opens a block for each node with an address, in the order of the
nodes, and each is the header of that address. A node without an address adds
nothing to the code.

Proof: the trimmed blocks print as the blocks do and are well formed, so their
headers are what is read. Each block is declared under the address of its node, and
nodes without an address have no block. -/
theorem headerLines_generate (settings : GeneratorSettings) (nodes : List Node)
    (edges : List Connection) (unmarked : Unmarked nodes) :
    let network := networkName settings (Links.ofLists nodes edges) nodes
    headerLines (generate settings nodes edges) =
        (nodes.filterMap (address? network)).map (fun address =>
          "resource \"" ++ address.type ++ "\" " ++ literal address.name ++ " \x7b") ∧
      ∀ before node after, nodes = before ++ node :: after → address? network node = none →
        generate settings (before ++ after) edges = generate settings nodes edges := by
  intro network
  constructor
  · rw [generate, ← printBlocks_trimmed,
      headerLines_printBlocks (blocks_wellFormed settings edges unmarked), List.map_map, blocks,
      List.map_filterMap, List.map_filterMap]
    refine List.filterMap_congr ?_
    intro node _
    change (block? settings network node).map _ = _
    rw [← address_block? settings, Option.map_map]
    refine Option.map_congr ?_
    intro block readable
    have address : address? network node = some block.address := by
      rw [← address_block? settings, readable, Option.map_some]
    exact header_of_address? address
  · rintro before node after rfl unreadable
    exact generate_of_unreadable settings edges (address?_eq_none_iff.mp unreadable)

/-- A policy that holds the text of a header and of its own first line adds no header, and
neither does a node that cannot be read. -/
theorem headerLines_of_deceptive_policy :
    let policy := "resource \"aws_vpc\" \"fake\" \x7b\n  policy = <<POLICY\n\n"
    let nodes : List Node := [
      { id := "s", payload := .storage { bucketName := "a\"b", policy := some policy } },
      { id := "m", payload := .malformed .null }]
    Unmarked nodes ∧
      headerLines (generate {} nodes []) =
        ["resource \"aws_s3_bucket\" \"a\\\"b\" \x7b"] ∧
      generate {} (nodes.take 1) [] = generate {} nodes [] := by
  intro policy nodes
  have unmarked : Unmarked nodes := by decide
  have written : "resource \"" ++ "aws_s3_bucket" ++ "\" " ++ literal "a\"b" ++ " \x7b" =
      "resource \"aws_s3_bucket\" \"a\\\"b\" \x7b" := by decide
  obtain ⟨headers, removed⟩ := headerLines_generate {} nodes [] unmarked
  exact ⟨unmarked, headers.trans (congrArg (fun line => [line]) written),
    removed [nodes[0]] nodes[1] [] rfl rfl⟩

end CloudDiagram.Terraform
