import CloudDiagram.Proofs.Terraform.Lines
import CloudDiagram.Terraform.Code

/-!
# Blocks as their lines are read

Nothing that a diagram holds can break a line of its code, so the code has exactly the
lines that its blocks print. The one exception is a document, whose text is copied line
by line; it ends at the mark, and a document none of whose lines is the mark ends there
only.

A block is printed as the block whose documents have lost the newlines at their end.
These trimmed blocks of a diagram are well-formed when no policy has a line equal to the
mark, and what is read off the lines of the code is stated for them.
-/

namespace CloudDiagram.Terraform

/-- The policy of a node, if it holds one. Only a bucket can, and no other text of a
diagram is copied into the code as it is. -/
def policy? (node : Node) : Option String :=
  match node.payload with
  | .storage attributes => attributes.policy
  | .network _ | .compute _ | .unrecognized _ _ | .malformed _ => none

/-- No line of a policy in the diagram is the mark that ends the document. It is all
that a diagram has to satisfy for its code to be read as it was meant. -/
def Unmarked (nodes : List Node) : Prop :=
  ∀ node ∈ nodes, ∀ policy ∈ policy? node, documentMark ∉ textLines policy

instance (nodes : List Node) : Decidable (Unmarked nodes) :=
  inferInstanceAs (Decidable (∀ _ ∈ nodes, _))

/-- Names are identifiers. A document is a policy; none of its lines is the mark,
and no newline stands at its end. -/
def Item.WellFormed : Item → Prop
  | .argument name value => isIdentifier name = true ∧ value.WellFormed
  | .nested name arguments =>
    isIdentifier name = true ∧
      ∀ argument ∈ arguments, isIdentifier argument.1 = true ∧ argument.2.WellFormed
  | .document name content =>
    name = "policy" ∧ documentMark ∉ textLines content ∧ trimNewlines content = content
  | .mapping name _ => isIdentifier name = true

/-- Every item of the block is well-formed. The address needs no condition, since
both of its parts are written as literals. -/
def Block.WellFormed (block : Block) : Prop := ∀ item ∈ block.items, item.WellFormed

/-- The item with the newlines at the end of its document left out. They are not
printed, so no reader could find them. -/
def Item.trimmed : Item → Item
  | .document name content => .document name (trimNewlines content)
  | .argument name value => .argument name value
  | .nested name arguments => .nested name arguments
  | .mapping name entries => .mapping name entries

/-- The block with its documents trimmed. It is what can be read off the printed
lines. -/
def Block.trimmed (block : Block) : Block :=
  { block with items := block.items.map Item.trimmed }

/-- An item is printed as the trimmed one, since trimming a second time takes
nothing off. -/
theorem Item.lines_trimmed (item : Item) : item.trimmed.lines = item.lines := by
  cases item with
  | document name content => simp [trimmed, lines, trimNewlines_trimNewlines]
  | argument name value => rfl
  | nested name arguments => rfl
  | mapping name entries => rfl

/-- A block is printed as the trimmed one, item by item. -/
theorem Block.lines_trimmed (block : Block) : block.trimmed.lines = block.lines := by
  simp [trimmed, lines, List.flatMap_map, Item.lines_trimmed]

/-- Blocks are printed as the trimmed ones. What is proved of well-formed blocks
therefore holds of the code, whose own blocks may have untrimmed policies. -/
theorem printBlocks_trimmed (blocks : List Block) :
    printBlocks (blocks.map Block.trimmed) = printBlocks blocks := by
  simp [printBlocks, List.flatMap_map, Block.lines_trimmed]

/-- What an item is called. Items of one block may share a name, as volumes do. -/
def Item.name : Item → String
  | .argument name _ | .nested name _ | .document name _ | .mapping name _ => name

/-- A well-formed item has an identifier as its name, so the first space of its line
stands behind the name. -/
theorem Item.WellFormed.identifier {item : Item} (wellFormed : item.WellFormed) :
    isIdentifier item.name = true := by
  cases item with
  | argument name value => exact wellFormed.1
  | nested name arguments => exact wellFormed.1
  | document name content =>
    obtain ⟨rfl, _⟩ := wellFormed
    change isIdentifier "policy" = true
    decide
  | mapping name entries => exact wellFormed

/-- What stands behind the name of an item on its first line. It begins in a
different way for each form. -/
def Item.sign : Item → String
  | .argument _ value => "= " ++ value.print
  | .nested _ _ => "\x7b"
  | .document _ _ => "= <<" ++ documentMark
  | .mapping _ _ => "= \x7b"

/-- The form of an item. -/
inductive ItemForm where
  | argument
  | nested
  | document
  | mapping
deriving DecidableEq, Repr

/-- Of which form an item is. -/
def Item.form : Item → ItemForm
  | .argument _ _ => .argument
  | .nested _ _ => .nested
  | .document _ _ => .document
  | .mapping _ _ => .mapping

/-- The form that a sign shows. Three of the forms have one fixed sign each, and
every other sign is that of an argument. -/
def ItemForm.ofSign (sign : String) : ItemForm :=
  if sign = "\x7b" then nested
  else if sign = "= <<" ++ documentMark then document
  else if sign = "= \x7b" then mapping
  else argument

/-- The sign of an item shows its form, as no expression starts with a brace or with
the sign of a document. -/
theorem Item.ofSign_sign (item : Item) : ItemForm.ofSign item.sign = item.form := by
  cases item with
  | argument name value =>
    have other (text : String) (unknown : text.toList.head?.bind Lead.ofChar? = none) :
        "= " ++ value.print ≠ "= " ++ text := by
      intro same
      have letters : value.print.toList = text.toList := by simpa using congrArg String.toList same
      exact value.print_ne unknown letters
    have noNested : "= " ++ value.print ≠ "\x7b" := by
      intro same
      have letters := congrArg String.toList same
      simp at letters
    have noDocument : "= " ++ value.print ≠ "= <<" ++ documentMark := other "<<POLICY" (by decide)
    have noMapping : "= " ++ value.print ≠ "= \x7b" := other "\x7b" (by decide)
    rw [sign, form, ItemForm.ofSign, if_neg noNested, if_neg noDocument, if_neg noMapping]
  | nested name arguments => rfl
  | document name content => rfl
  | mapping name entries => rfl

/-- The line of an argument in a nested list, indented by four blanks. -/
def argumentLine (argument : String × Expression) : String :=
  "    " ++ argument.1 ++ " = " ++ argument.2.print

/-- The line of an entry of a mapping, indented by four blanks as well. -/
def entryLine (entry : String × String) : String :=
  "    " ++ mappingKey entry.1 ++ " = " ++ literal entry.2

/-- The first line of an item. All forms have one, and only an argument has no
other. -/
def opening (name sign : String) : String := "  " ++ name ++ " " ++ sign

/-- The first line of an item shows its name and its sign. An identifier holds no
space, so the space behind the name is the first one. -/
theorem opening_inj {name other sign shown : String} (identifier : isIdentifier name = true)
    (identifier' : isIdentifier other = true) (same : opening name sign = opening other shown) :
    name = other ∧ sign = shown := by
  have letters : name.toList ++ ' ' :: sign.toList = other.toList ++ ' ' :: shown.toList := by
    simpa [opening] using congrArg String.toList same
  obtain ⟨names, signs⟩ := eq_of_append_cons_eq (space_not_mem_identifier identifier)
    (space_not_mem_identifier identifier') letters
  exact ⟨String.toList_inj.mp names, String.toList_inj.mp signs⟩

/-- A line that stands inside an item. No line that opens or ends an item or a block
is indented so far. -/
def Indented (line : String) : Prop := ∃ text, line = "    " ++ text

/-- The line of an argument in a nested list is indented. -/
theorem argumentLine_indented (argument : String × Expression) :
    Indented (argumentLine argument) :=
  ⟨argument.1 ++ (" = " ++ argument.2.print), by
    rw [argumentLine, String.append_assoc, String.append_assoc]⟩

/-- The line of an entry of a mapping is indented. -/
theorem entryLine_indented (entry : String × String) : Indented (entryLine entry) :=
  ⟨mappingKey entry.1 ++ (" = " ++ literal entry.2), by
    rw [entryLine, String.append_assoc, String.append_assoc]⟩

/-- The line that ends a nested list and a mapping. It is less indented than what
they hold. -/
def itemEnd : String := "  \x7d"

/-- The line that ends a block. It is not indented, unlike all lines of its items.
-/
def blockEnd : String := "\x7d"

/-- The lines of an item behind its first one. Those of a document are the lines of
its text, which may be any. -/
def Item.body : Item → List String
  | .argument _ _ => []
  | .nested _ arguments => arguments.map argumentLine ++ [itemEnd]
  | .document _ content => textLines content ++ [documentMark]
  | .mapping _ entries => entries.map entryLine ++ [itemEnd]

/-- The lines of an item as they are read. Unlike those it prints, none of them
holds a newline. -/
def Item.written (item : Item) : List String :=
  opening item.name item.sign :: item.body

/-- The lines of a block as they are read, with the empty line that parts it from
the next. -/
def Block.written (block : Block) : List String :=
  header block.address :: (block.items.flatMap Item.written ++ [blockEnd, ""])

/-- The line of an argument in a nested list holds no newline, if its name is an
identifier and its value well formed. -/
theorem newline_not_mem_argumentLine {argument : String × Expression}
    (identifier : isIdentifier argument.1 = true) (plain : argument.2.WellFormed) :
    '\n' ∉ (argumentLine argument).toList := by
  simp [argumentLine, newline_not_mem_identifier identifier,
    Expression.newline_not_mem_print plain]

/-- The line of an entry holds no newline, whatever the key and the value are: a key
that is no identifier is a literal, and so is the value. -/
theorem newline_not_mem_entryLine (entry : String × String) :
    '\n' ∉ (entryLine entry).toList := by
  simp [entryLine, newline_not_mem_mappingKey, newline_not_mem_literal]

/-- The lines of a well-formed item are read back; only a document has lines of its
own. In the other forms each printed line is one line, because names and values do
not break it. -/
theorem Item.flatMap_lines {item : Item} (wellFormed : item.WellFormed) :
    item.lines.flatMap textLines = item.written := by
  cases item with
  | argument name value =>
    obtain ⟨identifier, plain⟩ := wellFormed
    have single : '\n' ∉ ("  " ++ name ++ " = " ++ value.print).toList := by
      simp [newline_not_mem_identifier identifier, Expression.newline_not_mem_print plain]
    have first : "  " ++ name ++ " = " ++ value.print = opening name ("= " ++ value.print) :=
      String.toList_inj.mp (by simp [opening])
    rw [lines, List.flatMap_singleton, textLines_of_single single, first]
    rfl
  | nested name arguments =>
    obtain ⟨identifier, plain⟩ := wellFormed
    have first : "  " ++ name ++ " \x7b" = opening name "\x7b" :=
      String.toList_inj.mp (by simp [opening])
    have single : ∀ line ∈ (nested name arguments).lines, '\n' ∉ line.toList := by
      intro line member
      simp only [lines, List.mem_append, List.mem_singleton, List.mem_map] at member
      rcases member with (rfl | ⟨argument, present, rfl⟩) | rfl
      · simp [newline_not_mem_identifier identifier]
      · exact newline_not_mem_argumentLine (plain argument present).1 (plain argument present).2
      · decide
    rw [flatMap_textLines single, lines, first]
    rfl
  | document name content =>
    obtain ⟨rfl, _, trimmed⟩ := wellFormed
    have first : '\n' ∉ ("  " ++ "policy" ++ " = <<" ++ documentMark).toList := by decide
    have mark : '\n' ∉ documentMark.toList := by decide
    rw [lines, trimmed, List.flatMap_cons, List.flatMap_cons, List.flatMap_singleton,
      textLines_of_single first, textLines_of_single mark]
    rfl
  | mapping name entries =>
    have first : "  " ++ name ++ " = \x7b" = opening name "= \x7b" :=
      String.toList_inj.mp (by simp [opening])
    have single : ∀ line ∈ (mapping name entries).lines, '\n' ∉ line.toList := by
      intro line member
      simp only [lines, List.mem_append, List.mem_singleton, List.mem_map] at member
      rcases member with (rfl | ⟨entry, present, rfl⟩) | rfl
      · simp [newline_not_mem_identifier wellFormed]
      · exact newline_not_mem_entryLine entry
      · decide
    rw [flatMap_textLines single, lines, first]
    rfl

/-- The lines of a well-formed block are read back: the header is one line, the
items are read back one by one, and the lines that end the block are fixed. -/
theorem Block.flatMap_lines {block : Block} (wellFormed : block.WellFormed) :
    block.lines.flatMap textLines = block.written := by
  have items : (block.items.flatMap Item.lines).flatMap textLines =
      block.items.flatMap Item.written := by
    rw [List.flatMap_assoc]
    exact List.flatMap_congr fun item member => Item.flatMap_lines (wellFormed item member)
  have ending : ["\x7d", ""].flatMap textLines = [blockEnd, ""] := flatMap_textLines (by decide)
  rw [lines, List.flatMap_append, List.flatMap_append, List.flatMap_singleton,
    textLines_of_single (newline_not_mem_header block.address), items, ending]
  rfl

/-- The lines of well-formed blocks are read back, and an empty one behind them, as
the code ends in a newline. -/
theorem textLines_printBlocks {blocks : List Block}
    (wellFormed : ∀ block ∈ blocks, block.WellFormed) :
    textLines (printBlocks blocks) = blocks.flatMap Block.written ++ [""] := by
  have read : (blocks.flatMap Block.lines).flatMap textLines = blocks.flatMap Block.written := by
    rw [List.flatMap_assoc]
    exact List.flatMap_congr fun block member => Block.flatMap_lines (wellFormed block member)
  rw [printBlocks, textLines_unlines, read]

/-- Every item of a list is well-formed once it is trimmed. The lists that make up
what is said about a node are put together from such lists. -/
def TrimmedWellFormed (items : List Item) : Prop := ∀ item ∈ items, item.trimmed.WellFormed

/-- No items are well-formed, which starts every list built item by item. -/
theorem TrimmedWellFormed.nil : TrimmedWellFormed [] := fun _ member => by cases member

/-- One more item may be put in front, if it is well-formed once trimmed. -/
theorem TrimmedWellFormed.cons {item : Item} {items : List Item}
    (first : item.trimmed.WellFormed) (rest : TrimmedWellFormed items) :
    TrimmedWellFormed (item :: items) :=
  List.forall_mem_cons.mpr ⟨first, rest⟩

/-- Lists of items may be joined, as the parts of what is said about a node are. -/
theorem TrimmedWellFormed.append {first second : List Item} (left : TrimmedWellFormed first)
    (right : TrimmedWellFormed second) : TrimmedWellFormed (first ++ second) :=
  List.forall_mem_append.mpr ⟨left, right⟩

/-- The tags of a resource are well-formed, whatever they hold. Keys and values of a
mapping need no condition. -/
theorem tagsItem_wellFormed (settings : GeneratorSettings) (name : String) (tags : Tags) :
    TrimmedWellFormed [tagsItem settings name tags] :=
  .cons (show isIdentifier "tags" = true by decide) .nil

/-- A text that may be left out is well-formed under any identifier. If it is left
out there is no item at all. -/
theorem optionalText_wellFormed {name : String} (identifier : isIdentifier name = true)
    (value : Option String) : TrimmedWellFormed (optionalText name value) := by
  cases value with
  | none => exact .nil
  | some text => exact .cons ⟨identifier, trivial⟩ .nil

/-- A subnet is named bare only if it is an identifier. Otherwise it is written as a
literal, which may hold any text. -/
theorem subnetItem_wellFormed (subnet : String) : TrimmedWellFormed (subnetItem subnet) := by
  by_cases absent : subnet = ""
  · rw [subnetItem, if_pos absent]
    exact .nil
  rw [subnetItem, if_neg absent]
  by_cases bare : isIdentifier subnet = true
  · rw [if_pos bare]
    exact .cons ⟨by decide, bare⟩ .nil
  · rw [if_neg bare]
    exact .cons ⟨by decide, trivial⟩ .nil

/-- Volumes are well-formed: their three arguments have fixed names, and their
values are literals or numbers. -/
theorem devices_wellFormed (devices : List BlockDevice) :
    TrimmedWellFormed (devices.map deviceItem) := by
  intro item member
  obtain ⟨device, _, rfl⟩ := List.mem_map.mp member
  have name : isIdentifier "device_name" = true := by decide
  have size : isIdentifier "volume_size" = true := by decide
  have type : isIdentifier "volume_type" = true := by decide
  refine ⟨by decide, ?_⟩
  intro argument present
  simp only [List.mem_cons, List.not_mem_nil, or_false] at present
  rcases present with rfl | rfl | rfl
  · exact ⟨name, trivial⟩
  · exact ⟨size, trivial⟩
  · exact ⟨type, trivial⟩

/-- What is said about a network is well-formed. All four names are fixed, and no
text of a user is written bare. -/
theorem networkItems_wellFormed (settings : GeneratorSettings) (attributes : Network) :
    TrimmedWellFormed (networkItems settings attributes) :=
  .cons ⟨by decide, trivial⟩ <| .cons ⟨by decide, trivial⟩ <| .cons ⟨by decide, trivial⟩ <|
    tagsItem_wellFormed settings attributes.name attributes.tags

/-- What is said about an instance is well-formed. The names are fixed, the subnet
chooses its form by what it is, and the security groups are printed on one line. -/
theorem computeItems_wellFormed (settings : GeneratorSettings) (network id : String)
    (attributes : Compute) : TrimmedWellFormed (computeItems settings network id attributes) := by
  have front : TrimmedWellFormed [.argument "ami" (.text attributes.machineImage),
      .argument "instance_type" (.text attributes.instanceType)] :=
    .cons ⟨by decide, trivial⟩ <| .cons ⟨by decide, trivial⟩ .nil
  have groups : TrimmedWellFormed
      [.argument "vpc_security_group_ids" (.texts attributes.securityGroups)] :=
    .cons ⟨by decide, trivial⟩ .nil
  exact front.append (subnetItem_wellFormed attributes.subnet) |>.append groups
    |>.append (optionalText_wellFormed (by decide) attributes.instanceProfile)
    |>.append (optionalText_wellFormed (by decide) attributes.keyName)
    |>.append (devices_wellFormed attributes.blockDevices)
    |>.append (tagsItem_wellFormed settings _ attributes.tags)

/-- What is said about a bucket is well-formed if its policy does not hold the mark.
It is the only condition of the whole diagram; trimming the policy adds no line to
it. -/
theorem storageItems_wellFormed (settings : GeneratorSettings) {attributes : Storage}
    (unmarked : ∀ policy ∈ attributes.policy, documentMark ∉ textLines policy) :
    TrimmedWellFormed (storageItems settings attributes) := by
  have bucket : TrimmedWellFormed [.argument "bucket" (.text attributes.bucketName)] :=
    .cons ⟨by decide, trivial⟩ .nil
  have force : TrimmedWellFormed (attributes.forceDestroy.map fun force =>
      Item.argument "force_destroy" (.flag force)).toList := by
    cases attributes.forceDestroy with
    | none => exact .nil
    | some force => exact .cons ⟨by decide, trivial⟩ .nil
  have versioning : TrimmedWellFormed
      [.nested "versioning" [("enabled", .flag attributes.versioned)]] :=
    .cons ⟨by decide, List.forall_mem_singleton.mpr
      ⟨show isIdentifier "enabled" = true by decide, trivial⟩⟩ .nil
  have policy : TrimmedWellFormed (attributes.policy.map fun policy =>
      Item.document "policy" policy).toList := by
    cases present : attributes.policy with
    | none => exact .nil
    | some policy =>
      have absent : documentMark ∉ textLines (trimNewlines policy) := fun member =>
        unmarked policy present (mem_textLines_of_trimNewlines member)
      exact .cons ⟨rfl, absent, trimNewlines_trimNewlines policy⟩ .nil
  exact bucket.append force
    |>.append (optionalText_wellFormed (by decide) attributes.accessControl)
    |>.append versioning |>.append policy
    |>.append (tagsItem_wellFormed settings _ attributes.tags)

/-- The trimmed block of a node is well-formed if its policy does not hold the mark.
Nodes of other kinds hold no policy and meet the condition. -/
theorem block?_wellFormed {settings : GeneratorSettings} {network : String → String} {node : Node}
    {block : Block} (unmarked : ∀ policy ∈ policy? node, documentMark ∉ textLines policy)
    (readable : block? settings network node = some block) : block.trimmed.WellFormed := by
  have items : TrimmedWellFormed block.items := by
    obtain ⟨id, payload, position⟩ := node
    cases payload with
    | network attributes =>
      cases readable
      exact networkItems_wellFormed settings attributes
    | compute attributes =>
      cases readable
      exact computeItems_wellFormed settings (network id) id attributes
    | storage attributes =>
      cases readable
      exact storageItems_wellFormed settings unmarked
    | unrecognized tag fields => cases readable
    | malformed raw => cases readable
  exact List.forall_mem_map.mpr items

/-- The trimmed blocks of a diagram whose policies do not hold the mark are
well-formed. Every block is that of a node, so the condition on the nodes suffices.
-/
theorem blocks_wellFormed (settings : GeneratorSettings) {nodes : List Node}
    (edges : List Connection) (unmarked : Unmarked nodes) :
    ∀ block ∈ (blocks settings nodes edges).map Block.trimmed, block.WellFormed := by
  refine List.forall_mem_map.mpr ?_
  intro block member
  obtain ⟨node, inNodes, readable⟩ := List.mem_filterMap.mp member
  exact block?_wellFormed (unmarked node inNodes) readable

end CloudDiagram.Terraform
