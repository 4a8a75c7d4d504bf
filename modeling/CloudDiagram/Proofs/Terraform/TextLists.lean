import CloudDiagram.Proofs.Diagnostic.Report
import CloudDiagram.Proofs.Json.Walks
import CloudDiagram.Proofs.Terraform.QuotedTexts
import CloudDiagram.Proofs.Terraform.Unambiguous

/-!
# Lists of texts

The security groups of an instance are written as a JSON array, while whoever reads the code reads
a list of quoted texts. The two agree on brackets and commas, so such a list is read item by item,
each as it is quoted, and the first one that cannot be read is the fault of the list.

What an instance gives as its security groups is found in its code by the name of the argument: no
other line opens with that name, as a name is an identifier and the lines inside an item are
indented further. The list is therefore read as the groups exactly if each of them is read back
from JSON as itself.
-/

namespace CloudDiagram.Terraform

/-- Why a list of quoted texts cannot be read. A fault of an item says which rule of
quoted texts it breaks. -/
inductive ListFault where
  /-- Something else stands where a quote, a comma or a bracket should. -/
  | shape
  /-- One of the texts cannot be read. -/
  | item (fault : LiteralFault)
deriving DecidableEq, Repr

/-- Read quoted texts with commas between them, up to the bracket that closes their
list. The first argument bounds the number of texts. -/
def readItemsWithin : Nat → List Char → Except ListFault (List String × List Char)
  | 0, _ => .error .shape
  | bound + 1, text =>
    match Json.skipSpace text with
    | ']' :: rest => .ok ([], rest)
    | '"' :: body =>
      match readQuoted body with
      | .error fault => .error (.item fault)
      | .ok (item, rest) =>
        match Json.skipSpace rest with
        | ']' :: rest => .ok ([item], rest)
        | ',' :: rest => (readItemsWithin bound rest).map fun (items, after) => (item :: items, after)
        | _ => .error .shape
    | _ => .error .shape

/-- Read a text that is one list of quoted texts, with nothing but space behind it.
-/
def readTexts (text : String) : Except ListFault (List String) :=
  match Json.skipSpace text.toList with
  | '[' :: rest =>
    match readItemsWithin rest.length rest with
    | .error fault => .error fault
    | .ok (items, after) => if Json.skipSpace after = [] then .ok items else .error .shape
  | _ => .error .shape

example : readTexts "[ \"a\\u0041\",\"$$\x7bb\x7d\" , ]" = .ok ["aA", "$\x7bb\x7d"] := by decide

/-- A list of texts, quoted in some way, with commas between them. The code has such
a list quoted as JSON, and literals would be another way. -/
def bracketed (quote : String → List Char) (items : List String) : String :=
  String.ofList ('[' :: (Json.parted true (items.map quote) ++ [']']))

/-- A list of texts is printed with each of them as a JSON string, unlike every
other text of a user in the code. -/
theorem Expression.print_texts (items : List String) :
    print (.texts items) = bracketed Json.quotedChars items := by
  have chars : Json.Value.chars ∘ Json.Value.string = Json.quotedChars := rfl
  simp [print, Json.Value.ofTexts, Json.Value.text, Json.Value.chars, Json.Value.itemsChars_eq,
    List.map_map, chars, bracketed]

section

variable {quote : String → List Char} {meant : String → Except LiteralFault String}

/-- Quoted texts with commas between them are read one by one, up to the closing
bracket. The induction is over the texts: the first one is read as it is quoted, and
then either the bracket or a comma follows. -/
theorem readItemsWithin_parted (quotes : QuotesAs quote meant) {bound : Nat} {items : List String}
    (enough : items.length < bound) (rest : List Char) :
    readItemsWithin bound (Json.parted true (items.map quote) ++ ']' :: rest) =
      ((items.mapM meant).mapError .item).map (·, rest) := by
  have closing : Json.isSpace ']' = false := by decide
  have comma : Json.isSpace ',' = false := by decide
  have opening : Json.isSpace '"' = false := by decide
  induction items generalizing bound with
  | nil =>
    obtain ⟨bound, rfl⟩ := Nat.exists_eq_succ_of_ne_zero (Nat.ne_of_gt enough)
    simp [Json.parted, readItemsWithin, Json.skipSpace_cons closing, Except.mapError, Except.map,
      pure, Except.pure]
  | cons item items inductionHypothesis =>
    obtain ⟨bound, rfl⟩ := Nat.exists_eq_succ_of_ne_zero (Nat.ne_of_gt (Nat.zero_lt_of_lt enough))
    obtain ⟨body, quoted, read⟩ := quotes item (Json.parted false (items.map quote) ++ ']' :: rest)
    have others := inductionHypothesis (Nat.lt_of_succ_lt_succ enough)
    rw [List.map_cons, Json.parted, List.append_assoc, quoted, readItemsWithin,
      Json.skipSpace_cons opening]
    simp only [read, List.mapM_cons]
    cases denoted : meant item with
    | error fault => rfl
    | ok text =>
      cases items with
      | nil => simp [Json.parted, Json.skipSpace_cons closing, Except.map, Except.mapError, bind,
          Except.bind, pure, Except.pure]
      | cons next items =>
        -- behind the comma the rest is read as a list of its own
        have behind : Json.parted false ((next :: items).map quote) ++ ']' :: rest =
            ',' :: (Json.parted true ((next :: items).map quote) ++ ']' :: rest) := by
          simp [Json.parted]
        simp only [Except.map, behind, Json.skipSpace_cons comma, others]
        cases (next :: items).mapM meant <;> rfl

/-- A written list of texts is read item by item: what each of them is read as, or
the fault of the first one that cannot be read. -/
theorem readTexts_bracketed (quotes : QuotesAs quote meant) (items : List String) :
    readTexts (bracketed quote items) = (items.mapM meant).mapError .item := by
  have opening : Json.isSpace '[' = false := by decide
  have nonempty : ∀ item ∈ items, quote item ≠ [] := by
    intro item _ empty
    obtain ⟨body, quoted, -⟩ := quotes item []
    rw [empty] at quoted
    cases quoted
  have enough : items.length < (Json.parted true (items.map quote) ++ [']']).length := by
    have fewer := Json.length_lt_parted nonempty true []
    rw [List.append_nil] at fewer
    rw [List.length_append, List.length_singleton]
    exact fewer
  rw [readTexts, bracketed, String.toList_ofList, Json.skipSpace_cons opening]
  simp only [readItemsWithin_parted quotes enough []]
  cases items.mapM meant <;> rfl

/-- All items of a list mean themselves exactly if the list does. One that is
refused, or that means another text, shows in the result. -/
theorem mapM_eq_ok_self_iff {items : List String} :
    items.mapM meant = .ok items ↔ ∀ item ∈ items, meant item = .ok item := by
  induction items with
  | nil => simp [pure, Except.pure]
  | cons item items inductionHypothesis =>
    rw [List.mapM_cons, List.forall_mem_cons, ← inductionHypothesis]
    cases meant item <;> cases items.mapM meant <;> simp [bind, Except.bind, pure, Except.pure]

/-- A written list of texts is read as itself exactly if each of its texts is. -/
theorem readTexts_bracketed_eq_iff (quotes : QuotesAs quote meant) {items : List String} :
    readTexts (bracketed quote items) = .ok items ↔ ∀ item ∈ items, meant item = .ok item := by
  rw [readTexts_bracketed quotes, ← mapM_eq_ok_self_iff]
  cases items.mapM meant <;> simp [Except.mapError]

end

/-- What a line gives as an argument of the given name, if it gives one: the text
behind the equals sign. -/
def argumentText? (name line : String) : Option String :=
  (line.toList.dropPrefix? (opening name "= ").toList).map String.ofList

/-- All that is given in a code as an argument of the given name, line by line.
Lines of other forms and of other names give nothing. -/
def argumentTexts (name code : String) : List String :=
  (textLines code).filterMap (argumentText? name)

/-- A line gives an argument if it opens with its name and an equals sign; the text
is what stands behind them. -/
theorem argumentText?_eq_some_iff {name line text : String} :
    argumentText? name line = some text ↔ line = opening name ("= " ++ text) := by
  have shape : (opening name ("= " ++ text)).toList = (opening name "= ").toList ++ text.toList := by
    simp [opening]
  rw [argumentText?, Option.map_eq_some_iff, ← String.toList_inj, shape]
  constructor
  · rintro ⟨letters, dropped, rfl⟩
    obtain ⟨front, whole, same⟩ := List.dropPrefix?_eq_some_iff.mp dropped
    rw [whole, eq_of_beq same, String.toList_ofList]
  · intro whole
    have dropped := List.dropPrefix?_eq_some_iff.mpr ⟨_, whole, beq_self_eq_true _⟩
    exact ⟨text.toList, dropped, String.ofList_toList⟩

/-- A line that does not open with the name gives nothing under it, whatever form it
has. -/
theorem argumentText?_eq_none {name line : String} (other : ∀ sign, line ≠ opening name sign) :
    argumentText? name line = none := by
  refine Option.eq_none_iff_forall_ne_some.mpr ?_
  intro text given
  exact other _ (argumentText?_eq_some_iff.mp given)

/-- A line inside an item gives nothing, as no name starts with a space. It is
indented by four blanks, and the line of an argument by two. -/
theorem argumentText?_indented {name line : String} (identifier : isIdentifier name = true)
    (indented : Indented line) : argumentText? name line = none := by
  refine argumentText?_eq_none ?_
  intro sign same
  obtain ⟨more, rfl⟩ := indented
  have letters : ' ' :: ' ' :: more.toList = name.toList ++ ' ' :: sign.toList := by
    simpa [opening] using congrArg String.toList same
  cases spelled : name.toList with
  | nil =>
    have named := identifier
    rw [isIdentifier, spelled] at named
    cases named
  | cons first others =>
    rw [spelled] at letters
    have space : ' ' ∈ name.toList := by
      rw [spelled, (List.cons.inj letters).1]
      exact List.mem_cons_self
    exact space_not_mem_identifier identifier space

/-- The end of an item gives nothing: it has no space behind its brace, and a name
would be followed by one. -/
theorem argumentText?_itemEnd (name : String) : argumentText? name itemEnd = none := by
  refine argumentText?_eq_none ?_
  intro sign same
  have letters : ['\x7d'] = name.toList ++ ' ' :: sign.toList := by
    simpa [opening, itemEnd] using congrArg String.toList same
  have space : ' ' ∈ ['\x7d'] := by
    rw [letters]
    exact List.mem_append_right _ List.mem_cons_self
  exact absurd space (by decide)

/-- Only the first line of an item gives an argument, if the item is no document.
The lines of a document may be any, and its own text could look like an argument. -/
theorem filterMap_written {name : String} (identifier : isIdentifier name = true) {item : Item}
    (plain : item.form ≠ .document) :
    item.written.filterMap (argumentText? name) =
      (argumentText? name (opening item.name item.sign)).toList := by
  have inside (lines : List String) (indented : ∀ line ∈ lines, Indented line) :
      (lines ++ [itemEnd]).filterMap (argumentText? name) = [] := by
    refine List.filterMap_eq_nil_iff.mpr (List.forall_mem_append.mpr ⟨?_, ?_⟩)
    · exact fun line member => argumentText?_indented identifier (indented line member)
    · exact List.forall_mem_singleton.mpr (argumentText?_itemEnd name)
  have body : item.body.filterMap (argumentText? name) = [] := by
    cases item with
    | argument own value => rfl
    | nested own arguments =>
      exact inside _ (List.forall_mem_map.mpr fun argument _ => argumentLine_indented argument)
    | document own content => exact absurd rfl plain
    | mapping own entries =>
      exact inside _ (List.forall_mem_map.mpr fun entry _ => entryLine_indented entry)
  rw [Item.written, List.filterMap_cons, body]
  cases argumentText? name (opening item.name item.sign) <;> rfl

/-- An item gives an argument only under its own name, which is an identifier and
therefore read up to the first space. -/
theorem filterMap_items {name : String} (identifier : isIdentifier name = true) {items : List Item}
    (wellFormed : ∀ item ∈ items, item.WellFormed) (plain : ∀ item ∈ items, item.form ≠ .document) :
    (items.flatMap Item.written).filterMap (argumentText? name) =
      (said name items).filterMap fun item => argumentText? name (opening item.name item.sign) := by
  induction items with
  | nil => rfl
  | cons item items inductionHypothesis =>
    obtain ⟨good, others⟩ := List.forall_mem_cons.mp wellFormed
    obtain ⟨first, rest⟩ := List.forall_mem_cons.mp plain
    rw [List.flatMap_cons, List.filterMap_append, filterMap_written identifier first,
      inductionHypothesis others rest, said_cons]
    by_cases own : item.name = name
    · rw [if_pos own, List.filterMap_cons]
      cases argumentText? name (opening item.name item.sign) <;> rfl
    · have nothing : argumentText? name (opening item.name item.sign) = none :=
        argumentText?_eq_none fun sign same =>
          own (opening_inj good.identifier identifier same).1
      rw [if_neg own, nothing, Option.toList_none, List.nil_append]

/-- What a block without a document gives as arguments of a name is what its items
do. Neither the header nor the lines that end the block are such a line. -/
theorem argumentTexts_printBlocks {name : String} (identifier : isIdentifier name = true)
    {block : Block} (wellFormed : block.WellFormed) (plain : said "policy" block.items = []) :
    argumentTexts name (printBlocks [block]) = (said name block.items).filterMap fun item =>
      argumentText? name (opening item.name item.sign) := by
  have noDocument : ∀ item ∈ block.items, item.form ≠ .document := by
    intro item member document
    have named : item.name = "policy" := by
      cases item with
      | document own content => exact (wellFormed _ member).1
      | argument _ _ | nested _ _ | mapping _ _ => cases document
    have found : item ∈ said "policy" block.items :=
      List.mem_filter.mpr ⟨member, decide_eq_true named⟩
    rw [plain] at found
    cases found
  have around : ∀ line ∈ [Block.header block.address, blockEnd, ""],
      argumentText? name line = none := by
    intro line member
    refine argumentText?_eq_none ?_
    rintro sign rfl
    simp only [List.mem_cons, List.not_mem_nil, or_false] at member
    rcases member with same | same | same
    all_goals simpa [opening, Block.header, blockEnd] using congrArg String.toList same
  obtain ⟨header, ending, last⟩ : _ ∧ _ ∧ _ := by simpa using around
  rw [argumentTexts, textLines_printBlocks (by simpa using wellFormed)]
  simp [Block.written, header, ending, last, filterMap_items identifier wellFormed noDocument]

/-- What an instance gives as its security groups is one list, written in JSON. No
other item of an instance bears that name, and none is a document. -/
theorem argumentTexts_securityGroups (settings : GeneratorSettings) (nodes : List Node)
    (edges : List Connection) (id : String) (position : Position) (attributes : Compute) :
    argumentTexts "vpc_security_group_ids"
        (nodeCode settings nodes edges { id, position, payload := .compute attributes }) =
      [bracketed Json.quotedChars attributes.securityGroups] := by
  let network := networkName settings (Links.ofLists nodes edges) nodes id
  let block : Block :=
    ⟨⟨"aws_instance", instanceName network id⟩, computeItems settings network id attributes⟩
  have wellFormed : block.WellFormed := by
    have trimmed := computeItems_wellFormed settings network id attributes
    rw [TrimmedWellFormed, ← List.forall_mem_map, trimmed_computeItems] at trimmed
    exact trimmed
  have plain : said "policy" block.items = [] := by simp [block, computeItems]
  have groups : said "vpc_security_group_ids" block.items =
      [.argument "vpc_security_group_ids" (.texts attributes.securityGroups)] := by
    simp [block, computeItems]
  have given : argumentText? "vpc_security_group_ids"
      (opening "vpc_security_group_ids" ("= " ++ Expression.print (.texts attributes.securityGroups)))
        = some (bracketed Json.quotedChars attributes.securityGroups) := by
    rw [Expression.print_texts]
    exact argumentText?_eq_some_iff.mpr rfl
  change argumentTexts _ (printBlocks [block]) = _
  rw [argumentTexts_printBlocks (by decide) wellFormed plain, groups]
  exact List.filterMap_cons_some given

/-- Take any instance in any diagram. The code is what the nodes before it add, what
it adds, and what the nodes behind it add. In what it adds, one text is given as its
security groups. Read as a list of quoted texts it gives each group as it is read
back from JSON, or the fault of the first one that is not. So it gives the groups
themselves if and only if all of them are common to both languages. A list of
literals would give them in any case. -/
theorem security_groups_read_back_iff (settings : GeneratorSettings) (before after : List Node)
    (edges : List Connection) (id : String) (position : Position) (attributes : Compute) :
    let node : Node := { id, position, payload := .compute attributes }
    let code := nodeCode settings (before ++ node :: after) edges
    let groups := attributes.securityGroups
    generate settings (before ++ node :: after) edges =
        String.join (before.map code) ++ code node ++ String.join (after.map code) ∧
      ∃ written, argumentTexts "vpc_security_group_ids" (code node) = [written] ∧
        readTexts written = (groups.mapM fun group =>
          (readBack group.toList).map String.ofList).mapError .item ∧
        (readTexts written = .ok groups ↔ ∀ group ∈ groups, Common group.toList) ∧
        readTexts (bracketed (fun group => (literal group).toList) groups) = .ok groups := by
  intro node code groups
  have written := argumentTexts_securityGroups settings (before ++ node :: after) edges id position
    attributes
  refine ⟨?_, _, written, readTexts_bracketed quotesAs_json groups, ?_, ?_⟩
  · rw [generate_eq_join, List.map_append, List.map_cons, String.join_append, String.join_cons,
      String.append_assoc]
  · rw [readTexts_bracketed_eq_iff quotesAs_json]
    refine forall₂_congr fun group _ => ?_
    rw [← readBack_eq_self_iff]
    cases readBack group.toList <;> simp [Except.map, ← String.toList_inj]
  · exact (readTexts_bracketed_eq_iff quotesAs_literal).mpr fun _ _ => rfl

/-- A group that looks like a template is refused. What was drawn as the name of a
group would be taken for a reference to something else. -/
theorem security_groups_open_template :
    ¬∀ (settings : GeneratorSettings) (nodes : List Node) (edges : List Connection) (node : Node)
      (attributes : Compute), node ∈ nodes → node.payload = .compute attributes →
      (argumentTexts "vpc_security_group_ids" (nodeCode settings nodes edges node)).map readTexts =
        [.ok attributes.securityGroups] := by
  intro denoted
  let attributes : Compute := {
    instanceType := "t2.micro", machineImage := "ami-1", securityGroups := ["$\x7bvar.sg\x7d"] }
  let node : Node := { id := "c", payload := .compute attributes }
  have read := denoted {} [node] [] node attributes List.mem_cons_self rfl
  rw [argumentTexts_securityGroups] at read
  revert read
  decide

end CloudDiagram.Terraform
